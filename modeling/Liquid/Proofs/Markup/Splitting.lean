import Liquid.Proofs.Markup.Scanning

/-!
# Scanning up to a character between lexemes

A character that no lexeme goes on with ends every lexeme in front of it, unless it stands in a string. So the lexemes
in front of a parenthesis or a blank are those of the text before it, and the others those of the text that begins with
it.
-/

namespace Liquid

/-- A fault of a markup without the markup that it quotes. -/
def Fault.unquoted : Fault → Fault
  | unterminatedString _ => unterminatedString ""
  | unexpectedCharacter character _ => unexpectedCharacter character ""
  | unexpectedLexeme lexeme _ => unexpectedLexeme lexeme ""
  | unexpectedEnd _ => unexpectedEnd ""
  | keywordArgument _ => keywordArgument ""
  | fault => fault

/-- Two results are alike: both succeed with related values, or both fail in the same way, whatever markup they quote. -/
inductive Alike {α β : Type} (related : α → β → Prop) : Except Fault α → Except Fault β → Prop where
  | ok {value : α} {other : β} (h : related value other) : Alike related (.ok value) (.ok other)
  | error {fault other : Fault} (h : fault.unquoted = other.unquoted) : Alike related (.error fault) (.error other)

namespace Alike

variable {α β γ δ : Type} {related : α → β → Prop} {first : Except Fault α} {second : Except Fault β}

theorem refl (result : Except Fault α) : Alike Eq result result := by
  cases result with
  | ok value => exact .ok rfl
  | error fault => exact .error rfl

theorem ite {first' : Except Fault α} {second' : Except Fault β} {condition : Prop} [Decidable condition]
    (hfirst : Alike related first second) (hsecond : Alike related first' second') :
    Alike related (if condition then first else first') (if condition then second else second') := by
  by_cases hcondition : condition
  · simpa only [if_pos hcondition] using hfirst
  · simpa only [if_neg hcondition] using hsecond

/-- What goes on alike stays alike. -/
theorem bind {continued : γ → δ → Prop} {next : α → Except Fault γ} {next' : β → Except Fault δ}
    (h : Alike related first second)
    (hnext : ∀ value other, first = .ok value → related value other → Alike continued (next value) (next' other)) :
    Alike continued (first >>= next) (second >>= next') := by
  cases h with
  | ok h => exact hnext _ _ rfl h
  | error h => exact .error h

theorem mono {weaker : α → β → Prop} (h : Alike related first second)
    (hweaker : ∀ value other, related value other → weaker value other) : Alike weaker first second := by
  cases h with
  | ok h => exact .ok (hweaker _ _ h)
  | error h => exact .error h

theorem trans {related' : β → γ → Prop} {third : Except Fault γ} (h : Alike related first second)
    (h' : Alike related' second third) :
    Alike (fun value other ↦ ∃ between, related value between ∧ related' between other) first third := by
  cases h with
  | ok h =>
    cases h' with
    | ok h' => exact .ok ⟨_, h, h'⟩
  | error h =>
    cases h' with
    | error h' => exact .error (h.trans h')

theorem exists_of_ok {value : α} (h : Alike related (.ok value) second) :
    ∃ other, second = .ok other ∧ related value other := by
  cases h with
  | ok h => exact ⟨_, rfl, h⟩

theorem of_error {fault : Fault} (h : Alike related (.error fault : Except Fault α) second) (related' : γ → β → Prop) :
    Alike related' (.error fault) second := by
  cases h with
  | error h => exact .error h

end Alike

namespace Lexeme

variable {source other : String} {c d quote : Char} {lexeme : Lexeme} {rest front back : List Char} {more : Nat}

/-! ## Spelling -/

/-- The quotes and the parentheses. -/
def marks : List Char := ['\'', '"', '(', ')']

/-- How a lexeme is spelled: a string in its quotes, a parenthesis, or anything else without quotes and parentheses. -/
inductive IsSpelled : Lexeme → List Char → Prop where
  | text {quote : Char} {content : List Char} (hquote : quote = '\'' ∨ quote = '"') (hcontent : quote ∉ content) :
      IsSpelled (.text (String.ofList content)) (quote :: content ++ [quote])
  | openParen : IsSpelled .openParen ['(']
  | closeParen : IsSpelled .closeParen [')']
  | plain {lexeme : Lexeme} {text : List Char} (hopen : lexeme ≠ .openParen) (hclose : lexeme ≠ .closeParen)
      (hplain : ∀ c ∈ text, c ∉ marks) : IsSpelled lexeme text

/-- Characters of a class to which no quote and no parenthesis belongs are neither. -/
theorem not_mem_marks {class_ : Char → Bool} (hmarks : marks.any class_ = false) (h : class_ c = true) : c ∉ marks :=
  fun hmem ↦ List.any_eq_false.1 hmarks c hmem h

theorem isDigit_not_mem_marks (h : c.isDigit = true) : c ∉ marks := not_mem_marks (by decide) h

theorem takeFraction_plain (text : List Char) :
    takeFraction text <+: text ∧ ∀ d ∈ takeFraction text, d ∉ marks := by
  match text with
  | [] => exact ⟨List.nil_prefix, List.forall_mem_nil _⟩
  | c :: rest =>
    by_cases hpoint : c = '.'
    · subst hpoint
      rw [takeFraction_point]
      split
      · exact ⟨List.nil_prefix, List.forall_mem_nil _⟩
      · refine ⟨(List.prefix_cons_inj _).2 (List.takeWhile_prefix _), List.forall_mem_cons.2 ⟨by decide, ?_⟩⟩
        exact fun d hd ↦ isDigit_not_mem_marks (List.mem_takeWhile_imp hd)
    · rw [takeFraction_of_ne hpoint]
      exact ⟨List.nil_prefix, List.forall_mem_nil _⟩

theorem unsigned_plain (text : List Char) : unsigned text <+: text ∧ ∀ d ∈ unsigned text, d ∉ marks := by
  obtain ⟨hbegins, hfraction⟩ := takeFraction_plain (text.dropWhile Char.isDigit)
  refine ⟨?_, List.forall_mem_append.2 ⟨fun d hd ↦ isDigit_not_mem_marks (List.mem_takeWhile_imp hd), hfraction⟩⟩
  calc unsigned text <+: text.takeWhile Char.isDigit ++ text.dropWhile Char.isDigit :=
        (List.prefix_append_right_inj _).2 hbegins
    _ = text := List.takeWhile_append_dropWhile

/-- The number at the start of a text is written without quotes and parentheses. -/
theorem takeNumber?_plain {number : List Char} (h : takeNumber? (c :: rest) = some number) :
    number <+: c :: rest ∧ ∀ d ∈ number, d ∉ marks := by
  by_cases hminus : c = '-'
  · subst hminus
    rw [takeNumber?_minus] at h
    split at h
    · cases h
    · obtain rfl := Option.some.inj h
      obtain ⟨hbegins, hplain⟩ := unsigned_plain rest
      exact ⟨(List.prefix_cons_inj _).2 hbegins, List.forall_mem_cons.2 ⟨by decide, hplain⟩⟩
  · rw [takeNumber?_of_ne hminus] at h
    split at h
    · cases h
    · obtain rfl := Option.some.inj h
      exact unsigned_plain (c :: rest)

theorem takeIdent_plain (text : List Char) : takeIdent text <+: text ∧ ∀ d ∈ takeIdent text, d ∉ marks := by
  have hname : ∀ d ∈ text.takeWhile continuesIdent, d ∉ marks :=
    fun d hd ↦ not_mem_marks (by decide) (List.mem_takeWhile_imp hd)
  have hwhole : text.takeWhile continuesIdent ++ text.dropWhile continuesIdent = text :=
    List.takeWhile_append_dropWhile
  rw [takeIdent_eq]
  split
  · next hmark =>
    obtain ⟨others, hothers⟩ := List.head?_eq_some_iff.1 hmark
    refine ⟨⟨others, ?_⟩, List.forall_mem_append.2 ⟨hname, List.forall_mem_singleton.2 (by decide)⟩⟩
    rw [List.append_assoc, List.singleton_append, ← hothers, hwhole]
  · rw [List.append_nil]
    exact ⟨List.takeWhile_prefix _, hname⟩

theorem ne_nil_of_takeNumber? {number : List Char} (h : takeNumber? (c :: rest) = some number) : number ≠ [] := by
  by_cases hminus : c = '-'
  · subst hminus
    rw [takeNumber?_minus] at h
    split at h
    · cases h
    · obtain rfl := Option.some.inj h
      exact List.cons_ne_nil _ _
  · rw [takeNumber?_of_ne hminus] at h
    split at h
    · cases h
    · next hdigits =>
      obtain rfl := Option.some.inj h
      exact List.append_ne_nil_of_left_ne_nil (fun hnone ↦ hdigits (List.isEmpty_iff.2 hnone)) _

theorem takeIdent_ne_nil (h : startsIdent c = true) : takeIdent (c :: rest) ≠ [] := by
  rw [takeIdent_eq, List.takeWhile_cons_of_pos (continuesIdent_of_startsIdent h)]
  exact List.cons_ne_nil _ _

theorem ofNumber_ne_paren (number : List Char) : ofNumber number ≠ .openParen ∧ ofNumber number ≠ .closeParen := by
  unfold ofNumber
  dsimp only
  split
  · exact ⟨nofun, nofun⟩
  · split <;> exact ⟨nofun, nofun⟩

/-- Behind its first character a lexeme takes what its number of characters says. -/
theorem take_of_isPrefix {taken : List Char} (h : taken <+: c :: rest) (hne : taken ≠ []) :
    c :: rest.take (taken.length - 1) = taken := by
  obtain ⟨first, others, rfl⟩ := List.exists_cons_of_ne_nil hne
  obtain ⟨rfl, hothers⟩ := List.cons_prefix_cons.1 h
  rw [List.length_cons, Nat.add_sub_cancel, ← List.prefix_iff_eq_take.1 hothers]

/-- What scans a lexeme behind its first character takes what the lexeme is spelled as. -/
def Spells (c : Char) (scanner : (source : String) → List Char → Except Fault (Lexeme × Nat)) : Prop :=
  ∀ source rest lexeme more, scanner source rest = .ok (lexeme, more) → IsSpelled lexeme (c :: rest.take more)

namespace Spells

theorem ite {first second : String → List Char → Except Fault (Lexeme × Nat)} {condition : Prop} [Decidable condition]
    (hfirst : condition → Spells c first) (hsecond : Spells c second) :
    Spells c fun source rest ↦ if condition then first source rest else second source rest := by
  by_cases hcondition : condition
  · simpa only [if_pos hcondition] using hfirst hcondition
  · simpa only [if_neg hcondition] using hsecond

theorem plain {single : Lexeme} {mark : Char} (hmark : mark ∉ marks) (hopen : single ≠ .openParen)
    (hclose : single ≠ .closeParen) (hc : (c == mark) = true) : Spells c fun _ _ ↦ .ok (single, 0) := by
  intro source rest lexeme more h
  obtain ⟨rfl, rfl⟩ := Prod.mk.inj (Except.ok.inj h)
  obtain rfl := eq_of_beq hc
  exact .plain hopen hclose (List.forall_mem_singleton.2 hmark)

theorem openParen (hc : (c == '(') = true) : Spells c fun _ _ ↦ .ok (.openParen, 0) := by
  intro source rest lexeme more h
  obtain ⟨rfl, rfl⟩ := Prod.mk.inj (Except.ok.inj h)
  obtain rfl := eq_of_beq hc
  exact .openParen

theorem closeParen (hc : (c == ')') = true) : Spells c fun _ _ ↦ .ok (.closeParen, 0) := by
  intro source rest lexeme more h
  obtain ⟨rfl, rfl⟩ := Prod.mk.inj (Except.ok.inj h)
  obtain rfl := eq_of_beq hc
  exact .closeParen

theorem fails (fault : String → Fault) : Spells c fun source _ ↦ .error (fault source) := by
  intro source rest lexeme more h
  cases h

theorem text (hc : (c == '\'' || c == '"') = true) : Spells c fun source rest ↦
    let content := rest.takeWhile (· != c)
    if content.length < rest.length then .ok (.text (String.ofList content), content.length + 1)
    else .error (.unterminatedString source) := by
  intro source rest lexeme more h
  dsimp only at h
  split at h
  · next hclosed =>
    obtain ⟨rfl, rfl⟩ := Prod.mk.inj (Except.ok.inj h)
    have hcontent : c ∉ rest.takeWhile (· != c) := by
      intro hmem
      have hne : (c != c) = true := List.mem_takeWhile_imp (p := (· != c)) hmem
      rw [bne_self_eq_false] at hne
      cases hne
    have hwhole : rest.takeWhile (· != c) ++ rest.dropWhile (· != c) = rest := List.takeWhile_append_dropWhile
    -- the string is closed by what ends its content
    obtain ⟨d, later, hlater⟩ : ∃ d later, rest.dropWhile (· != c) = d :: later := by
      apply List.exists_cons_of_ne_nil
      intro hnone
      rw [hnone, List.append_nil] at hwhole
      rw [hwhole] at hclosed
      exact Nat.lt_irrefl _ hclosed
    obtain rfl : d = c := by
      have hhead := List.head?_dropWhile_not (· != c) rest
      rw [hlater] at hhead
      simpa using hhead
    rw [hlater] at hwhole
    generalize rest.takeWhile (· != d) = content at hwhole hcontent ⊢
    rw [← hwhole, List.take_length_add_append]
    exact .text (by simpa using hc) hcontent
  · cases h

theorem dots (hc : (c == '.') = true) : Spells c fun _ rest ↦
    match rest with
    | '.' :: _ => .ok (.dots, 1)
    | _ => .ok (.dot, 0) := by
  intro source rest lexeme more h
  have hpoint : '.' ∉ marks := by decide
  have hplain : ∀ d ∈ ['.', '.'], d ∉ marks := List.forall_mem_cons.2 ⟨hpoint, List.forall_mem_singleton.2 hpoint⟩
  obtain rfl := eq_of_beq hc
  dsimp only at h
  split at h
  · obtain ⟨rfl, rfl⟩ := Prod.mk.inj (Except.ok.inj h)
    exact .plain nofun nofun hplain
  · obtain ⟨rfl, rfl⟩ := Prod.mk.inj (Except.ok.inj h)
    exact .plain nofun nofun (List.forall_mem_cons.1 hplain).2

theorem sign (hc : isSign c = true) : Spells c fun _ rest ↦
    let more := rest.takeWhile isSign
    .ok (.sign (String.ofList (c :: more)), more.length) := by
  intro source rest lexeme more h
  obtain ⟨rfl, rfl⟩ := Prod.mk.inj (Except.ok.inj h)
  have hmarks : marks.any isSign = false := by decide
  have hmore : rest.take (rest.takeWhile isSign).length = rest.takeWhile isSign :=
    (List.prefix_iff_eq_take.1 (List.takeWhile_prefix isSign)).symm
  rw [hmore]
  refine .plain nofun nofun (List.forall_mem_cons.2 ⟨not_mem_marks hmarks hc, fun d hd ↦ ?_⟩)
  exact not_mem_marks hmarks (List.mem_takeWhile_imp hd)

theorem number : Spells c fun source rest ↦
    match takeNumber? (c :: rest) with
    | some number => .ok (ofNumber number, number.length - 1)
    | none => .error (.unexpectedCharacter c source) := by
  intro source rest lexeme more h
  dsimp only at h
  split at h
  · next number hnumber =>
    obtain ⟨rfl, rfl⟩ := Prod.mk.inj (Except.ok.inj h)
    obtain ⟨hbegins, hplain⟩ := takeNumber?_plain hnumber
    obtain ⟨hopen, hclose⟩ := ofNumber_ne_paren number
    rw [take_of_isPrefix hbegins (ne_nil_of_takeNumber? hnumber)]
    exact .plain hopen hclose hplain
  · cases h

theorem ident (hc : startsIdent c = true) : Spells c fun _ rest ↦
    let name := takeIdent (c :: rest)
    .ok (.ident (String.ofList name), name.length - 1) := by
  intro source rest lexeme more h
  obtain ⟨rfl, rfl⟩ := Prod.mk.inj (Except.ok.inj h)
  obtain ⟨hbegins, hplain⟩ := takeIdent_plain (c :: rest)
  rw [take_of_isPrefix hbegins (takeIdent_ne_nil hc)]
  exact .plain nofun nofun hplain

end Spells

/-- Every lexeme takes what it is spelled as. -/
theorem scanOne_spells (c : Char) : Spells c fun source rest ↦ scanOne source c rest := by
  unfold scanOne
  exact .ite Spells.text <| .ite .dots <| .ite (.plain (by decide) nofun nofun) <| .ite (.plain (by decide) nofun nofun) <|
    .ite .openParen <| .ite .closeParen <| .ite (.plain (by decide) nofun nofun) <|
    .ite (.plain (by decide) nofun nofun) <| .ite (.plain (by decide) nofun nofun) <| .ite .sign <|
    .ite (fun _ ↦ .number) <| .ite .ident (.fails _)

/-! ## Quotes -/

/-- The quote that is open behind a text, given the one that is open in front of it. -/
def quoteAfter : (quote : Option Char) → List Char → Option Char
  | quote, [] => quote
  | some quote, c :: rest => quoteAfter (if c == quote then none else some quote) rest
  | none, c :: rest => quoteAfter (if c == '\'' || c == '"' then some c else none) rest

theorem quoteAfter_append (quote? : Option Char) (front back : List Char) :
    quoteAfter quote? (front ++ back) = quoteAfter (quoteAfter quote? front) back := by
  induction front generalizing quote? with
  | nil => cases quote? <;> rfl
  | cons c front ih => cases quote? <;> exact ih _

theorem quoteAfter_plain (h : ∀ d ∈ front, d ∉ marks) : quoteAfter none front = none := by
  induction front with
  | nil => rfl
  | cons c front ih =>
    obtain ⟨hc, hfront⟩ := List.forall_mem_cons.1 h
    have hquote : (c == '\'' || c == '"') = false := by
      simp only [marks, List.mem_cons, not_or] at hc
      simp [hc.1, hc.2.1]
    rw [quoteAfter, hquote]
    exact ih hfront

/-- A string is left at the first quote that closes it. -/
theorem quoteAfter_string {content : List Char} (hcontent : quote ∉ content) :
    quoteAfter (some quote) (content ++ [quote]) = none := by
  induction content with
  | nil => simp [quoteAfter]
  | cons c content ih =>
    rw [List.mem_cons, not_or] at hcontent
    rw [List.cons_append, quoteAfter, if_neg fun hsame ↦ hcontent.1 (eq_of_beq hsame).symm]
    exact ih hcontent.2

theorem mem_of_quoteAfter (h : quoteAfter (some quote) front = none) : quote ∈ front := by
  induction front with
  | nil => cases h
  | cons c front ih =>
    by_cases hsame : c = quote
    · exact List.mem_cons.2 (.inl hsame.symm)
    · rw [quoteAfter, if_neg fun heq ↦ hsame (eq_of_beq heq)] at h
      exact List.mem_cons_of_mem c (ih h)

/-- No lexeme leaves a quote open. -/
theorem IsSpelled.quoteAfter_eq {spelling : List Char} (h : IsSpelled lexeme spelling) :
    quoteAfter none spelling = none := by
  cases h with
  | text hquote hcontent =>
    obtain rfl | rfl := hquote <;> exact quoteAfter_string hcontent
  | openParen => rfl
  | closeParen => rfl
  | plain _ _ hplain => exact quoteAfter_plain hplain

/-! ## Ends -/

/-- No lexeme but a string goes on with a character. -/
structure EndsLexeme (d : Char) : Prop where
  sign : isSign d = false
  ident : continuesIdent d = false
  point : d ≠ '.'
  mark : d ≠ '?'

theorem EndsLexeme.digit (h : EndsLexeme d) : d.isDigit = false := by
  have hident := h.ident
  simp only [continuesIdent, Char.isAlphanum, Bool.or_eq_false_iff] at hident
  exact hident.1.1.2

/-- A run of characters stops at one that does not belong to it. -/
theorem takeWhile_before (class_ : Char → Bool) (hd : class_ d = false) (front back : List Char) :
    (front ++ d :: back).takeWhile class_ = front.takeWhile class_ ∧
      (front ++ d :: back).dropWhile class_ = front.dropWhile class_ ++ d :: back := by
  induction front with
  | nil => simp [hd]
  | cons c front ih => by_cases hc : class_ c = true <;> simp [hc, ih]

theorem takeFraction_before (hd : EndsLexeme d) (front back : List Char) :
    takeFraction (front ++ d :: back) = takeFraction front := by
  match front with
  | [] => exact takeFraction_of_ne hd.point
  | c :: front =>
    rw [List.cons_append]
    by_cases hpoint : c = '.'
    · subst hpoint
      rw [takeFraction_point, takeFraction_point, (takeWhile_before _ hd.digit front back).1]
    · rw [takeFraction_of_ne hpoint, takeFraction_of_ne hpoint]

theorem unsigned_before (hd : EndsLexeme d) (front back : List Char) :
    unsigned (front ++ d :: back) = unsigned front := by
  obtain ⟨htake, hdrop⟩ := takeWhile_before _ hd.digit front back
  rw [unsigned, unsigned, htake, hdrop, takeFraction_before hd]

theorem takeNumber?_before (hd : EndsLexeme d) (c : Char) (front back : List Char) :
    takeNumber? (c :: (front ++ d :: back)) = takeNumber? (c :: front) := by
  by_cases hminus : c = '-'
  · subst hminus
    rw [takeNumber?_minus, takeNumber?_minus, (takeWhile_before _ hd.digit front back).1, unsigned_before hd]
  · rw [takeNumber?_of_ne hminus, takeNumber?_of_ne hminus, ← List.cons_append,
      (takeWhile_before _ hd.digit (c :: front) back).1, unsigned_before hd]

theorem takeIdent_before (hd : EndsLexeme d) (front back : List Char) :
    takeIdent (front ++ d :: back) = takeIdent front := by
  obtain ⟨htake, hdrop⟩ := takeWhile_before _ hd.ident front back
  rw [takeIdent_eq, takeIdent_eq, htake, hdrop]
  cases front.dropWhile continuesIdent with
  | nil => simp [hd.mark]
  | cons c others => rfl

/-- What scans a lexeme behind its first character takes the end of the markup for any character that ends lexemes,
unless it looks for the end of a string there. -/
def StopsBefore (c : Char) (scanner : (source : String) → List Char → Except Fault (Lexeme × Nat)) : Prop :=
  ∀ source front back d, EndsLexeme d → (c = '\'' ∨ c = '"' → c ∈ front) →
    scanner source (front ++ d :: back) = scanner source front

namespace StopsBefore

theorem ite {first second : String → List Char → Except Fault (Lexeme × Nat)} {condition : Prop} [Decidable condition]
    (hfirst : condition → StopsBefore c first) (hsecond : StopsBefore c second) :
    StopsBefore c fun source rest ↦ if condition then first source rest else second source rest := by
  by_cases hcondition : condition
  · simpa only [if_pos hcondition] using hfirst hcondition
  · simpa only [if_neg hcondition] using hsecond

theorem const (result : String → Except Fault (Lexeme × Nat)) : StopsBefore c fun source _ ↦ result source :=
  fun _ _ _ _ _ _ ↦ rfl

theorem text (hc : (c == '\'' || c == '"') = true) : StopsBefore c fun source rest ↦
    let content := rest.takeWhile (· != c)
    if content.length < rest.length then .ok (.text (String.ofList content), content.length + 1)
    else .error (.unterminatedString source) := by
  intro source front back d _ hquote
  obtain ⟨content, later, rfl, hcontent⟩ := List.eq_append_cons_of_mem (hquote (by simpa using hc))
  have hstring (behind : List Char) : (content ++ c :: behind).takeWhile (· != c) = content := by
    rw [(takeWhile_before (· != c) (bne_self_eq_false c) content behind).1, List.takeWhile_eq_self_iff]
    exact fun e he ↦ bne_iff_ne.2 fun hsame ↦ hcontent (hsame ▸ he)
  rw [List.append_assoc, List.cons_append]
  dsimp only
  rw [hstring, hstring, if_pos (by simp), if_pos (by simp)]

theorem dots : StopsBefore c fun _ rest ↦
    match rest with
    | '.' :: _ => .ok (.dots, 1)
    | _ => .ok (.dot, 0) := by
  intro source front back d hd _
  cases front with
  | nil =>
    dsimp only [List.nil_append]
    split
    · next hsame => exact (hd.point (List.cons.inj hsame).1).elim
    · rfl
  | cons e front =>
    by_cases hpoint : e = '.'
    · subst hpoint
      rfl
    · dsimp only [List.cons_append]
      split
      · next hsame => exact (hpoint (List.cons.inj hsame).1).elim
      · split
        · next hsame => exact (hpoint (List.cons.inj hsame).1).elim
        · rfl

theorem sign : StopsBefore c fun _ rest ↦
    let more := rest.takeWhile isSign
    .ok (.sign (String.ofList (c :: more)), more.length) := by
  intro source front back d hd _
  dsimp only
  rw [(takeWhile_before _ hd.sign front back).1]

theorem number : StopsBefore c fun source rest ↦
    match takeNumber? (c :: rest) with
    | some number => .ok (ofNumber number, number.length - 1)
    | none => .error (.unexpectedCharacter c source) := by
  intro source front back d hd _
  dsimp only
  rw [takeNumber?_before hd]

theorem ident : StopsBefore c fun _ rest ↦
    let name := takeIdent (c :: rest)
    .ok (.ident (String.ofList name), name.length - 1) := by
  intro source front back d hd _
  dsimp only
  rw [← List.cons_append, takeIdent_before hd]

end StopsBefore

/-- Every lexeme stops before a character that ends lexemes. -/
theorem scanOne_stopsBefore (c : Char) : StopsBefore c fun source rest ↦ scanOne source c rest := by
  unfold scanOne
  exact .ite StopsBefore.text <| .ite (fun _ ↦ .dots) <| .ite (fun _ ↦ .const _) <| .ite (fun _ ↦ .const _) <|
    .ite (fun _ ↦ .const _) <| .ite (fun _ ↦ .const _) <| .ite (fun _ ↦ .const _) <| .ite (fun _ ↦ .const _) <|
    .ite (fun _ ↦ .const _) <| .ite (fun _ ↦ .sign) <| .ite (fun _ ↦ .number) <| .ite (fun _ ↦ .ident) (.const _)

/-! ## All lexemes -/

theorem quoteAfter_of_blank (hblank : Text.isAsciiBlank c = true) :
    quoteAfter none (c :: rest) = quoteAfter none rest := by
  have hplain : c ∉ marks := not_mem_marks (by decide) hblank
  rw [← List.singleton_append, quoteAfter_append, quoteAfter_plain (List.forall_mem_singleton.2 hplain)]

/-- Behind a lexeme that begins outside of strings, the text goes on outside of strings. -/
theorem quoteAfter_drop (hone : scanOne source c rest = .ok (lexeme, more)) :
    quoteAfter none (c :: rest) = quoteAfter none (rest.drop more) := by
  have hspelled := scanOne_spells c source rest lexeme more hone
  calc quoteAfter none (c :: rest)
    _ = quoteAfter none (c :: rest.take more ++ rest.drop more) := by rw [List.cons_append, List.take_append_drop]
    _ = quoteAfter none (rest.drop more) := by rw [quoteAfter_append, hspelled.quoteAfter_eq]

/-- A lexeme in front of a character that ends lexemes is that of the text before it. -/
theorem scanOne_append (hd : EndsLexeme d) (back : List Char) (hquote : quoteAfter none (c :: rest) = none) :
    scanOne source c (rest ++ d :: back) = scanOne source c rest := by
  refine scanOne_stopsBefore c source rest back d hd fun hopens ↦ mem_of_quoteAfter ?_
  obtain rfl | rfl := hopens <;> exact hquote

theorem scanFrom_blank (hblank : Text.isAsciiBlank c = true) (place : Nat) (rest : List Char) :
    scanFrom source place (c :: rest) = scanFrom source (place + 1) rest := by
  rw [scanFrom, if_pos hblank]

/-- At a character that is no blank a lexeme begins, and the others follow it. -/
theorem scanFrom_lexeme (hblank : ¬Text.isAsciiBlank c = true) (place : Nat) (rest : List Char) :
    scanFrom source place (c :: rest) = (do
      let (lexeme, more) ← scanOne source c rest
      let others ← scanFrom source (place + 1 + more) (rest.drop more)
      return ⟨lexeme, place, place + 1 + more⟩ :: others) := by
  rw [scanFrom, if_neg hblank]
  cases scanOne source c rest with
  | error fault => rfl
  | ok one =>
    change _ = scanFrom source (place + 1 + one.2) (rest.drop one.2) >>= _
    dsimp only
    cases scanFrom source (place + 1 + one.2) (rest.drop one.2) <;> rfl

/-- The lexemes in front of a character that ends lexemes outside of strings are those of the text before it, and the
others are those of the text from it on. -/
theorem scanFrom_append (hd : EndsLexeme d) (back : List Char) (place : Nat) (hquote : quoteAfter none front = none) :
    scanFrom source place (front ++ d :: back) = (do
      let lexemes ← scanFrom source place front
      let others ← scanFrom source (place + front.length) (d :: back)
      return lexemes ++ others) := by
  induction hlength : front.length using Nat.strong_induction_on generalizing front place with
  | _ length ih =>
    subst hlength
    cases front with
    | nil =>
      rw [scanFrom]
      exact (bind_pure _).symm
    | cons c rest =>
      by_cases hblank : Text.isAsciiBlank c = true
      · rw [quoteAfter_of_blank hblank] at hquote
        rw [List.cons_append, scanFrom_blank hblank, scanFrom_blank hblank, ih rest.length (Nat.lt_succ_self _) _ hquote rfl,
          List.length_cons, Nat.add_right_comm, Nat.add_assoc]
      · rw [List.cons_append, scanFrom_lexeme hblank, scanFrom_lexeme hblank, scanOne_append hd back hquote]
        cases hone : scanOne source c rest with
        | error fault => rfl
        | ok one =>
          obtain ⟨lexeme, more⟩ := one
          have hmore := (scanOne_isLocal c source rest lexeme more hone).1
          have hshorter : (rest.drop more).length < (c :: rest).length :=
            Nat.lt_succ_of_le (List.drop_suffix more rest).length_le
          have hstop : place + 1 + more + (rest.drop more).length = place + (c :: rest).length := by
            rw [List.length_drop, List.length_cons]
            omega
          have hothers := ih _ hshorter (place + 1 + more) (quoteAfter_drop hone ▸ hquote) rfl
          rw [hstop] at hothers
          change scanFrom source (place + 1 + more) ((rest ++ d :: back).drop more) >>= _ =
            (scanFrom source (place + 1 + more) (rest.drop more) >>= _) >>= _
          rw [List.drop_append_of_le_length hmore, hothers, bind_assoc, bind_assoc]
          cases scanFrom source (place + 1 + more) (rest.drop more) with
          | error fault => rfl
          | ok lexemes => cases scanFrom source (place + (c :: rest).length) (d :: back) <;> rfl

/-- So it is in front of the end of a text. -/
theorem scanFrom_append_of_head (hback : ∀ d, back.head? = some d → EndsLexeme d) (place : Nat)
    (hquote : quoteAfter none front = none) :
    scanFrom source place (front ++ back) = (do
      let lexemes ← scanFrom source place front
      let others ← scanFrom source (place + front.length) back
      return lexemes ++ others) := by
  cases back with
  | nil =>
    rw [List.append_nil, scanFrom]
    cases scanFrom source place front with
    | error fault => rfl
    | ok lexemes => exact congrArg Except.ok (List.append_nil lexemes).symm
  | cons d back => exact scanFrom_append (hback d rfl) back place hquote

theorem scanOne_alike (source other : String) (c : Char) (rest : List Char) :
    Alike Eq (scanOne source c rest) (scanOne other c rest) := by
  unfold scanOne
  refine .ite (.ite (.ok rfl) (.error rfl)) <| .ite (.refl _) <| .ite (.refl _) <| .ite (.refl _) <| .ite (.refl _) <|
    .ite (.refl _) <| .ite (.refl _) <| .ite (.refl _) <| .ite (.refl _) <| .ite (.refl _) <| .ite ?_ <|
    .ite (.refl _) (.error rfl)
  cases takeNumber? (c :: rest) with
  | none => exact .error rfl
  | some number => exact .refl _

/-- A text scans alike in every markup and at every place, but for the places of its lexemes. -/
theorem scanFrom_relocated (source other : String) (text : List Char) {place : Nat} {move : Nat → Nat}
    (hmove : ∀ n, place ≤ n → move (n + 1) = move n + 1) :
    Alike (fun lexemes others ↦ others = lexemes.map (PlacedLexeme.relocated move)) (scanFrom source place text)
      (scanFrom other (move place) text) := by
  induction hlength : text.length using Nat.strong_induction_on generalizing text place with
  | _ length ih =>
    subst hlength
    cases text with
    | nil =>
      rw [scanFrom, scanFrom]
      exact .ok rfl
    | cons c rest =>
      by_cases hblank : Text.isAsciiBlank c = true
      · rw [scanFrom_blank hblank, scanFrom_blank hblank, ← hmove place (Nat.le_refl _)]
        exact ih rest.length (Nat.lt_succ_self _) rest (fun n hn ↦ hmove n (Nat.le_of_succ_le hn)) rfl
      · rw [scanFrom_lexeme hblank, scanFrom_lexeme hblank]
        refine (scanOne_alike source other c rest).bind fun one _ _ hone ↦ ?_
        obtain ⟨lexeme, more⟩ := one
        subst hone
        have hshorter : (rest.drop more).length < (c :: rest).length :=
          Nat.lt_succ_of_le (List.drop_suffix more rest).length_le
        have hstop (more : Nat) : move (place + 1 + more) = move place + 1 + more := by
          induction more with
          | zero => exact hmove place (Nat.le_refl _)
          | succ more ih => rw [← Nat.add_assoc, hmove _ (by omega), ih, Nat.add_assoc]
        have hlater : ∀ n, place + 1 + more ≤ n → move (n + 1) = move n + 1 := fun n hn ↦ hmove n (by omega)
        have hothers := ih _ hshorter (rest.drop more) hlater rfl
        rw [hstop] at hothers
        refine hothers.bind fun others _ _ hsame ↦ ?_
        subst hsame
        refine .ok ?_
        rw [List.map_cons, PlacedLexeme.relocated, hstop]

theorem scanFrom_alike (source other : String) (place : Nat) (text : List Char) :
    Alike Eq (scanFrom source place text) (scanFrom other place text) := by
  have hmoved := scanFrom_relocated source other text fun n (_ : place ≤ n) ↦ show id (n + 1) = id n + 1 from rfl
  exact hmoved.mono fun lexemes others h ↦ (h.trans (List.map_id'' (fun _ ↦ rfl) lexemes)).symm

end Lexeme
end Liquid
