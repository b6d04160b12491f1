import Liquid.Markup.Lexeme
import Mathlib.Data.List.TakeWhile

/-!
# Scanning a part of a markup

Only the characters of a lexeme and the one behind them say what the lexeme is, and the end of the markup says as
much as any character that cannot belong to it. So a markup may be cut in front of one lexeme and behind another
one: scanning the part anew gives the lexemes between the cuts, with their places counted from the first cut.
-/

namespace Liquid

/-- A lexeme that stands elsewhere. -/
def PlacedLexeme.relocated (move : Nat → Nat) (placed : PlacedLexeme) : PlacedLexeme :=
  ⟨placed.lexeme, move placed.start, move placed.stop⟩

/-- A lexeme with its place counted from an origin. -/
def PlacedLexeme.countedFrom (origin : Nat) (placed : PlacedLexeme) : PlacedLexeme :=
  ⟨placed.lexeme, placed.start - origin, placed.stop - origin⟩

namespace Lexeme

variable {source : String} {c : Char} {inside later : List Char}

/-! ## One lexeme -/

/-- A run of characters that ends within a part is a run of the part. -/
theorem takeWhile_part {class_ : Char → Bool} (h : ((inside ++ later).takeWhile class_).length ≤ inside.length) :
    (inside ++ later).takeWhile class_ = inside.takeWhile class_ ∧
      (inside ++ later).dropWhile class_ = inside.dropWhile class_ ++ later := by
  have htake : (inside ++ later).takeWhile class_ = inside.takeWhile class_ := by
    rw [List.takeWhile_append] at h ⊢
    split
    · next hall =>
      have hrun := (List.takeWhile_prefix class_ (l := inside)).eq_of_length hall
      rw [if_pos hall, List.length_append] at h
      have hnone : later.takeWhile class_ = [] := List.length_eq_zero_iff.1 (by omega)
      rw [hnone, List.append_nil, hrun]
    · rfl
  refine ⟨htake, ?_⟩
  have hwhole := List.takeWhile_append_dropWhile (p := class_) (l := inside ++ later)
  have hpart := List.takeWhile_append_dropWhile (p := class_) (l := inside)
  rw [htake] at hwhole
  rw [← List.append_right_inj (inside.takeWhile class_), hwhole, ← List.append_assoc, hpart]

theorem takeFraction_point (rest : List Char) :
    takeFraction ('.' :: rest) =
      if (rest.takeWhile Char.isDigit).isEmpty then [] else '.' :: rest.takeWhile Char.isDigit := rfl

theorem takeFraction_of_ne {rest : List Char} (h : c ≠ '.') : takeFraction (c :: rest) = [] := by
  unfold takeFraction
  split
  · next hsame => exact (h (List.cons.inj hsame).1).elim
  · rfl

theorem takeFraction_le (text : List Char) : (takeFraction text).length ≤ text.length := by
  match text with
  | [] => exact Nat.le_refl _
  | c :: rest =>
    by_cases hpoint : c = '.'
    · subst hpoint
      have hdigits := (List.takeWhile_prefix Char.isDigit (l := rest)).length_le
      rw [takeFraction_point]
      split
      · exact Nat.zero_le _
      · exact Nat.succ_le_succ hdigits
    · rw [takeFraction_of_ne hpoint]
      exact Nat.zero_le _

theorem takeFraction_part (h : (takeFraction (inside ++ later)).length ≤ inside.length) :
    takeFraction (inside ++ later) = takeFraction inside := by
  match inside with
  | [] => exact List.length_eq_zero_iff.1 (Nat.le_zero.1 h)
  | c :: rest =>
    rw [List.cons_append] at h ⊢
    by_cases hpoint : c = '.'
    · subst hpoint
      have hdigits : ((rest ++ later).takeWhile Char.isDigit).length ≤ rest.length := by
        rw [takeFraction_point] at h
        split at h
        · next hnone =>
          rw [List.isEmpty_iff.1 hnone]
          exact Nat.zero_le _
        · exact Nat.le_of_succ_le_succ h
      rw [takeFraction_point, takeFraction_point, (takeWhile_part hdigits).1]
    · rw [takeFraction_of_ne hpoint, takeFraction_of_ne hpoint]

/-- The digits at the start of a text and the fraction behind them. -/
def unsigned (text : List Char) : List Char :=
  text.takeWhile Char.isDigit ++ takeFraction (text.dropWhile Char.isDigit)

theorem unsigned_le (text : List Char) : (unsigned text).length ≤ text.length := by
  have hsplit := congrArg List.length (List.takeWhile_append_dropWhile (p := Char.isDigit) (l := text))
  have hfraction := takeFraction_le (text.dropWhile Char.isDigit)
  rw [List.length_append] at hsplit
  rw [unsigned, List.length_append]
  omega

theorem unsigned_part (h : (unsigned (inside ++ later)).length ≤ inside.length) :
    unsigned (inside ++ later) = unsigned inside ∧
      (inside ++ later).takeWhile Char.isDigit = inside.takeWhile Char.isDigit := by
  have hsplit := congrArg List.length (List.takeWhile_append_dropWhile (p := Char.isDigit) (l := inside))
  rw [unsigned, List.length_append] at h
  rw [List.length_append] at hsplit
  obtain ⟨hwhole, hbehind⟩ := takeWhile_part (Nat.le_trans (Nat.le_add_right _ _) h)
  rw [hwhole, hbehind] at h
  refine ⟨?_, hwhole⟩
  rw [unsigned, unsigned, hwhole, hbehind, takeFraction_part (by omega)]

theorem takeNumber?_minus (rest : List Char) :
    takeNumber? ('-' :: rest) =
      if (rest.takeWhile Char.isDigit).isEmpty then none else some ('-' :: unsigned rest) := rfl

theorem takeNumber?_of_ne {rest : List Char} (h : c ≠ '-') :
    takeNumber? (c :: rest) =
      if ((c :: rest).takeWhile Char.isDigit).isEmpty then none else some (unsigned (c :: rest)) := by
  unfold takeNumber?
  split
  next hsame =>
  split at hsame
  · next hopening => exact (h (List.cons.inj hopening).1).elim
  · obtain ⟨rfl, rfl⟩ := Prod.mk.inj hsame
    rfl

/-- A number ends with its text at the latest, and it is the same in every part of the text in which it ends. -/
theorem takeNumber?_part {rest number : List Char} (h : takeNumber? (c :: rest) = some number) :
    number.length ≤ (c :: rest).length ∧ ∀ inside later, rest = inside ++ later →
      number.length ≤ (c :: inside).length → takeNumber? (c :: inside) = some number := by
  by_cases hminus : c = '-'
  · subst hminus
    rw [takeNumber?_minus] at h
    split at h
    · cases h
    · next hdigits =>
      obtain rfl := Option.some.inj h
      refine ⟨Nat.succ_le_succ (unsigned_le rest), ?_⟩
      rintro inside later rfl hlength
      obtain ⟨hsame, hwhole⟩ := unsigned_part (Nat.le_of_succ_le_succ hlength)
      rw [takeNumber?_minus, ← hwhole, if_neg hdigits, hsame]
  · rw [takeNumber?_of_ne hminus] at h
    split at h
    · cases h
    · next hdigits =>
      obtain rfl := Option.some.inj h
      refine ⟨unsigned_le (c :: rest), ?_⟩
      rintro inside later rfl hlength
      rw [← List.cons_append] at hdigits hlength ⊢
      obtain ⟨hsame, hwhole⟩ := unsigned_part hlength
      rw [takeNumber?_of_ne hminus, ← hwhole, if_neg hdigits, hsame]

theorem continuesIdent_of_startsIdent {c : Char} (h : startsIdent c = true) : continuesIdent c = true := by
  rw [startsIdent, Bool.or_eq_true] at h
  rw [continuesIdent, Bool.or_eq_true, Bool.or_eq_true, Char.isAlphanum, Bool.or_eq_true]
  exact .inl (h.imp .inl id)

theorem takeIdent_eq (text : List Char) :
    takeIdent text = text.takeWhile continuesIdent ++
      if (text.dropWhile continuesIdent).head? = some '?' then ['?'] else [] := by
  unfold takeIdent
  split
  · next hmark => rw [hmark, List.head?_cons, if_pos rfl]
  · next hnone =>
    rw [if_neg, List.append_nil]
    intro hmark
    obtain ⟨others, hothers⟩ := List.head?_eq_some_iff.1 hmark
    exact hnone others hothers

/-- An identifier ends with its text at the latest, and it is the same in every part of the text in which it ends. -/
theorem takeIdent_part (text : List Char) :
    (takeIdent text).length ≤ text.length ∧ ∀ inside later, text = inside ++ later →
      (takeIdent text).length ≤ inside.length → takeIdent inside = takeIdent text := by
  have hsplit (part : List Char) := congrArg List.length (List.takeWhile_append_dropWhile (p := continuesIdent) (l := part))
  simp only [List.length_append] at hsplit
  constructor
  · rw [takeIdent_eq, List.length_append, ← hsplit text]
    apply Nat.add_le_add_left
    cases text.dropWhile continuesIdent with
    | nil => exact Nat.le_refl _
    | cons d others =>
      split
      · exact Nat.succ_le_succ (Nat.zero_le _)
      · exact Nat.zero_le _
  · rintro inside later rfl hlength
    rw [takeIdent_eq, List.length_append] at hlength
    obtain ⟨htake, hdrop⟩ := takeWhile_part (Nat.le_trans (Nat.le_add_right _ _) hlength)
    rw [takeIdent_eq, takeIdent_eq, htake, hdrop]
    cases hbehind : inside.dropWhile continuesIdent with
    | cons d others => rfl
    | nil =>
      -- A question mark would stand behind the part.
      have hname := hsplit inside
      rw [hbehind, List.length_nil] at hname
      rw [htake, hdrop, hbehind] at hlength
      split
      · next hmark => exact absurd hmark nofun
      · split
        · next hmark =>
          rw [if_pos hmark, List.length_singleton] at hlength
          omega
        · rfl

/-- What scans a lexeme behind its first character takes no more than there is, and it scans alike in every part of the
markup in which the lexeme ends. -/
def IsLocal (scanner : (source : String) → List Char → Except Fault (Lexeme × Nat)) : Prop :=
  ∀ source rest lexeme more, scanner source rest = .ok (lexeme, more) →
    more ≤ rest.length ∧ ∀ other inside later, rest = inside ++ later → more ≤ inside.length →
      scanner other inside = .ok (lexeme, more)

namespace IsLocal

variable {first second : String → List Char → Except Fault (Lexeme × Nat)}

theorem ite {condition : Prop} [Decidable condition] (hfirst : IsLocal first) (hsecond : IsLocal second) :
    IsLocal fun source rest ↦ if condition then first source rest else second source rest := by
  by_cases hcondition : condition
  · simpa only [if_pos hcondition] using hfirst
  · simpa only [if_neg hcondition] using hsecond

theorem single (lexeme : Lexeme) : IsLocal fun _ _ ↦ .ok (lexeme, 0) := by
  intro source rest found more h
  obtain ⟨rfl, rfl⟩ := Prod.mk.inj (Except.ok.inj h)
  exact ⟨Nat.zero_le _, fun other inside later hrest hmore ↦ rfl⟩

theorem fails (fault : String → Fault) : IsLocal fun source _ ↦ .error (fault source) := by
  intro source rest found more h
  cases h

theorem text (quote : Char) : IsLocal fun source rest ↦
    let content := rest.takeWhile (· != quote)
    if content.length < rest.length then .ok (.text (String.ofList content), content.length + 1)
    else .error (.unterminatedString source) := by
  intro source rest found more h
  dsimp only at h ⊢
  split at h
  · next hclosed =>
    obtain ⟨rfl, rfl⟩ := Prod.mk.inj (Except.ok.inj h)
    refine ⟨hclosed, ?_⟩
    rintro other inside later rfl hmore
    obtain ⟨hcontent, -⟩ := takeWhile_part (Nat.le_of_succ_le hmore)
    rw [hcontent] at hmore ⊢
    rw [if_pos (Nat.lt_of_succ_le hmore)]
  · cases h

theorem dots : IsLocal fun _ rest ↦
    match rest with
    | '.' :: _ => .ok (.dots, 1)
    | _ => .ok (.dot, 0) := by
  intro source rest found more h
  dsimp only at h
  split at h
  · obtain ⟨rfl, rfl⟩ := Prod.mk.inj (Except.ok.inj h)
    refine ⟨Nat.succ_le_succ (Nat.zero_le _), ?_⟩
    rintro other inside later hrest hmore
    obtain ⟨d, inside, rfl⟩ := List.exists_cons_of_length_pos hmore
    obtain rfl := (List.cons.inj hrest).1
    rfl
  · next hnone =>
    obtain ⟨rfl, rfl⟩ := Prod.mk.inj (Except.ok.inj h)
    refine ⟨Nat.zero_le _, ?_⟩
    rintro other inside later rfl -
    dsimp only
    split
    · next others => exact (hnone _ rfl).elim
    · rfl

theorem sign (mark : Char) : IsLocal fun _ rest ↦
    let more := rest.takeWhile isSign
    .ok (.sign (String.ofList (mark :: more)), more.length) := by
  intro source rest found more h
  obtain ⟨rfl, rfl⟩ := Prod.mk.inj (Except.ok.inj h)
  refine ⟨(List.takeWhile_prefix isSign).length_le, ?_⟩
  rintro other inside later rfl hmore
  rw [(takeWhile_part hmore).1]

theorem number (opening : Char) : IsLocal fun source rest ↦
    match takeNumber? (opening :: rest) with
    | some number => .ok (ofNumber number, number.length - 1)
    | none => .error (.unexpectedCharacter opening source) := by
  intro source rest found more h
  dsimp only at h
  split at h
  · next number hnumber =>
    obtain ⟨rfl, rfl⟩ := Prod.mk.inj (Except.ok.inj h)
    obtain ⟨hlength, hpart⟩ := takeNumber?_part hnumber
    refine ⟨Nat.sub_le_of_le_add hlength, ?_⟩
    rintro other inside later hrest hmore
    dsimp only
    rw [hpart inside later hrest (Nat.le_add_of_sub_le hmore)]
  · cases h

theorem ident (opening : Char) : IsLocal fun _ rest ↦
    let name := takeIdent (opening :: rest)
    .ok (.ident (String.ofList name), name.length - 1) := by
  intro source rest found more h
  obtain ⟨rfl, rfl⟩ := Prod.mk.inj (Except.ok.inj h)
  obtain ⟨hlength, hpart⟩ := takeIdent_part (opening :: rest)
  refine ⟨Nat.sub_le_of_le_add hlength, ?_⟩
  rintro other inside later rfl hmore
  dsimp only
  rw [hpart (opening :: inside) later rfl (Nat.le_add_of_sub_le hmore)]

end IsLocal

/-- A lexeme ends with its markup at the latest, and it is scanned alike in every part of the markup in which it ends. -/
theorem scanOne_isLocal (opening : Char) : IsLocal fun source rest ↦ scanOne source opening rest := by
  unfold scanOne
  exact .ite (.text opening) <| .ite .dots <| .ite (.single _) <| .ite (.single _) <| .ite (.single _) <|
    .ite (.single _) <| .ite (.single _) <| .ite (.single _) <| .ite (.single _) <| .ite (.sign opening) <|
    .ite (.number opening) <| .ite (.ident opening) (.fails _)

/-! ## All lexemes -/

/-- The first lexeme of a markup stands behind blanks, and the others behind it. -/
theorem scanFrom_eq_ok_cons {place : Nat} {markup : List Char} {placed : PlacedLexeme} {lexemes : List PlacedLexeme} :
    scanFrom source place markup = .ok (placed :: lexemes) ↔ ∃ blanks opening inside later,
      markup = blanks ++ opening :: (inside ++ later) ∧ (∀ d ∈ blanks, Text.isAsciiBlank d = true) ∧
      Text.isAsciiBlank opening = false ∧ scanOne source opening (inside ++ later) = .ok (placed.lexeme, inside.length) ∧
      placed.start = place + blanks.length ∧ placed.stop = placed.start + 1 + inside.length ∧
      scanFrom source placed.stop later = .ok lexemes := by
  constructor
  · intro h
    fun_induction scanFrom source place markup with
    | case1 => cases h
    | case2 place d rest hblank ih =>
      obtain ⟨blanks, opening, inside, later, rfl, hblanks, hopening, hone, hstart, hstop, hlater⟩ := ih h
      refine ⟨d :: blanks, opening, inside, later, rfl, List.forall_mem_cons.2 ⟨hblank, hblanks⟩, hopening, hone, ?_,
        hstop, hlater⟩
      rw [hstart, List.length_cons]
      omega
    | case3 | case4 => cases h
    | case5 place d rest hblank lexeme more hone others hothers ih =>
      obtain ⟨rfl, rfl⟩ := List.cons.inj (Except.ok.inj h)
      have hmore := (scanOne_isLocal d source rest lexeme more hone).1
      refine ⟨[], d, rest.take more, rest.drop more, ?_, nofun, Bool.eq_false_iff.2 hblank, ?_, rfl, ?_, hothers⟩
      · rw [List.take_append_drop]
        rfl
      · rw [List.take_append_drop, List.length_take, Nat.min_eq_left hmore]
        exact hone
      · rw [List.length_take, Nat.min_eq_left hmore]
  · rintro ⟨blanks, opening, inside, later, rfl, hblanks, hopening, hone, hstart, hstop, hlater⟩
    induction blanks generalizing place with
    | nil =>
      rw [List.nil_append, scanFrom, if_neg (by simp [hopening]), hone]
      dsimp only
      rw [List.drop_left, ← show placed.stop = place + 1 + inside.length by rw [hstop, hstart]; rfl, hlater]
      obtain ⟨lexeme, start, stop⟩ := placed
      rw [show place = start from hstart.symm]
    | cons d blanks ih =>
      obtain ⟨hblank, hblanks⟩ := List.forall_mem_cons.1 hblanks
      rw [List.cons_append, scanFrom, if_pos hblank]
      refine ih hblanks ?_
      rw [hstart, List.length_cons]
      omega

theorem scanFrom_eq_ok_nil {place : Nat} {markup : List Char} :
    scanFrom source place markup = .ok [] ↔ ∀ d ∈ markup, Text.isAsciiBlank d = true := by
  induction markup generalizing place with
  | nil => rw [scanFrom]; exact ⟨fun _ _ hd ↦ (List.not_mem_nil hd).elim, fun _ ↦ rfl⟩
  | cons d rest ih =>
    by_cases hblank : Text.isAsciiBlank d = true
    · rw [scanFrom, if_pos hblank, ih, List.forall_mem_cons]
      exact ⟨fun h ↦ ⟨hblank, h⟩, fun h ↦ h.2⟩
    · refine ⟨fun h ↦ ?_, fun h ↦ (hblank (h d List.mem_cons_self)).elim⟩
      rw [scanFrom, if_neg hblank] at h
      split at h
      · cases h
      · split at h <;> cases h

/-- Every lexeme stands in its markup. -/
theorem scanFrom_bounds {place : Nat} {markup : List Char} {lexemes : List PlacedLexeme}
    (h : scanFrom source place markup = .ok lexemes) :
    ∀ placed ∈ lexemes, place ≤ placed.start ∧ placed.start ≤ placed.stop ∧ placed.stop ≤ place + markup.length := by
  induction lexemes generalizing place markup with
  | nil => exact nofun
  | cons first others ih =>
    obtain ⟨blanks, opening, inside, later, rfl, -, -, -, hstart, hstop, hlater⟩ := scanFrom_eq_ok_cons.1 h
    have hfirst : place ≤ first.start ∧ first.start ≤ first.stop ∧
        first.stop + later.length ≤ place + (blanks ++ opening :: (inside ++ later)).length := by
      simp only [List.length_append, List.length_cons]
      omega
    refine List.forall_mem_cons.2 ⟨by omega, fun placed hplaced ↦ ?_⟩
    have hbounds := ih hlater placed hplaced
    omega

/-- A lexeme takes a character at least. -/
theorem length_le_of_scanFrom {place : Nat} {markup : List Char} {lexemes : List PlacedLexeme}
    (h : scanFrom source place markup = .ok lexemes) : lexemes.length ≤ markup.length := by
  induction lexemes generalizing place markup with
  | nil => exact Nat.zero_le _
  | cons first others ih =>
    obtain ⟨blanks, opening, inside, later, rfl, -, -, -, -, -, hlater⟩ := scanFrom_eq_ok_cons.1 h
    have hothers := ih hlater
    simp only [List.length_append, List.length_cons]
    omega

/-- Where a markup starts does not matter for its lexemes, but for their places. -/
theorem scanFrom_countedFrom {place origin : Nat} {markup : List Char} {lexemes : List PlacedLexeme}
    (h : scanFrom source place markup = .ok lexemes) (horigin : origin ≤ place) :
    scanFrom source (place - origin) markup = .ok (lexemes.map (PlacedLexeme.countedFrom origin)) := by
  induction lexemes generalizing place markup with
  | nil => exact scanFrom_eq_ok_nil.2 (scanFrom_eq_ok_nil.1 h)
  | cons first others ih =>
    obtain ⟨blanks, opening, inside, later, rfl, hblanks, hopening, hone, hstart, hstop, hlater⟩ := scanFrom_eq_ok_cons.1 h
    refine scanFrom_eq_ok_cons.2 ⟨blanks, opening, inside, later, rfl, hblanks, hopening, hone, ?_, ?_, ih hlater ?_⟩
    · dsimp only [PlacedLexeme.countedFrom]
      omega
    · dsimp only [PlacedLexeme.countedFrom]
      omega
    · omega

/-! ## Cuts -/

/-- Scanning may begin anew in front of any lexeme. -/
theorem exists_cut_before {place : Nat} {markup : List Char} {front rest : List PlacedLexeme} {placed : PlacedLexeme}
    (h : scanFrom source place markup = .ok (front ++ placed :: rest)) :
    ∃ skipped part, markup = skipped ++ part ∧ placed.start = place + skipped.length ∧
      scanFrom source placed.start part = .ok (placed :: rest) := by
  induction front generalizing place markup with
  | nil =>
    obtain ⟨blanks, opening, inside, later, rfl, -, hopening, hone, hstart, hstop, hlater⟩ := scanFrom_eq_ok_cons.1 h
    exact ⟨blanks, opening :: (inside ++ later), rfl, hstart,
      scanFrom_eq_ok_cons.2 ⟨[], opening, inside, later, rfl, nofun, hopening, hone, rfl, hstop, hlater⟩⟩
  | cons first front ih =>
    obtain ⟨blanks, opening, inside, later, rfl, -, -, -, hstart, hstop, hlater⟩ := scanFrom_eq_ok_cons.1 h
    obtain ⟨skipped, part, rfl, hplaced, hpart⟩ := ih hlater
    refine ⟨blanks ++ opening :: (inside ++ skipped), part, by simp, ?_, hpart⟩
    simp only [List.length_append, List.length_cons]
    omega

/-- Scanning may end behind any lexeme. -/
theorem exists_cut_behind {place : Nat} {markup : List Char} {front back : List PlacedLexeme} {placed : PlacedLexeme}
    (h : scanFrom source place markup = .ok (front ++ placed :: back)) :
    ∃ part rest, markup = part ++ rest ∧ placed.stop = place + part.length ∧
      ∀ other, scanFrom other place part = .ok (front ++ [placed]) := by
  induction front generalizing place markup with
  | nil =>
    obtain ⟨blanks, opening, inside, later, rfl, hblanks, hopening, hone, hstart, hstop, hlater⟩ := scanFrom_eq_ok_cons.1 h
    refine ⟨blanks ++ opening :: inside, later, by simp, ?_, fun other ↦ ?_⟩
    · simp only [List.length_append, List.length_cons]
      omega
    · have hpart := (scanOne_isLocal opening _ _ _ _ hone).2 other inside later rfl (Nat.le_refl _)
      refine scanFrom_eq_ok_cons.2 ⟨blanks, opening, inside, [], by simp, hblanks, hopening, ?_, hstart, hstop, ?_⟩
      · rw [List.append_nil]
        exact hpart
      · exact scanFrom_eq_ok_nil.2 nofun
  | cons first front ih =>
    obtain ⟨blanks, opening, inside, later, rfl, hblanks, hopening, hone, hstart, hstop, hlater⟩ := scanFrom_eq_ok_cons.1 h
    obtain ⟨part, rest, rfl, hplaced, hpart⟩ := ih hlater
    refine ⟨blanks ++ opening :: (inside ++ part), rest, by simp, ?_, fun other ↦ ?_⟩
    · simp only [List.length_append, List.length_cons]
      omega
    · rw [← List.append_assoc] at hone
      have hone' := (scanOne_isLocal opening _ _ _ _ hone).2 other (inside ++ part) rest rfl (by simp)
      exact scanFrom_eq_ok_cons.2 ⟨blanks, opening, inside, part, rfl, hblanks, hopening, hone', hstart, hstop, hpart other⟩

/-- The characters from the start of the first to the stop of the last of some lexemes of a source are scanned as these
lexemes, which stand between these places. -/
theorem scan_part {front middle back : List PlacedLexeme} {first final : PlacedLexeme}
    (h : scan source = .ok (front ++ middle ++ back)) (hfirst : middle.head? = some first)
    (hfinal : middle.getLast? = some final) :
    (∀ placed ∈ middle, first.start ≤ placed.start ∧ placed.start ≤ placed.stop ∧ placed.stop ≤ final.stop) ∧
      scan (String.ofList ((source.toList.take final.stop).drop first.start)) =
        .ok (middle.map (PlacedLexeme.countedFrom first.start)) := by
  obtain ⟨others, rfl⟩ := List.head?_eq_some_iff.1 hfirst
  obtain ⟨others', hothers⟩ := List.getLast?_eq_some_iff.1 hfinal
  rw [List.append_assoc, List.cons_append] at h
  obtain ⟨skipped, part, hsource, hstart, hpart⟩ := exists_cut_before h
  rw [← List.cons_append, hothers, List.append_assoc, List.singleton_append] at hpart
  obtain ⟨part, rest, rfl, hstop, hmiddle⟩ := exists_cut_behind hpart
  rw [Nat.zero_add] at hstart
  have hcut : (source.toList.take final.stop).drop first.start = part := by
    rw [hsource, hstop, hstart, ← List.append_assoc, ← List.length_append, List.take_left, List.drop_left]
  rw [hcut, hothers]
  refine ⟨hstop ▸ scanFrom_bounds (hmiddle source), ?_⟩
  have hanew := scanFrom_countedFrom (hmiddle (String.ofList part)) (Nat.le_refl first.start)
  rw [Nat.sub_self] at hanew
  rw [scan, String.toList_ofList]
  exact hanew

end Lexeme

end Liquid
