import Liquid.Proofs.Markup.Acceptance
import Liquid.Proofs.Markup.Scanning

/-!
# What the quoted texts of a markup mean

A parsed markup keeps the texts of its primary expressions and of the arguments of its filters as they stand in the
source, with a parenthesis that was removed among them. Parsing such a text anew gives the expression that was
parsed: its lexemes are those of the source, and what an expression is written by has its parentheses in pairs, so
that a lone parenthesis of the source is either outside the text or the lone one of the text.
-/

namespace Liquid

namespace Expr

mutual

/-- The pipelines in parentheses in an expression, at any depth. -/
def pipelines : Expr → List Markup
  | literal _ => []
  | path segments => pipelinesOfSegments segments
  | range first last => pipelines first ++ pipelines last
  | filtered name primary filters => ⟨name, primary, filters⟩ :: (pipelines primary ++ pipelinesOfFilters filters)

def pipelinesOfSegments : List Segment → List Markup
  | [] => []
  | .member _ :: rest => pipelinesOfSegments rest
  | .index key :: rest => pipelines key ++ pipelinesOfSegments rest

def pipelinesOfFilters : List FilterRequest → List Markup
  | [] => []
  | .mk _ _ arguments :: rest => pipelinesOfArguments arguments ++ pipelinesOfFilters rest

def pipelinesOfArguments : List Expr → List Markup
  | [] => []
  | argument :: rest => pipelines argument ++ pipelinesOfArguments rest

end

end Expr

/-- A markup and all pipelines in parentheses in it. -/
def Markup.pipelines (markup : Markup) : List Markup :=
  markup :: (markup.primary.pipelines ++ Expr.pipelinesOfFilters markup.filters)

/-- A text is parsed as an expression without filters, and all of it is the text of the expression. -/
def Expr.IsQuotedBy (expr : Expr) (text : String) : Prop := Markup.parse text = .ok ⟨text, expr, []⟩

/-- A filter has a text for each argument, which is parsed as this argument. -/
def FilterRequest.IsQuoted (request : FilterRequest) : Prop :=
  request.texts.length = request.arguments.length ∧
    ∀ quoted ∈ request.texts.zip request.arguments, quoted.2.IsQuotedBy quoted.1

/-- The name of a pipeline is parsed as its primary expression, and the texts of all arguments as these arguments. -/
def Markup.IsQuoted (markup : Markup) : Prop :=
  markup.primary.IsQuotedBy markup.name ∧ ∀ request ∈ markup.filters, request.IsQuoted

namespace Markup

variable {source : String} {lexemes front inside back : List PlacedLexeme}

/-! ## Parentheses -/

/-- As many parentheses are opened as closed. -/
def IsBalanced (lexemes : List PlacedLexeme) : Prop :=
  lexemes.countP PlacedLexeme.opens = lexemes.countP PlacedLexeme.closes

theorem closes_eq_false {placed : PlacedLexeme} (h : placed.opens = true) : placed.closes = false := by
  obtain ⟨lexeme, start, stop⟩ := placed
  cases lexeme <;> first | rfl | cases h

theorem opens_eq_false {placed : PlacedLexeme} (h : placed.closes = true) : placed.opens = false := by
  obtain ⟨lexeme, start, stop⟩ := placed
  cases lexeme <;> first | rfl | cases h

/-- What writes a phrase has its parentheses in pairs. -/
theorem Writes.isBalanced {phrase : Phrase} (h : Writes source phrase lexemes) : IsBalanced lexemes := by
  induction h with
  | text | int | float | keyword | noSegment | noFilter => rfl
  | lastArgument hargument ih => exact ih
  | named hname hrest ih | member hrest ih | place hrest ih | skipped hrest ih | bare hrest ih =>
    simpa [IsBalanced, List.countP_cons, PlacedLexeme.opens, PlacedLexeme.closes] using ih
  | range hfirst hlast ihfirst ihlast | enclosed hprimary hfilters ihfirst ihlast =>
    rw [IsBalanced] at ihfirst ihlast
    simp [IsBalanced, List.countP_append, List.countP_cons, PlacedLexeme.opens, PlacedLexeme.closes, ihfirst, ihlast,
      Nat.add_assoc]
  | indexed hkey hrest ih ihrest | index hkey hrest ih ihrest | applied hkey hrest ih ihrest
  | argument hkey hrest ih ihrest =>
    rw [IsBalanced] at ih ihrest
    simp [IsBalanced, List.countP_append, PlacedLexeme.opens, PlacedLexeme.closes, ih, ihrest]

/-- Parentheses in pairs are left alone. -/
theorem dropLoneParen_of_isBalanced (h : IsBalanced lexemes) : dropLoneParen lexemes = lexemes := by
  rw [IsBalanced] at h
  simp [dropLoneParen, h]

/-- A parenthesis is lone at a place if it is the first opening one or the last closing one there. -/
def IsLone (front : List PlacedLexeme) (paren : PlacedLexeme) (back : List PlacedLexeme) : Prop :=
  paren.opens = true ∧ (∀ placed ∈ front, placed.opens = false) ∨
    paren.closes = true ∧ ∀ placed ∈ back, placed.closes = false

/-- A lone parenthesis among pairs is removed. -/
theorem dropLoneParen_of_isLone {paren : PlacedLexeme} (hlone : IsLone front paren back)
    (hbalanced : IsBalanced (front ++ back)) : dropLoneParen (front ++ paren :: back) = front ++ back := by
  simp only [IsBalanced, List.countP_append] at hbalanced
  simp only [dropLoneParen, List.countP_append, List.countP_cons]
  obtain ⟨hopens, hfront⟩ | ⟨hcloses, hback⟩ := hlone
  · have hcloses := closes_eq_false hopens
    rw [hopens, hcloses, if_pos (by simp; omega)]
    rw [List.eraseP_append_right _ (by simpa using hfront), List.eraseP_cons_of_pos hopens]
  · have hopens := opens_eq_false hcloses
    rw [hopens, hcloses, if_neg (by simp; omega), if_pos (by simp; omega)]
    rw [List.reverse_append, List.reverse_cons, List.append_assoc,
      List.eraseP_append_right _ (by simpa using hback), List.singleton_append, List.eraseP_cons_of_pos hcloses,
      ← List.reverse_append, List.reverse_reverse]

/-- Nothing is removed, or a lone parenthesis. -/
theorem dropLoneParen_cases (lexemes : List PlacedLexeme) : dropLoneParen lexemes = lexemes ∨
    ∃ front paren back, IsLone front paren back ∧ lexemes = front ++ paren :: back ∧
      dropLoneParen lexemes = front ++ back := by
  rw [dropLoneParen]
  split
  · obtain heq | ⟨paren, front, back, hfront, hparen, rfl, heq⟩ :=
      List.exists_or_eq_self_of_eraseP PlacedLexeme.opens lexemes
    · exact .inl heq
    · exact .inr ⟨front, paren, back, .inl ⟨hparen, by simpa using hfront⟩, rfl, heq⟩
  · split
    · obtain heq | ⟨paren, front, back, hfront, hparen, hlexemes, heq⟩ :=
        List.exists_or_eq_self_of_eraseP PlacedLexeme.closes lexemes.reverse
      · rw [heq, List.reverse_reverse]
        exact .inl rfl
      · refine .inr ⟨back.reverse, paren, front.reverse, .inr ⟨hparen, by simpa using hfront⟩, ?_, ?_⟩
        · simpa using congrArg List.reverse hlexemes
        · rw [heq, List.reverse_append]
    · exact .inl rfl

theorem IsLone.within {paren : PlacedLexeme} {before behind : List PlacedLexeme}
    (h : IsLone (before ++ front) paren (back ++ behind)) : IsLone front paren back :=
  h.imp (fun hopens ↦ ⟨hopens.1, fun placed hplaced ↦ hopens.2 placed (List.mem_append_right before hplaced)⟩)
    fun hcloses ↦ ⟨hcloses.1, fun placed hplaced ↦ hcloses.2 placed (List.mem_append_left behind hplaced)⟩

theorem dropLoneParen_sublist (lexemes : List PlacedLexeme) : (dropLoneParen lexemes).Sublist lexemes := by
  obtain heq | ⟨front, paren, back, -, rfl, heq⟩ := dropLoneParen_cases lexemes
  · exact heq.symm ▸ List.Sublist.refl lexemes
  · rw [heq]
    exact List.Sublist.append_left (List.sublist_cons_self paren back) front

/-- Some lexemes that are left, with their parentheses in pairs, are what is left of a range of all lexemes. The range
begins and ends as they do, and it has lost a parenthesis only if this is its lone one. -/
theorem exists_range (hkept : dropLoneParen lexemes = front ++ inside ++ back) (hbalanced : IsBalanced inside) :
    ∃ before range behind, lexemes = before ++ range ++ behind ∧ dropLoneParen range = inside ∧
      range.head? = inside.head? ∧ range.getLast? = inside.getLast? := by
  have hwhole := dropLoneParen_of_isBalanced hbalanced
  obtain heq | ⟨before, paren, behind, hlone, rfl, heq⟩ := dropLoneParen_cases lexemes
  · exact ⟨front, inside, back, heq.symm.trans hkept, hwhole, rfl, rfl⟩
  · rw [heq, List.append_assoc] at hkept
    obtain ⟨others, rfl, rfl⟩ | ⟨head, rfl, hrest⟩ := List.append_eq_append_iff.1 hkept
    · exact ⟨before ++ paren :: others, inside, back, by simp, hwhole, rfl, rfl⟩
    · obtain ⟨others, rfl, rfl⟩ | ⟨last, rfl, rfl⟩ := List.append_eq_append_iff.1 hrest
      · exact ⟨front, inside, others ++ paren :: behind, by simp, hwhole, rfl, rfl⟩
      · -- A parenthesis at an end of the range is left out of it.
        obtain _ | ⟨first, head⟩ := head
        · exact ⟨front ++ [paren], last, back, by simp, hwhole, rfl, rfl⟩
        · obtain rfl | ⟨last, final, rfl⟩ := last.eq_nil_or_concat
          · exact ⟨front, first :: head ++ [], paren :: back, by simp, hwhole, rfl, rfl⟩
          · exact ⟨front, first :: head ++ paren :: last.concat final, back, by simp,
              dropLoneParen_of_isLone hlone.within hbalanced, rfl, by simp [List.getLast?_cons]⟩

/-! ## Places counted from elsewhere -/

/-- Where lexemes stand does not matter to the leniency rule. -/
theorem dropLoneParen_map_relocated (move : Nat → Nat) (lexemes : List PlacedLexeme) :
    dropLoneParen (lexemes.map (PlacedLexeme.relocated move)) =
      (dropLoneParen lexemes).map (PlacedLexeme.relocated move) := by
  have hopens : PlacedLexeme.opens ∘ PlacedLexeme.relocated move = PlacedLexeme.opens := rfl
  have hcloses : PlacedLexeme.closes ∘ PlacedLexeme.relocated move = PlacedLexeme.closes := rfl
  simp only [dropLoneParen, List.countP_map, List.eraseP_map, ← List.map_reverse, hopens, hcloses]
  split
  · rfl
  · split <;> rfl

/-- All lexemes stand between two places of the source. -/
def AllWithin (start stop : Nat) (lexemes : List PlacedLexeme) : Prop :=
  ∀ placed ∈ lexemes, start ≤ placed.start ∧ placed.start ≤ placed.stop ∧ placed.stop ≤ stop

variable {start stop : Nat}

theorem coveredText_eq {first final : PlacedLexeme} (hfirst : lexemes.head? = some first)
    (hfinal : lexemes.getLast? = some final) :
    coveredText source lexemes = String.ofList ((source.toList.take final.stop).drop first.start) := by
  rw [coveredText, hfirst, hfinal]
  rfl

theorem coveredText_relocated (other : String) (move : Nat → Nat) {first final : PlacedLexeme}
    (hfirst : lexemes.head? = some first) (hfinal : lexemes.getLast? = some final) :
    coveredText other (lexemes.map (PlacedLexeme.relocated move)) =
      String.ofList ((other.toList.take (move final.stop)).drop (move first.start)) := by
  rw [coveredText, List.head?_map, List.getLast?_map, hfirst, hfinal]
  rfl

/-- Lexemes cover the same text in a part of the source as in all of it. -/
theorem coveredText_part (hne : lexemes ≠ []) (hwithin : AllWithin start stop lexemes) :
    coveredText (String.ofList ((source.toList.take stop).drop start))
      (lexemes.map (PlacedLexeme.countedFrom start)) = coveredText source lexemes := by
  have hfirst := List.head?_eq_some_head hne
  have hfinal := List.getLast?_eq_some_getLast hne
  obtain ⟨hstart, -, -⟩ := hwithin _ (List.head_mem hne)
  obtain ⟨hstart', hfinal', hstop⟩ := hwithin _ (List.getLast_mem hne)
  rw [coveredText_eq hfirst hfinal]
  refine (coveredText_relocated _ (· - start) hfirst hfinal).trans ?_
  simp only [String.toList_ofList, List.take_drop, List.drop_drop, List.take_take, Nat.add_sub_cancel' hstart,
    Nat.add_sub_cancel' (hstart'.trans hfinal'), Nat.min_eq_left hstop]

/-! ## Lexemes that stand elsewhere -/

variable {other : String} {move : Nat → Nat}

/-- Some lexemes and all parts of them cover the same texts of another source, where they stand elsewhere. -/
def KeepsTexts (source other : String) (move : Nat → Nat) (lexemes : List PlacedLexeme) : Prop :=
  ∀ inside, inside ≠ [] → inside <:+: lexemes →
    coveredText other (inside.map (PlacedLexeme.relocated move)) = coveredText source inside

theorem KeepsTexts.whole (h : KeepsTexts source other move lexemes) (hne : lexemes ≠ []) :
    coveredText other (lexemes.map (PlacedLexeme.relocated move)) = coveredText source lexemes :=
  h lexemes hne List.infix_rfl

theorem KeepsTexts.part (h : KeepsTexts source other move lexemes) (hpart : inside <:+: lexemes) :
    KeepsTexts source other move inside :=
  fun smaller hne hsmaller ↦ h smaller hne (hsmaller.trans hpart)

theorem KeepsTexts.tail {placed : PlacedLexeme} (h : KeepsTexts source other move (placed :: lexemes)) :
    KeepsTexts source other move lexemes :=
  h.part (List.suffix_cons placed lexemes).isInfix

theorem KeepsTexts.left (h : KeepsTexts source other move (front ++ back)) : KeepsTexts source other move front :=
  h.part (List.prefix_append front back).isInfix

theorem KeepsTexts.right (h : KeepsTexts source other move (front ++ back)) : KeepsTexts source other move back :=
  h.part (List.suffix_append front back).isInfix

/-- Where its lexemes cover the same texts, the same phrase is written. -/
theorem Writes.relocated {phrase : Phrase} (h : Writes source phrase lexemes)
    (hkeeps : KeepsTexts source other move lexemes) :
    Writes other phrase (lexemes.map (PlacedLexeme.relocated move)) := by
  induction h with
  | text => exact .text
  | int => exact .int
  | float => exact .float
  | keyword hkeyword => exact .keyword hkeyword
  | named hname hrest ih => exact .named hname (ih hkeeps.tail)
  | indexed hkey hrest ihkey ihrest =>
    rw [List.map_append]
    exact .indexed (ihkey hkeeps.left.tail) (ihrest hkeeps.right.tail)
  | range hfirst hlast ihfirst ihlast =>
    rw [List.map_append, List.map_append]
    exact .range (ihfirst hkeeps.left.left.tail) (ihlast hkeeps.left.right.tail)
  | enclosed hprimary hfilters ihprimary ihfilters =>
    rw [List.map_append, List.map_append, ← hkeeps.left.left.tail.whole hprimary.ne_nil]
    exact .enclosed (ihprimary hkeeps.left.left.tail) (ihfilters hkeeps.left.right)
  | noSegment => exact .noSegment
  | member hrest ih => exact .member (ih hkeeps.tail.tail)
  | place hrest ih => exact .place (ih hkeeps.tail.tail)
  | index hkey hrest ihkey ihrest =>
    rw [List.map_append]
    exact .index (ihkey hkeeps.left.tail) (ihrest hkeeps.right.tail)
  | noFilter => exact .noFilter
  | skipped hrest ih => exact .skipped (ih hkeeps.tail)
  | bare hrest ih => exact .bare (ih hkeeps.tail.tail)
  | applied harguments hrest iharguments ihrest =>
    rw [List.map_append]
    exact .applied (iharguments hkeeps.left.tail.tail.tail) (ihrest hkeeps.right)
  | lastArgument hargument ih =>
    rw [← hkeeps.whole hargument.ne_nil]
    exact .lastArgument (ih hkeeps)
  | argument hargument hrest ihargument ihrest =>
    rw [List.map_append, ← hkeeps.left.whole hargument.ne_nil]
    exact .argument (ihargument hkeeps.left) (ihrest hkeeps.right.tail)

/-- In a part of the source a phrase is written by the same lexemes, with their places counted from its start. -/
theorem Writes.part {phrase : Phrase} (h : Writes source phrase lexemes) (hwithin : AllWithin start stop lexemes) :
    Writes (String.ofList ((source.toList.take stop).drop start)) phrase
      (lexemes.map (PlacedLexeme.countedFrom start)) := by
  have hkeeps : KeepsTexts source (String.ofList ((source.toList.take stop).drop start)) (· - start) lexemes :=
    fun _ hne hinside ↦ coveredText_part hne fun placed hplaced ↦ hwithin placed (hinside.subset hplaced)
  exact h.relocated hkeeps

/-! ## Quoted texts -/

/-- The text that the lexemes of an expression cover is parsed as this expression. -/
theorem isQuotedBy_coveredText {written : Expr} (hscan : Lexeme.scan source = .ok lexemes)
    (hkept : inside <:+: dropLoneParen lexemes) (h : Writes source (.expr written) inside) :
    written.IsQuotedBy (coveredText source inside) := by
  obtain ⟨front, back, hkept⟩ := hkept
  obtain ⟨before, range, behind, rfl, hrange, hfirst, hfinal⟩ := exists_range hkept.symm h.isBalanced
  obtain ⟨first, hfirst'⟩ : ∃ first, inside.head? = some first := ⟨_, List.head?_eq_some_head h.ne_nil⟩
  obtain ⟨final, hfinal'⟩ : ∃ final, inside.getLast? = some final := ⟨_, List.getLast?_eq_some_getLast h.ne_nil⟩
  obtain ⟨hplaces, hanew⟩ := Lexeme.scan_part hscan (hfirst.trans hfirst') (hfinal.trans hfinal')
  have hwithin : AllWithin first.start final.stop inside :=
    fun placed hplaced ↦ hplaces placed ((dropLoneParen_sublist range).subset (hrange ▸ hplaced))
  have hpipeline : IsWritten _ _ ([] ++ _ ++ []) := .pipeline nofun (h.part hwithin) .noFilter
  rw [List.nil_append, List.append_nil, coveredText_part h.ne_nil hwithin] at hpipeline
  rw [← coveredText_eq hfirst' hfinal'] at hanew hpipeline
  calc parse (coveredText source inside)
    _ = ofLexemes (coveredText source inside) (dropLoneParen (range.map (PlacedLexeme.countedFrom first.start))) := by
        rw [parse, hanew]
        rfl
    _ = ofLexemes (coveredText source inside) (inside.map (PlacedLexeme.countedFrom first.start)) := by
        have hmoved := dropLoneParen_map_relocated (· - first.start) range
        rw [hrange] at hmoved
        exact congrArg _ hmoved
    _ = .ok ⟨coveredText source inside, written, []⟩ := ofLexemes_of_isWritten hpipeline

/-- Everything that a phrase quotes is parsed as what it stands for. -/
def Phrase.IsQuoted : Phrase → Prop
  | .expr written => ∀ part ∈ written.pipelines, part.IsQuoted
  | .segments path => ∀ part ∈ Expr.pipelinesOfSegments path, part.IsQuoted
  | .filters requests =>
    (∀ request ∈ requests, request.IsQuoted) ∧ ∀ part ∈ Expr.pipelinesOfFilters requests, part.IsQuoted
  | .arguments given =>
    (∀ argument ∈ given, argument.2.IsQuotedBy argument.1) ∧
      ∀ part ∈ Expr.pipelinesOfArguments (given.map Prod.snd), part.IsQuoted

theorem isQuoted_append {parts others : List Markup} (hparts : ∀ part ∈ parts, part.IsQuoted)
    (hothers : ∀ part ∈ others, part.IsQuoted) : ∀ part ∈ parts ++ others, part.IsQuoted :=
  List.forall_mem_append.2 ⟨hparts, hothers⟩

theorem isQuoted_enclosed {name : String} {primary : Expr} {filters : List FilterRequest}
    (hname : primary.IsQuotedBy name) (hprimary : (Phrase.expr primary).IsQuoted)
    (hfilters : (Phrase.filters filters).IsQuoted) : (Phrase.expr (enclosed name primary filters)).IsQuoted := by
  rw [enclosed]
  split
  · exact hprimary
  · rw [Phrase.IsQuoted, Expr.pipelines, List.forall_mem_cons]
    exact ⟨⟨hname, hfilters.1⟩, isQuoted_append hprimary hfilters.2⟩

theorem isQuoted_applied {name : String} {arguments : List (String × Expr)} {filters : List FilterRequest}
    (harguments : (Phrase.arguments arguments).IsQuoted) (hfilters : (Phrase.filters filters).IsQuoted) :
    (Phrase.filters (.mk name (arguments.map Prod.fst) (arguments.map Prod.snd) :: filters)).IsQuoted := by
  refine ⟨List.forall_mem_cons.2 ⟨⟨?_, ?_⟩, hfilters.1⟩, isQuoted_append harguments.2 hfilters.2⟩
  · simp [FilterRequest.texts, FilterRequest.arguments]
  · rw [FilterRequest.texts, FilterRequest.arguments, List.zip_map', List.map_id']
    exact harguments.1

theorem infix_of_cons {kept : List PlacedLexeme} {placed : PlacedLexeme} (h : placed :: inside <:+: kept) :
    inside <:+: kept :=
  (List.suffix_cons placed inside).isInfix.trans h

theorem infixes_of_append {kept : List PlacedLexeme} (h : front ++ back <:+: kept) : front <:+: kept ∧ back <:+: kept :=
  ⟨(List.prefix_append front back).isInfix.trans h, (List.suffix_append front back).isInfix.trans h⟩

/-- Whatever phrase the lexemes that are left write, its texts are parsed as what they stand for. -/
theorem Writes.isQuoted {phrase : Phrase} (hscan : Lexeme.scan source = .ok lexemes)
    (h : Writes source phrase inside) (hkept : inside <:+: dropLoneParen lexemes) : phrase.IsQuoted := by
  induction h with
  | text | int | float | keyword | noSegment => exact nofun
  | noFilter => exact ⟨nofun, nofun⟩
  | named hname hrest ih => exact ih (infix_of_cons hkept)
  | member hrest ih | place hrest ih => exact ih (infix_of_cons (infix_of_cons hkept))
  | skipped hrest ih => exact ih (infix_of_cons hkept)
  | bare hrest ih =>
    have hnone : (Phrase.arguments []).IsQuoted := ⟨nofun, nofun⟩
    exact isQuoted_applied hnone (ih (infix_of_cons (infix_of_cons hkept)))
  | indexed hkey hrest ihkey ihrest | index hkey hrest ihkey ihrest =>
    obtain ⟨hinside, hback⟩ := infixes_of_append hkept
    exact isQuoted_append (ihkey (infix_of_cons hinside)) (ihrest (infix_of_cons hback))
  | range hfirst hlast ihfirst ihlast =>
    obtain ⟨hfront, hback⟩ := infixes_of_append (infixes_of_append hkept).1
    exact isQuoted_append (ihfirst (infix_of_cons hfront)) (ihlast (infix_of_cons hback))
  | enclosed hprimary hfilters ihprimary ihfilters =>
    obtain ⟨hfront, hback⟩ := infixes_of_append (infixes_of_append hkept).1
    have hname := isQuotedBy_coveredText hscan (infix_of_cons hfront) hprimary
    exact isQuoted_enclosed hname (ihprimary (infix_of_cons hfront)) (ihfilters hback)
  | applied harguments hrest iharguments ihrest =>
    obtain ⟨hinside, hback⟩ := infixes_of_append hkept
    exact isQuoted_applied (iharguments (infix_of_cons (infix_of_cons (infix_of_cons hinside)))) (ihrest hback)
  | lastArgument hargument ih =>
    have hquoted := isQuotedBy_coveredText hscan hkept hargument
    exact ⟨List.forall_mem_singleton.2 hquoted, isQuoted_append (ih hkept) nofun⟩
  | argument hargument hrest ihargument ihrest =>
    obtain ⟨hinside, hback⟩ := infixes_of_append hkept
    have hquoted := isQuotedBy_coveredText hscan hinside hargument
    have hothers := ihrest (infix_of_cons hback)
    exact ⟨List.forall_mem_cons.2 ⟨hquoted, hothers.1⟩, isQuoted_append (ihargument hinside) hothers.2⟩

theorem isQuotedBy_empty : (Expr.literal .nil).IsQuotedBy "" := by
  have hscan : Lexeme.scan "" = .ok [] := by
    rw [Lexeme.scan, String.toList_empty, Lexeme.scanFrom]
  have hnothing : IsWritten "" ⟨"", .literal .nil, []⟩ (dropLoneParen []) := .nothing (List.forall_mem_nil _)
  rw [Expr.IsQuotedBy, parse, hscan]
  exact ofLexemes_of_isWritten hnothing

/-- The texts that a parsed markup keeps mean what was parsed: the name of each of its pipelines, at any depth, is
parsed as the primary expression alone, and every filter has a text for each argument, which is parsed as this
argument alone. -/
theorem kept_texts_mean_parsed {markup : Markup} (h : parse source = .ok markup) :
    ∀ part ∈ markup.pipelines,
      parse part.name = .ok ⟨part.name, part.primary, []⟩ ∧
        ∀ request ∈ part.filters, request.texts.length = request.arguments.length ∧
          ∀ argument ∈ request.texts.zip request.arguments,
            parse argument.1 = .ok ⟨argument.1, argument.2, []⟩ := by
  obtain ⟨lexemes, hscan, h⟩ := of_bind_eq_ok h
  have hwritten := isWritten_of_ofLexemes h
  generalize hkept : dropLoneParen lexemes = kept at hwritten
  cases hwritten with
  | nothing hpipes => exact List.forall_mem_singleton.2 ⟨isQuotedBy_empty, nofun⟩
  | @pipeline primary filters pipes front back hpipes hprimary hfilters =>
    obtain ⟨hfront, hback⟩ : front <:+: dropLoneParen lexemes ∧ back <:+: dropLoneParen lexemes := by
      rw [hkept]
      exact ⟨List.infix_append pipes front back, (List.suffix_append _ back).isInfix⟩
    have hname := isQuotedBy_coveredText hscan hfront hprimary
    have hrequests := hfilters.isQuoted hscan hback
    exact List.forall_mem_cons.2
      ⟨⟨hname, hrequests.1⟩, isQuoted_append (hprimary.isQuoted hscan hfront) hrequests.2⟩

/-- A markup whose last closing parenthesis is dropped, although it stands within the text of an argument. -/
def loneInArgument : String := "x | f: (z | g: w), y[0)]"

theorem kept_texts_mean_parsed_lone_in_argument :
    ∃ markup, parse loneInArgument = .ok markup ∧
      markup.filters.map FilterRequest.texts = [["(z | g: w)", "y[0)]"]] ∧
      ∀ part ∈ markup.pipelines,
        parse part.name = .ok ⟨part.name, part.primary, []⟩ ∧
          ∀ request ∈ part.filters, request.texts.length = request.arguments.length ∧
            ∀ argument ∈ request.texts.zip request.arguments,
              parse argument.1 = .ok ⟨argument.1, argument.2, []⟩ := by
  have htexts : (parse loneInArgument).toOption.map (fun markup ↦ markup.filters.map FilterRequest.texts) =
      some [["(z | g: w)", "y[0)]"]] := by decide +kernel
  cases hparse : parse loneInArgument with
  | error fault =>
    rw [hparse] at htexts
    cases htexts
  | ok markup =>
    rw [hparse] at htexts
    exact ⟨markup, rfl, Option.some.inj htexts, kept_texts_mean_parsed hparse⟩

end Markup

end Liquid
