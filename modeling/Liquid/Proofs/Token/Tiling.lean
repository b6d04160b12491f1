import Liquid.Proofs.Token.Piece

/-!
# Tokens tile their source

The tokens of a source that can be read, the comments and the texts that trimming empties cover the source one behind the
other. The spans of the tokens say where their texts stand, and a token of plain text is its text, trimmed as its neighbours
ask.
-/

namespace Liquid.TokenStream

open Lexer Position

/-- Whether the spaces and tabs are dropped behind what stands directly before a place: a token with its text, or nothing
that matters. -/
def AsksTrimming : Option (List Char × Token) → Prop
  | some (text, token) => TrimsRight text token
  | none => False

/-- A part of a source and its tokens, given the text before the part and the token that ends where the part begins. -/
inductive Tiling (isComment : List Char → List Char → Prop) :
    (before : List Char) → (previous : Option (List Char × Token)) → (rest : List Char) → List PlacedToken → Prop where
  | done {before : List Char} {previous : Option (List Char × Token)} : Tiling isComment before previous [] []
  | gap {before text rest : List Char} {previous : Option (List Char × Token)} {tokens : List PlacedToken}
      (htext : text ≠ []) (hgap : IsGap isComment (AsksTrimming previous) text rest)
      (hrest : Tiling isComment (before ++ text) none rest tokens) :
      Tiling isComment before previous (text ++ rest) tokens
  | token {before text rest : List Char} {previous : Option (List Char × Token)} {token : Token}
      {tokens : List PlacedToken} (htext : text ≠ []) (htoken : IsTokenOf (AsksTrimming previous) text rest token)
      (hrest : Tiling isComment (before ++ text) (some (text, token)) rest tokens) :
      Tiling isComment before previous (text ++ rest) (⟨token, ⟨behind before, behind (before ++ text)⟩⟩ :: tokens)

/-! ## Reading a source tiles it -/

/-- A lexer has come to a place with the given text before it. -/
structure StandsBehind (lexer : Lexer) (before : List Char) (previous : Option (List Char × Token)) : Prop where
  position : lexer.position = behind before
  trims : lexer.trimNext = true ↔ AsksTrimming previous

/-- Behind a piece the lexer stands where the piece ends. -/
theorem StandsBehind.moveTo {lexer : Lexer} {before taken rest : List Char} {previous : Option (List Char × Token)}
    (h : StandsBehind lexer before previous) (hrest : lexer.rest = taken ++ rest) {trimNext : Bool}
    {following : Option (List Char × Token)} (htrims : trimNext = true ↔ AsksTrimming following) :
    StandsBehind (lexer.moveTo rest trimNext) (before ++ taken) following where
  position := by
    have htaken : lexer.rest.take (lexer.rest.length - rest.length) = taken := by
      rw [hrest, List.length_append, Nat.add_sub_cancel, List.take_left]
    rw [Lexer.moveTo, htaken, h.position]
    exact after_behind before taken
  trims := htrims

/-- What a lexer has passed when it stops: everything, or the pieces up to a token. -/
def Passes (before : List Char) (previous : Option (List Char × Token)) (rest : List Char) : Step × Lexer → Prop
  | (.ended, _) => Tiling TakenForComment before previous rest []
  | (.failed _ _, _) => True
  | (.token placed, moved) =>
    ∃ covered following, StandsBehind moved covered following ∧ moved.rest.length < rest.length ∧
      ∀ tokens, Tiling TakenForComment covered following moved.rest tokens →
        Tiling TakenForComment before previous rest (placed :: tokens)

/-- A piece that yields no token may be passed on the way. -/
theorem Passes.after {before taken rest : List Char} {previous : Option (List Char × Token)} {stopped : Step × Lexer}
    (h : Passes (before ++ taken) none rest stopped)
    (hpiece : ∀ tokens, Tiling TakenForComment (before ++ taken) none rest tokens →
      Tiling TakenForComment before previous (taken ++ rest) tokens) :
    Passes before previous (taken ++ rest) stopped := by
  rcases stopped with ⟨_ | placed | _, moved⟩
  · exact hpiece [] h
  · obtain ⟨covered, following, hstands, hshorter, htiles⟩ := h
    refine ⟨covered, following, hstands, ?_, fun tokens htokens ↦ hpiece _ (htiles tokens htokens)⟩
    rw [List.length_append]
    omega
  · trivial

/-- The lexer takes pieces up to one that yields a token. -/
theorem nextWith_passes (fuel : Nat) (lexer : Lexer) {before : List Char} {previous : Option (List Char × Token)}
    (hfuel : lexer.rest.length < fuel) (hstands : StandsBehind lexer before previous) :
    Passes before previous lexer.rest (nextWith fuel lexer) := by
  induction fuel generalizing lexer before previous with
  | zero => omega
  | succ fuel ih =>
    rw [nextWith]
    by_cases hempty : lexer.rest = []
    · rw [if_pos (List.isEmpty_iff.2 hempty), hempty]
      exact .done
    · rw [if_neg fun hnone ↦ hempty (List.isEmpty_iff.1 hnone)]
      cases hpiece : takePiece lexer.trimNext lexer.rest with
      | failed fault rest trimNext => trivial
      | taken token? rest trimNext =>
        obtain ⟨taken, htaken, hrest, hkind⟩ := takePiece_isPiece hempty hpiece
        have hshorter : rest.length < lexer.rest.length := by
          have hpositive := List.length_pos_iff.2 htaken
          rw [hrest, List.length_append]
          omega
        have hfuelLeft : rest.length < fuel := Nat.lt_of_lt_of_le hshorter (Nat.le_of_lt_succ hfuel)
        rw [propext hstands.trims] at hkind
        cases hkind with
        | gap hgap =>
          have hasks : false = true ↔ AsksTrimming none := ⟨nofun, False.elim⟩
          have hmoved := hstands.moveTo hrest hasks
          have hlater := ih (lexer.moveTo rest false) hfuelLeft hmoved
          rw [hrest]
          exact hlater.after fun tokens htokens ↦ .gap htaken hgap htokens
        | @token token _ htoken htrims =>
          have hasks : trimNext = true ↔ AsksTrimming (some (taken, token)) := htrims
          have hmoved := hstands.moveTo hrest hasks
          refine ⟨_, _, hmoved, hshorter, fun tokens htokens ↦ ?_⟩
          rw [hrest, hstands.position, hmoved.position]
          exact .token htaken htoken htokens

/-- The tokens that are collected tile what they are collected from. -/
theorem collect_tiles (fuel : Nat) (lexer : Lexer) {before : List Char} {previous : Option (List Char × Token)}
    (hfuel : lexer.rest.length < fuel) (hstands : StandsBehind lexer before previous)
    (hread : (collect fuel lexer).failure = none) :
    Tiling TakenForComment before previous lexer.rest (collect fuel lexer).tokens := by
  induction fuel generalizing lexer before previous with
  | zero => omega
  | succ fuel ih =>
    have hpasses := nextWith_passes (lexer.rest.length + 1) lexer (Nat.lt_succ_self _) hstands
    rw [collect, Lexer.next] at hread ⊢
    rcases hstopped : nextWith (lexer.rest.length + 1) lexer with ⟨_ | placed | _, moved⟩
    · rw [hstopped] at hpasses
      exact hpasses
    · rw [hstopped] at hpasses hread
      obtain ⟨covered, following, hmoved, hshorter, htiles⟩ := hpasses
      exact htiles _ (ih moved (by omega) hmoved hread)
    · rw [hstopped] at hread
      cases hread

/-! ## What a tiling says -/

namespace Tiling

variable {isComment weaker : List Char → List Char → Prop} {before rest : List Char} {previous : Option (List Char × Token)}
  {tokens : List PlacedToken}

/-- What counts as a comment matters only for the parts of the source. -/
theorem mono (h : Tiling isComment before previous rest tokens)
    (himp : ∀ earlier text later, rest = earlier ++ text ++ later → isComment text later → weaker text later) :
    Tiling weaker before previous rest tokens := by
  induction h with
  | done => exact .done
  | @gap before text rest _ tokens htext hgap _ ih =>
    refine .gap htext (hgap.imp_left (himp [] text rest rfl)) (ih fun earlier other later hrest ↦ ?_)
    exact himp (text ++ earlier) other later (by rw [hrest]; simp only [List.append_assoc])
  | @token before text rest _ token tokens htext htoken _ ih =>
    refine .token htext htoken (ih fun earlier other later hrest ↦ ?_)
    exact himp (text ++ earlier) other later (by rw [hrest]; simp only [List.append_assoc])

/-- Every token stands in the source, and its span is that of its text. -/
theorem exists_text (h : Tiling isComment before previous rest tokens) :
    ∀ placed ∈ tokens, ∃ earlier text later, rest = earlier ++ text ++ later ∧ text ≠ [] ∧
      placed.span = ⟨behind (before ++ earlier), behind (before ++ earlier ++ text)⟩ := by
  induction h with
  | done => exact fun _ hmem ↦ by cases hmem
  | @gap before text rest _ tokens _ _ _ ih =>
    intro placed hmem
    obtain ⟨earlier, own, later, hrest, hown, hspan⟩ := ih placed hmem
    refine ⟨text ++ earlier, own, later, ?_, hown, ?_⟩
    · rw [hrest]
      simp only [List.append_assoc]
    · rw [hspan]
      simp only [List.append_assoc]
  | @token before text rest _ token tokens htext _ _ ih =>
    intro placed hmem
    obtain rfl | hmem := List.mem_cons.1 hmem
    · refine ⟨[], text, rest, rfl, htext, ?_⟩
      rw [List.append_nil]
    · obtain ⟨earlier, own, later, hrest, hown, hspan⟩ := ih placed hmem
      refine ⟨text ++ earlier, own, later, ?_, hown, ?_⟩
      · rw [hrest]
        simp only [List.append_assoc]
      · rw [hspan]
        simp only [List.append_assoc]

/-- No token of a part begins before the part. -/
theorem offset_le_start (h : Tiling isComment before previous rest tokens) :
    ∀ placed ∈ tokens, (behind before).offset ≤ placed.span.start.offset := by
  intro placed hmem
  obtain ⟨earlier, own, later, -, -, hspan⟩ := h.exists_text placed hmem
  rw [hspan, offset_behind_append]
  exact Nat.le_add_right _ _

/-- Each token ends before the next one begins. -/
theorem pairwise_le (h : Tiling isComment before previous rest tokens) :
    tokens.Pairwise fun earlier later ↦ earlier.span.stop.offset ≤ later.span.start.offset := by
  induction h with
  | done => exact .nil
  | gap _ _ _ ih => exact ih
  | token _ _ hrest ih => exact .cons hrest.offset_le_start ih

end Tiling

/-- Reading a source loses nothing but comments and what trimming asks for. If all of a source can be read, its tokens tile
it: the spans follow one another in the source and say where the texts of their tokens stand, and between them stand only
comments and texts that trimming empties. Comments are whole, but for the three characters of an opening whose number sign
also begins an end; wherever these stand in place of a piece, and an end begins behind them, the lexer drops them alone. -/
theorem tokens_tile_source (source : String) (hread : (ofSource source).failure = none) :
    Tiling TakenForComment [] none source.toList (ofSource source).tokens ∧
      (∀ placed ∈ (ofSource source).tokens, ∃ before text after, source.toList = before ++ text ++ after ∧
        text ≠ [] ∧ placed.span = ⟨behind before, behind (before ++ text)⟩) ∧
      ((ofSource source).tokens.Pairwise fun earlier later ↦ earlier.span.stop.offset ≤ later.span.start.offset) ∧
      ((∀ before after, source.toList = before ++ overlappingComment ++ after → ¬['#', '\x7d'] <:+: after) →
        Tiling (fun text _ ↦ IsComment text) [] none source.toList (ofSource source).tokens) ∧
      ∀ trimFirst after, ['#', '\x7d'] <:+: after →
        takePiece trimFirst (overlappingComment ++ after) = .taken none after false := by
  have hfuel : source.toList.length < source.length + 1 := by
    rw [String.length_toList]
    exact Nat.lt_succ_self _
  have hstart : StandsBehind (Lexer.start source) [] none := ⟨rfl, nofun, False.elim⟩
  have htiles : Tiling TakenForComment [] none source.toList (ofSource source).tokens :=
    collect_tiles (source.length + 1) (.start source) hfuel hstart hread
  refine ⟨htiles, htiles.exists_text, htiles.pairwise_le, fun hwhole ↦ ?_, fun trimFirst _ ↦
    takePiece_overlappingComment trimFirst⟩
  refine htiles.mono fun before text after hsource hcomment ↦ ?_
  obtain hcomment | ⟨rfl, hended⟩ := hcomment
  · exact hcomment
  · exact (hwhole before after hsource hended).elim

/-- A source with an output that asks for trimming on both sides and with a comment. -/
def markedUp : String := "a \x7b\x7b- x -\x7d\x7d b\x7b# c #\x7dd"

theorem tokens_tile_markedUp :
    (ofSource markedUp).failure = none ∧
      Tiling (fun text _ ↦ IsComment text) [] none markedUp.toList (ofSource markedUp).tokens := by
  have hread : (ofSource markedUp).failure = none := rfl
  have htiles := tokens_tile_source markedUp hread
  have hwhole : ¬overlappingComment <:+: markedUp.toList := by decide +kernel
  exact ⟨hread, htiles.2.2.2.1 fun before after hsource _ ↦ hwhole ⟨before, after, hsource.symm⟩⟩

/-- A source that begins with the overlapping comment, and an end behind it. -/
def overlapping : String := "\x7b#\x7d#\x7d"

/-- Trimming takes nothing of a text that begins with a brace. -/
theorem not_trimmed_brace {atEnd : Prop} {rest : List Char} : ¬Trimmed False atEnd ('\x7b' :: rest) [] := by
  rintro ⟨middle, -, hsame, hend, hnone⟩
  by_cases hasked : atEnd
  · have htrimmed := hend hasked
    generalize middle = text at hsame htrimmed
    cases htrimmed with
    | @run _ run _ hblank =>
      have hbrace : '\x7b' ∈ run := by
        rw [show run = '\x7b' :: rest from hsame not_false]
        exact List.mem_cons_self
      exact absurd (hblank '\x7b' hbrace) (by decide)
    | returned => cases hsame not_false
    | broken => cases hsame not_false
    | same => cases hsame not_false
  · have hempty := (hnone hasked).trans (hsame not_false)
    cases hempty

/-- The overlapping comment is lost although it is not a whole comment. -/
theorem overlapping_not_tiled :
    (ofSource overlapping).failure = none ∧
      ¬Tiling (fun text _ ↦ IsComment text) [] none overlapping.toList (ofSource overlapping).tokens := by
  refine ⟨rfl, fun htiles ↦ ?_⟩
  have htokens : (ofSource overlapping).tokens = [⟨.data "#\x7d", ⟨⟨1, 3, 3⟩, ⟨1, 5, 5⟩⟩⟩] := by decide +kernel
  generalize htext : overlapping.toList = text at htiles
  generalize hlist : (ofSource overlapping).tokens = tokens at htiles
  rw [hlist] at htokens
  cases htiles with
  | done => cases htokens
  | token _ _ _ =>
    have hstart := congrArg (List.map fun placed ↦ placed.span.start.offset) htokens
    cases hstart
  | @gap _ text rest _ _ hnonempty hgap hrest =>
    obtain ⟨inside, rfl⟩ | htrimmed := hgap
    · have hsource : ['\x7b', '#', '\x7d', '#', '\x7d'] = ['\x7b', '#'] ++ inside ++ ['#', '\x7d'] ++ rest := htext
      match inside, hsource with
      | [], hsource => cases hsource
      | [c], hsource =>
        cases hsource
        obtain ⟨earlier, own, later, hnothing, hown, -⟩ :=
          hrest.exists_text _ (htokens ▸ List.mem_singleton_self _)
        rw [List.nil_eq_append_iff, List.append_eq_nil_iff] at hnothing
        exact hown hnothing.1.2
      | c :: d :: more, hsource =>
        have hlength := congrArg List.length hsource
        simp only [List.length_append, List.length_cons, List.length_nil] at hlength
        omega
    · obtain ⟨c, others, rfl⟩ := List.exists_cons_of_ne_nil hnonempty
      obtain rfl : '\x7b' = c := (List.cons.inj htext).1
      exact not_trimmed_brace htrimmed

end Liquid.TokenStream
