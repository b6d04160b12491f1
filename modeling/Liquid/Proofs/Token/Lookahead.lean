import Liquid.Proofs.Token.Continuation

/-!
# How far the lexer looks ahead

The tokens of a source that ends with a closed marker are the first tokens of every longer source, unless what
follows closes something that the source left open in front of one of its pieces. This is the only way in which a
longer source can change them: three braces, a comment or a quote that found no end in the source are read otherwise
if they find one behind it.
-/

namespace Liquid

namespace Position

theorem offset_lt_after (position : Position) {text : List Char} (h : text ≠ []) :
    position.offset < (position.after text).offset := by
  have hnext (position : Position) (c : Char) : position.offset < (position.next c).offset := by
    have hsize := c.utf8Size_pos
    rw [next]
    split <;> exact Nat.lt_add_of_pos_right hsize
  obtain ⟨c, rest, rfl⟩ := List.exists_cons_of_ne_nil h
  clear h
  induction rest generalizing position c with
  | nil => exact hnext position c
  | cons d rest ih => exact Nat.lt_trans (hnext position c) (ih (position.next c) d)

theorem offset_le_after (position : Position) (text : List Char) : position.offset ≤ (position.after text).offset := by
  cases text with
  | nil => exact Nat.le_refl _
  | cons c rest => exact Nat.le_of_lt (position.offset_lt_after (List.cons_ne_nil c rest))

/-- Two beginnings of one text that stop at the same place are the same. -/
theorem eq_of_after_eq {position : Position} {text one other : List Char} (hone : one <+: text)
    (hother : other <+: text) (h : position.after one = position.after other) : one = other := by
  have hpart {one other : List Char} (hpart : one <+: other) (h : position.after one = position.after other) :
      one = other := by
    obtain ⟨more, rfl⟩ := hpart
    cases more with
    | nil => exact (List.append_nil one).symm
    | cons c more =>
      have hpassed := (position.after one).offset_lt_after (List.cons_ne_nil c more)
      rw [← after_append, ← h] at hpassed
      exact (Nat.lt_irrefl _ hpassed).elim
  obtain hshort | hshort := List.prefix_or_prefix_of_prefix hone hother
  · exact hpart hshort h
  · exact (hpart hshort h.symm).symm

end Position

namespace Lexer

variable {lexer moved final : Lexer} {rest later : List Char} {trimNext : Bool} {token : Token} {placed : PlacedToken}
  {tokens : List PlacedToken}

/-- The lexer at the same place of a source that goes on. -/
def append (lexer : Lexer) (later : List Char) : Lexer := { lexer with rest := lexer.rest ++ later }

@[simp] theorem moveTo_rest (lexer : Lexer) (rest : List Char) (trimNext : Bool) :
    (lexer.moveTo rest trimNext).rest = rest := rfl

theorem moveTo_append (lexer : Lexer) (rest later : List Char) (trimNext : Bool) :
    (lexer.append later).moveTo (rest ++ later) trimNext = (lexer.moveTo rest trimNext).append later := by
  simp only [moveTo, append, List.length_append, Nat.add_sub_add_right]
  rw [List.take_append_of_le_length (Nat.sub_le _ _)]

/-- A piece takes a character at least, and the lexer moves on by what it takes. -/
theorem exists_taken {token? : Option Token} (hrest : lexer.rest ≠ [])
    (hpiece : takePiece lexer.trimNext lexer.rest = .taken token? rest trimNext) :
    ∃ taken, taken ≠ [] ∧ lexer.rest = taken ++ rest ∧
      (lexer.moveTo rest trimNext).position = lexer.position.after taken := by
  obtain ⟨taken, htaken, hshape, -⟩ := takePiece_isPiece hrest hpiece
  refine ⟨taken, htaken, hshape, ?_⟩
  rw [moveTo, hshape, List.length_append, Nat.add_sub_cancel, List.take_left]

theorem length_lt_of_taken {token? : Option Token} (hrest : lexer.rest ≠ [])
    (hpiece : takePiece lexer.trimNext lexer.rest = .taken token? rest trimNext) :
    rest.length < lexer.rest.length := by
  obtain ⟨taken, htaken, hshape, -⟩ := exists_taken hrest hpiece
  have hpositive := List.length_pos_iff.2 htaken
  rw [hshape, List.length_append]
  omega

/-! ## One token after the other -/

theorem nextWith_succ (fuel : Nat) (hrest : lexer.rest ≠ []) : nextWith (fuel + 1) lexer =
    match takePiece lexer.trimNext lexer.rest with
    | .failed fault rest trimNext => (.failed fault lexer.position.line, lexer.moveTo rest trimNext)
    | .taken (some token) rest trimNext =>
      (.token ⟨token, lexer.position, (lexer.moveTo rest trimNext).position⟩, lexer.moveTo rest trimNext)
    | .taken none rest trimNext => nextWith fuel (lexer.moveTo rest trimNext) := by
  rw [nextWith, if_neg fun hempty ↦ hrest (List.isEmpty_iff.1 hempty)]
  cases takePiece lexer.trimNext lexer.rest with
  | failed fault rest trimNext => rfl
  | taken token? rest trimNext => cases token? <;> rfl

/-- Fuel that exceeds the number of characters left is enough. -/
theorem nextWith_eq_next {fuel : Nat} (hfuel : lexer.rest.length < fuel) : nextWith fuel lexer = lexer.next := by
  suffices hany : ∀ {fuel other} {lexer : Lexer}, lexer.rest.length < fuel → lexer.rest.length < other →
      nextWith fuel lexer = nextWith other lexer from hany hfuel (Nat.lt_succ_self _)
  intro fuel
  induction fuel with
  | zero => exact fun hfuel ↦ absurd hfuel (Nat.not_lt_zero _)
  | succ fuel ih =>
    rintro (_ | other) lexer hfuel hother
    · exact absurd hother (Nat.not_lt_zero _)
    · by_cases hrest : lexer.rest = []
      · rw [nextWith, nextWith, if_pos (List.isEmpty_iff.2 hrest), if_pos (List.isEmpty_iff.2 hrest)]
      · rw [nextWith_succ fuel hrest, nextWith_succ other hrest]
        cases hpiece : takePiece lexer.trimNext lexer.rest with
        | failed fault rest trimNext => rfl
        | taken token? rest trimNext =>
          have hshorter := length_lt_of_taken hrest hpiece
          cases token? with
          | none => exact ih (by rw [moveTo_rest]; omega) (by rw [moveTo_rest]; omega)
          | some token => rfl

theorem next_of_gap (hrest : lexer.rest ≠ [])
    (hpiece : takePiece lexer.trimNext lexer.rest = .taken none rest trimNext) :
    lexer.next = (lexer.moveTo rest trimNext).next := by
  rw [next, nextWith_succ _ hrest, hpiece]
  exact nextWith_eq_next (length_lt_of_taken hrest hpiece)

theorem next_of_token (hrest : lexer.rest ≠ [])
    (hpiece : takePiece lexer.trimNext lexer.rest = .taken (some token) rest trimNext) :
    lexer.next =
      (.token ⟨token, lexer.position, (lexer.moveTo rest trimNext).position⟩, lexer.moveTo rest trimNext) := by
  rw [next, nextWith_succ _ hrest, hpiece]

theorem next_of_failed {fault : Fault} (hrest : lexer.rest ≠ [])
    (hpiece : takePiece lexer.trimNext lexer.rest = .failed fault rest trimNext) :
    lexer.next = (.failed fault lexer.position.line, lexer.moveTo rest trimNext) := by
  rw [next, nextWith_succ _ hrest, hpiece]

theorem next_of_nil (hrest : lexer.rest = []) : lexer.next = (.ended, lexer) := by
  rw [next, nextWith, if_pos (List.isEmpty_iff.2 hrest)]

/-- A token takes a character at least. -/
theorem length_lt_of_next (h : lexer.next = (.token placed, moved)) : moved.rest.length < lexer.rest.length := by
  induction hlength : lexer.rest.length using Nat.strong_induction_on generalizing lexer with
  | _ length ih =>
    by_cases hrest : lexer.rest = []
    · rw [next_of_nil hrest] at h
      cases h
    · cases hpiece : takePiece lexer.trimNext lexer.rest with
      | failed fault rest trimNext =>
        rw [next_of_failed hrest hpiece] at h
        cases h
      | taken token? rest trimNext =>
        have hshorter := length_lt_of_taken hrest hpiece
        cases token? with
        | none =>
          rw [next_of_gap hrest hpiece] at h
          have hmoved := ih rest.length (hlength ▸ hshorter) h rfl
          omega
        | some token =>
          rw [next_of_token hrest hpiece] at h
          cases h
          rw [moveTo_rest]
          omega

end Lexer

namespace TokenStream

open Lexer

variable {lexer moved final : Lexer} {rest later : List Char} {trimNext : Bool} {token : Token} {placed : PlacedToken}
  {tokens : List PlacedToken}

/-- The tokens from a place of a source on. -/
def ofLexer (lexer : Lexer) : TokenStream := collect (lexer.rest.length + 1) lexer

/-- Fuel that exceeds the number of characters left is enough. -/
theorem collect_eq_ofLexer {fuel : Nat} (hfuel : lexer.rest.length < fuel) : collect fuel lexer = ofLexer lexer := by
  suffices hany : ∀ {fuel other} {lexer : Lexer}, lexer.rest.length < fuel → lexer.rest.length < other →
      collect fuel lexer = collect other lexer from hany hfuel (Nat.lt_succ_self _)
  intro fuel
  induction fuel with
  | zero => exact fun hfuel ↦ absurd hfuel (Nat.not_lt_zero _)
  | succ fuel ih =>
    rintro (_ | other) lexer hfuel hother
    · exact absurd hother (Nat.not_lt_zero _)
    · rw [collect, collect]
      split
      · rfl
      · rfl
      · next placed moved hnext =>
        have hshorter := length_lt_of_next hnext
        have hothers : collect fuel moved = collect other moved := ih (by omega) (by omega)
        rw [hothers]

theorem ofSource_eq_ofLexer (source : String) : ofSource source = ofLexer (.start source) := by
  rw [ofSource, ofLexer, Lexer.start, String.length_toList]

theorem ofLexer_of_gap (hrest : lexer.rest ≠ [])
    (hpiece : takePiece lexer.trimNext lexer.rest = .taken none rest trimNext) :
    ofLexer lexer = ofLexer (lexer.moveTo rest trimNext) := by
  have hshorter := length_lt_of_taken hrest hpiece
  have hfuel : (lexer.moveTo rest trimNext).rest.length < lexer.rest.length + 1 := Nat.lt_succ_of_lt hshorter
  rw [← collect_eq_ofLexer hfuel, ofLexer, collect, collect, next_of_gap hrest hpiece]

theorem ofLexer_of_token (hrest : lexer.rest ≠ [])
    (hpiece : takePiece lexer.trimNext lexer.rest = .taken (some token) rest trimNext) :
    ofLexer lexer =
      ⟨⟨token, lexer.position, (lexer.moveTo rest trimNext).position⟩ :: (ofLexer (lexer.moveTo rest trimNext)).tokens,
        (ofLexer (lexer.moveTo rest trimNext)).failure⟩ := by
  have hfuel : (lexer.moveTo rest trimNext).rest.length < lexer.rest.length := length_lt_of_taken hrest hpiece
  rw [← collect_eq_ofLexer hfuel, ofLexer, collect, next_of_token hrest hpiece]

theorem ofLexer_of_failed {fault : Fault} (hrest : lexer.rest ≠ [])
    (hpiece : takePiece lexer.trimNext lexer.rest = .failed fault rest trimNext) :
    ofLexer lexer = ⟨[], some (fault, lexer.position.line)⟩ := by
  rw [ofLexer, collect, next_of_failed hrest hpiece]

theorem ofLexer_of_nil (hrest : lexer.rest = []) : ofLexer lexer = ⟨[], none⟩ := by
  rw [ofLexer, collect, next_of_nil hrest]

/-! ## One piece after the other -/

/-- A lexer comes from one place to another one by taking pieces, and gives the tokens that they yield. -/
inductive Takes : Lexer → List PlacedToken → Lexer → Prop where
  | here (lexer : Lexer) : Takes lexer [] lexer
  | gap {lexer final : Lexer} {rest : List Char} {trimNext : Bool} {tokens : List PlacedToken} (hrest : lexer.rest ≠ [])
      (hpiece : takePiece lexer.trimNext lexer.rest = .taken none rest trimNext)
      (hothers : Takes (lexer.moveTo rest trimNext) tokens final) : Takes lexer tokens final
  | token {lexer final : Lexer} {token : Token} {rest : List Char} {trimNext : Bool} {tokens : List PlacedToken}
      (hrest : lexer.rest ≠ []) (hpiece : takePiece lexer.trimNext lexer.rest = .taken (some token) rest trimNext)
      (hothers : Takes (lexer.moveTo rest trimNext) tokens final) :
      Takes lexer (⟨token, lexer.position, (lexer.moveTo rest trimNext).position⟩ :: tokens) final

namespace Takes

theorem exists_taken (h : Takes lexer tokens final) :
    ∃ taken, lexer.rest = taken ++ final.rest ∧ final.position = lexer.position.after taken := by
  induction h with
  | here lexer => exact ⟨[], rfl, rfl⟩
  | gap hrest hpiece hothers ih | token hrest hpiece hothers ih =>
    obtain ⟨taken, -, hshape, hposition⟩ := Lexer.exists_taken hrest hpiece
    obtain ⟨others, hothersShape, hfinal⟩ := ih
    refine ⟨taken ++ others, ?_, ?_⟩
    · rw [List.append_assoc, ← hothersShape]
      exact hshape
    · rw [hfinal, hposition, Position.after_append]

/-- The tokens of a source are those of the pieces taken and those from there on. -/
theorem tokens_eq (h : Takes lexer tokens final) : (ofLexer lexer).tokens = tokens ++ (ofLexer final).tokens := by
  induction h with
  | here lexer => rfl
  | gap hrest hpiece hothers ih => rw [ofLexer_of_gap hrest hpiece, ih]
  | token hrest hpiece hothers ih =>
    rw [ofLexer_of_token hrest hpiece, ih]
    rfl

theorem tokens_eq_nil (h : Takes lexer tokens final) (hrest : lexer.rest = []) : tokens = [] := by
  cases h with
  | here => rfl
  | gap hne | token hne => exact (hne hrest).elim

/-- Whoever comes to the end can take what stands where it is. -/
theorem exists_piece (h : Takes lexer tokens final) (hfinal : final.rest = []) (hrest : lexer.rest ≠ []) :
    ∃ token? rest trimNext, takePiece lexer.trimNext lexer.rest = .taken token? rest trimNext := by
  cases h with
  | here => exact (hrest hfinal).elim
  | gap _ hpiece | token _ hpiece => exact ⟨_, _, _, hpiece⟩

end Takes

/-- Where the lexer stops: at the end, or in front of a piece that cannot be read. -/
def StopsAt (place : Lexer) : (failure : Option (Fault × Nat)) → Prop
  | none => place.rest = []
  | some (fault, line) => line = place.position.line ∧
    ∃ rest trimNext, takePiece place.trimNext place.rest = .failed fault rest trimNext

/-- The pieces of a source are taken up to the place where the lexer stops. -/
theorem exists_stop (lexer : Lexer) :
    ∃ place, Takes lexer (ofLexer lexer).tokens place ∧ StopsAt place (ofLexer lexer).failure := by
  induction hlength : lexer.rest.length using Nat.strong_induction_on generalizing lexer with
  | _ length ih =>
    by_cases hrest : lexer.rest = []
    · rw [ofLexer_of_nil hrest]
      exact ⟨lexer, .here lexer, hrest⟩
    · cases hpiece : takePiece lexer.trimNext lexer.rest with
      | failed fault rest trimNext =>
        rw [ofLexer_of_failed hrest hpiece]
        exact ⟨lexer, .here lexer, rfl, rest, trimNext, hpiece⟩
      | taken token? rest trimNext =>
        have hshorter := length_lt_of_taken hrest hpiece
        obtain ⟨place, htakes, hstops⟩ := ih rest.length (hlength ▸ hshorter) (lexer.moveTo rest trimNext) rfl
        cases token? with
        | none =>
          rw [ofLexer_of_gap hrest hpiece]
          exact ⟨place, .gap hrest hpiece htakes, hstops⟩
        | some token =>
          rw [ofLexer_of_token hrest hpiece]
          exact ⟨place, .token hrest hpiece htakes, hstops⟩

/-- All pieces of a source that can be read are taken. -/
theorem takes_ofLexer (hread : (ofLexer lexer).failure = none) :
    ∃ final, Takes lexer (ofLexer lexer).tokens final ∧ final.rest = [] := by
  obtain ⟨final, htakes, hstops⟩ := exists_stop lexer
  rw [hread] at hstops
  exact ⟨final, htakes, hstops⟩

/-! ## A source that goes on -/

/-- The last token is no plain text, and it ends at a place. -/
def EndsMarked (tokens : List PlacedToken) (stop : Position) : Prop :=
  ∃ placed, tokens.getLast? = some placed ∧ IsMarked placed.token ∧ placed.span.stop = stop

/-- Behind plain text, with which a source does not end, stands a marker that can be read. -/
theorem three_le_length_behind {token? : Option Token} (hmarker : Marker.at? lexer.rest = none)
    (hpiece : takePiece lexer.trimNext lexer.rest = .taken token? rest trimNext)
    (hothers : Takes (lexer.moveTo rest trimNext) tokens final) (hfinal : final.rest = []) (hrest : rest ≠ []) :
    3 ≤ rest.length := by
  rw [takePiece, hmarker] at hpiece
  obtain ⟨-, hdropped, -⟩ := Piece.taken.inj hpiece
  have hsome := Marker.isSome_at?_drop_textBefore (hdropped.symm ▸ hrest)
  rw [hdropped] at hsome
  obtain ⟨marker, hnext⟩ := Option.isSome_iff_exists.1 hsome
  obtain ⟨next?, behind, trims, htaken⟩ := hothers.exists_piece hfinal hrest
  rw [moveTo_rest, takePiece, hnext] at htaken
  exact three_le_length hnext htaken

/-- The rest of a source ends as the source does. -/
theorem EndsMarked.tail (h : EndsMarked (placed :: tokens) final.position) (hothers : Takes moved tokens final)
    (hstop : placed.span.stop = moved.position) (hfinal : final.rest = []) (hrest : moved.rest ≠ []) :
    EndsMarked tokens final.position := by
  obtain ⟨last, hlast, hkind, hlastStop⟩ := h
  cases tokens with
  | cons next others => exact ⟨last, hlast, hkind, hlastStop⟩
  | nil =>
    obtain rfl : placed = last := Option.some.inj hlast
    obtain ⟨taken, hshape, hposition⟩ := hothers.exists_taken
    rw [hfinal, List.append_nil] at hshape
    have hpassed := moved.position.offset_lt_after (hshape ▸ hrest)
    rw [← hposition, ← hlastStop, hstop] at hpassed
    exact (Nat.lt_irrefl _ hpassed).elim

/-- A piece without a token is the same in a longer source that settles it, -/
theorem gap_append (hpiece : takePiece lexer.trimNext lexer.rest = .taken none rest trimNext)
    (hothers : Takes (lexer.moveTo rest trimNext) tokens final) (hfinal : final.rest = [])
    (hmarked : EndsMarked tokens final.position) (hsettled : Settled lexer.rest later) :
    takePiece lexer.trimNext (lexer.rest ++ later) = .taken none (rest ++ later) trimNext := by
  have hne : rest ≠ [] := by
    rintro rfl
    obtain ⟨placed, hlast, -⟩ := hmarked
    rw [hothers.tokens_eq_nil rfl] at hlast
    cases hlast
  exact takePiece_append hpiece (three_le_length_behind · hpiece hothers hfinal hne) hsettled

/-- and so is one with a token. -/
theorem token_append {span : Span} (hpiece : takePiece lexer.trimNext lexer.rest = .taken (some token) rest trimNext)
    (hothers : Takes (lexer.moveTo rest trimNext) tokens final) (hfinal : final.rest = [])
    (hmarked : EndsMarked (⟨token, span⟩ :: tokens) final.position) (hsettled : Settled lexer.rest later) :
    takePiece lexer.trimNext (lexer.rest ++ later) = .taken (some token) (rest ++ later) trimNext := by
  have hne (hmarker : Marker.at? lexer.rest = none) : rest ≠ [] := by
    rintro rfl
    obtain ⟨placed, hlast, hkind, -⟩ := hmarked
    rw [hothers.tokens_eq_nil rfl] at hlast
    obtain rfl := Option.some.inj hlast
    rw [takePiece, hmarker] at hpiece
    exact not_isMarked_of_takeData hpiece hkind
  have hlength (hmarker : Marker.at? lexer.rest = none) : 3 ≤ rest.length :=
    three_le_length_behind hmarker hpiece hothers hfinal (hne hmarker)
  exact takePiece_append hpiece hlength hsettled

/-- Text behind a source closes nothing that the source leaves open in front of one of its pieces. -/
def ClosesNothing (lexer : Lexer) (later : List Char) : Prop :=
  ∀ passed reached, Takes lexer passed reached → reached.rest ≠ [] → Settled reached.rest later

/-- The pieces of a source that ends with a marker are the first pieces of a longer one that settles them all. -/
theorem Takes.append (h : Takes lexer tokens final) (hfinal : final.rest = [])
    (hmarked : lexer.rest ≠ [] → EndsMarked tokens final.position) (hsettled : ClosesNothing lexer later) :
    Takes (lexer.append later) tokens (final.append later) := by
  induction h with
  | here lexer => exact .here _
  | @gap lexer final rest trimNext tokens hrest hpiece hothers ih =>
    have hpiece' := gap_append hpiece hothers hfinal (hmarked hrest) (hsettled [] lexer (.here lexer) hrest)
    have hrest' : (lexer.append later).rest ≠ [] := List.append_ne_nil_of_left_ne_nil hrest later
    refine .gap hrest' hpiece' ?_
    rw [moveTo_append]
    exact ih hfinal (fun _ ↦ hmarked hrest) fun passed reached hpassed ↦
      hsettled passed reached (.gap hrest hpiece hpassed)
  | @token lexer final token rest trimNext tokens hrest hpiece hothers ih =>
    have hpiece' := token_append hpiece hothers hfinal (hmarked hrest) (hsettled [] lexer (.here lexer) hrest)
    have hrest' : (lexer.append later).rest ≠ [] := List.append_ne_nil_of_left_ne_nil hrest later
    have hmoved := moveTo_append lexer rest later trimNext
    have htail := ih hfinal (fun hmore ↦ (hmarked hrest).tail hothers rfl hfinal hmore) fun passed reached hpassed ↦
      hsettled _ reached (.token hrest hpiece hpassed)
    rw [← hmoved] at htail
    have hwhole := Takes.token hrest' hpiece' htail
    rw [hmoved] at hwhole
    exact hwhole

/-- No token starts before the place where the lexer is. -/
theorem offset_le_of_mem (h : placed ∈ (ofLexer lexer).tokens) :
    lexer.position.offset ≤ placed.span.start.offset := by
  induction hlength : lexer.rest.length using Nat.strong_induction_on generalizing lexer with
  | _ length ih =>
    by_cases hrest : lexer.rest = []
    · rw [ofLexer_of_nil hrest] at h
      cases h
    · cases hpiece : takePiece lexer.trimNext lexer.rest with
      | failed fault rest trimNext =>
        rw [ofLexer_of_failed hrest hpiece] at h
        cases h
      | taken token? rest trimNext =>
        obtain ⟨taken, -, -, hposition⟩ := Lexer.exists_taken hrest hpiece
        have hpassed := lexer.position.offset_le_after taken
        rw [← hposition] at hpassed
        have hshorter := length_lt_of_taken hrest hpiece
        cases token? with
        | none =>
          rw [ofLexer_of_gap hrest hpiece] at h
          exact Nat.le_trans hpassed (ih rest.length (hlength ▸ hshorter) h rfl)
        | some token =>
          rw [ofLexer_of_token hrest hpiece] at h
          obtain rfl | hlater := List.mem_cons.1 h
          · exact Nat.le_refl _
          · exact Nat.le_trans hpassed (ih rest.length (hlength ▸ hshorter) hlater rfl)

/-- A longer source that gives the same token at the same place takes the same text for it. -/
theorem taken_of_head (hrest : lexer.rest ≠ [])
    (hpiece : takePiece lexer.trimNext lexer.rest = .taken (some token) rest trimNext)
    (hhead : (ofLexer (lexer.append later)).tokens.head? =
      some ⟨token, lexer.position, (lexer.moveTo rest trimNext).position⟩) :
    ∃ trimNext', takePiece lexer.trimNext (lexer.rest ++ later) = .taken (some token) (rest ++ later) trimNext' := by
  have hrest' : (lexer.append later).rest ≠ [] := List.append_ne_nil_of_left_ne_nil hrest later
  cases hlonger : takePiece (lexer.append later).trimNext (lexer.append later).rest with
  | failed fault rest' trimNext' =>
    rw [ofLexer_of_failed hrest' hlonger] at hhead
    cases hhead
  | taken token? rest' trimNext' =>
    obtain ⟨taken', htaken', hshape', hposition'⟩ := Lexer.exists_taken hrest' hlonger
    cases token? with
    | none =>
      rw [ofLexer_of_gap hrest' hlonger] at hhead
      have hstart := offset_le_of_mem (List.mem_of_head? hhead)
      rw [hposition'] at hstart
      exact (Nat.not_lt.2 hstart ((lexer.append later).position.offset_lt_after htaken')).elim
    | some token' =>
      rw [ofLexer_of_token hrest' hlonger, List.head?_cons] at hhead
      rw [Option.some.injEq, PlacedToken.mk.injEq, Span.mk.injEq] at hhead
      obtain ⟨rfl, -, hstop⟩ := hhead
      obtain ⟨taken, -, hshape, hposition⟩ := Lexer.exists_taken hrest hpiece
      rw [hposition', hposition] at hstop
      have hsource : (lexer.append later).rest = taken ++ (rest ++ later) := by
        rw [append, hshape, List.append_assoc]
      obtain rfl := Position.eq_of_after_eq ⟨rest', hshape'.symm⟩ ⟨rest ++ later, hsource.symm⟩ hstop
      rw [hsource, List.append_cancel_left_eq] at hshape'
      rw [hshape']
      exact ⟨trimNext', hlonger⟩

/-- The pieces of a source that ends with a marker are settled if its tokens are the first ones of a longer source. -/
theorem Takes.settled (h : Takes lexer tokens final) (hfinal : final.rest = [])
    (hmarked : lexer.rest ≠ [] → EndsMarked tokens final.position)
    (hbegins : tokens <+: (ofLexer (lexer.append later)).tokens) : ClosesNothing lexer later := by
  intro passed reached hreached hmore
  induction h generalizing passed with
  | here lexer =>
    cases hreached with
    | here => exact (hmore hfinal).elim
    | gap hrest | token hrest => exact (hrest hfinal).elim
  | @gap lexer final rest trimNext tokens hrest hpiece hothers ih =>
    have hsettled : Settled lexer.rest later := .of_gap hpiece later
    have hpiece' := gap_append hpiece hothers hfinal (hmarked hrest) hsettled
    have hrest' : (lexer.append later).rest ≠ [] := List.append_ne_nil_of_left_ne_nil hrest later
    rw [ofLexer_of_gap hrest' hpiece', moveTo_append] at hbegins
    cases hreached with
    | here => exact hsettled
    | gap _ hpieceR hreached =>
      obtain ⟨-, rfl, rfl⟩ := Piece.taken.inj (hpiece.symm.trans hpieceR)
      exact ih hfinal (fun _ ↦ hmarked hrest) hbegins _ hreached
    | token _ hpieceR => cases hpiece.symm.trans hpieceR
  | @token lexer final token rest trimNext tokens hrest hpiece hothers ih =>
    obtain ⟨others, hothersEq⟩ := id hbegins
    obtain ⟨trimNext', hlonger⟩ := taken_of_head hrest hpiece (by rw [← hothersEq]; rfl)
    have hsettled : Settled lexer.rest later := .of_token hpiece hlonger List.length_append
    have hpiece' := token_append hpiece hothers hfinal (hmarked hrest) hsettled
    have hrest' : (lexer.append later).rest ≠ [] := List.append_ne_nil_of_left_ne_nil hrest later
    rw [ofLexer_of_token hrest' hpiece', moveTo_append] at hbegins
    cases hreached with
    | here => exact hsettled
    | gap _ hpieceR => cases hpiece.symm.trans hpieceR
    | token _ hpieceR hreached =>
      obtain ⟨-, rfl, rfl⟩ := Piece.taken.inj (hpiece.symm.trans hpieceR)
      have hmarked' (hmore : (lexer.moveTo rest trimNext).rest ≠ []) : EndsMarked tokens final.position :=
        (hmarked hrest).tail hothers rfl hfinal hmore
      exact ih hfinal hmarked' (List.cons_prefix_cons.1 hbegins).2 _ hreached

/-! ## Sources -/

/-- Text behind a source changes none of its tokens if and only if it closes nothing that the source leaves open in
front of one of its pieces, provided that the source can be read and ends with an output, a tag or a raw text. It does
not if there is no closing brace in it. -/
theorem tokens_prefix_iff (source later : String) (hread : (ofSource source).failure = none)
    (hmarked : EndsMarked (ofSource source).tokens (Position.behind source.toList)) :
    ((ofSource source).tokens <+: (ofSource (source ++ later)).tokens ↔
      ClosesNothing (.start source) later.toList) ∧
      ('\x7d' ∉ later.toList → (ofSource source).tokens <+: (ofSource (source ++ later)).tokens) := by
  have hlonger : Lexer.start (source ++ later) = (Lexer.start source).append later.toList := by
    simp only [Lexer.start, append, String.toList_append]
  rw [ofSource_eq_ofLexer] at hread hmarked ⊢
  rw [ofSource_eq_ofLexer, hlonger]
  obtain ⟨final, htakes, hfinal⟩ := takes_ofLexer hread
  have hposition : final.position = Position.behind source.toList := by
    obtain ⟨taken, htaken, hposition⟩ := htakes.exists_taken
    rw [hfinal, List.append_nil] at htaken
    rw [hposition, ← htaken]
    exact Position.after_behind [] source.toList
  rw [← hposition] at hmarked
  have hforward (hsettled : ClosesNothing (.start source) later.toList) :
      (ofLexer (.start source)).tokens <+: (ofLexer ((Lexer.start source).append later.toList)).tokens :=
    ⟨_, (htakes.append hfinal (fun _ ↦ hmarked) hsettled).tokens_eq.symm⟩
  refine ⟨⟨htakes.settled hfinal fun _ ↦ hmarked, hforward⟩, fun hbrace ↦ ?_⟩
  exact hforward fun passed reached _ _ ↦ .of_not_mem hbrace reached.rest

/-- A source that leaves three braces without an end and a quote in an output. -/
def leftOpen : String := "\x7b\x7b\x7b a \x7d\x7d\x7b\x7b ' \x7d\x7d"

theorem tokens_prefix_leftOpen :
    (ofSource leftOpen).failure = none ∧
      EndsMarked (ofSource leftOpen).tokens (Position.behind leftOpen.toList) ∧
        (ofSource leftOpen).tokens <+: (ofSource (leftOpen ++ "\x7b% b '")).tokens := by
  have hread : (ofSource leftOpen).failure = none := by decide +kernel
  have hmarked : EndsMarked (ofSource leftOpen).tokens (Position.behind leftOpen.toList) :=
    ⟨⟨.output "'" false false, ⟨1, 8, 8⟩, ⟨1, 15, 15⟩⟩, by decide +kernel, trivial, by decide +kernel⟩
  exact ⟨hread, hmarked, (tokens_prefix_iff leftOpen "\x7b% b '" hread hmarked).2 (by decide +kernel)⟩

/-- A source that is plain text up to the output at its end, for want of an end of the comment in front of it. -/
def uncommented : String := "\x7b# \x7b\x7b x \x7d\x7d"

/-- The end of the comment takes the output away. -/
theorem uncommented_tokens_not_prefix :
    (ofSource uncommented).failure = none ∧
      EndsMarked (ofSource uncommented).tokens (Position.behind uncommented.toList) ∧
        ¬(ofSource uncommented).tokens <+: (ofSource (uncommented ++ "#\x7d")).tokens := by
  refine ⟨by decide +kernel, ⟨⟨.output "x" false false, ⟨1, 3, 3⟩, ⟨1, 10, 10⟩⟩, ?_, trivial, ?_⟩, ?_⟩
  · decide +kernel
  · decide +kernel
  · decide +kernel

end TokenStream

end Liquid
