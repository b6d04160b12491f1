import Liquid.Proofs.Text.Pieces
import Liquid.Proofs.Text.Places
import Liquid.Proofs.Token.Lookahead

/-!
# Asking a lexer again and again

A lexer may be asked for tokens also behind a piece that cannot be read. A tag that is closed, but has no name or no end
tag, is passed before it fails, so that the next call goes on behind it. An output or a tag that nothing closes is not: the
lexer stays in front of it and fails with every further call. Everywhere else a call takes a character at least, until
nothing is left.
-/

namespace Liquid

/-- A text starts with a marker that is recognised as one. -/
inductive Marker.Opens : Marker → List Char → Prop where
  | output {inside : List Char} : Opens .output ('\x7b' :: '\x7b' :: inside)
  | tag {inside : List Char} : Opens .tag ('\x7b' :: '%' :: inside)
  | comment {inside : List Char} (hended : ['#', '\x7d'] <:+: inside) : Opens .comment ('\x7b' :: '#' :: inside)
  | literal {inside : List Char} (hended : ['\x7d', '\x7d', '\x7d'] <:+: inside) :
      Opens .literal ('\x7b' :: '\x7b' :: '\x7b' :: inside)

theorem Marker.opens_of_at? {marker : Marker} {text : List Char} (h : Marker.at? text = some marker) :
    marker.Opens text := by
  unfold Marker.at? at h
  split at h
  · split at h
    · split at h
      · next hended =>
        obtain rfl := Option.some.inj h
        exact .literal ((Text.contains_iff _ _).1 hended)
      · obtain rfl := Option.some.inj h
        exact .output
    · obtain rfl := Option.some.inj h
      exact .output
  · obtain rfl := Option.some.inj h
    exact .tag
  · split at h
    · next hended =>
      obtain rfl := Option.some.inj h
      exact .comment ((Text.contains_iff _ _).1 hended)
    · cases h
  · cases h

namespace Lexer

variable {text rest : List Char} {lexer moved : Lexer} {fault : Fault} {trimFirst trimNext : Bool}
  {marker : String}

/-! ## Pieces that cannot be read -/

/-- A text starts with an output or a tag that nothing closes. -/
inductive LeftOpen : (marker : String) → List Char → Prop where
  | output {inside : List Char} (hopen : ¬['\x7d', '\x7d'] <:+: inside) :
      LeftOpen "output marker `\x7b\x7b`" ('\x7b' :: '\x7b' :: inside)
  | tag {inside : List Char} (hopen : ¬['%', '\x7d'] <:+: inside) :
      LeftOpen "tag marker `\x7b%`" ('\x7b' :: '%' :: inside)

theorem LeftOpen.ne_nil (h : LeftOpen marker text) : text ≠ [] := by
  cases h <;> exact List.cons_ne_nil _ _

theorem breakClosing_eq_none_iff {delimiter : List Char} :
    breakClosing delimiter text = none ↔ ¬delimiter <:+: text := by
  rw [breakClosing, Option.orElse_eq_orElse, Option.orElse_eq_or, Option.or_eq_none_iff, Text.breakOn_eq_none_iff,
    and_iff_right_iff_imp]
  intro habsent
  cases hfound : breakUnquoted delimiter none text with
  | none => rfl
  | some parts =>
    obtain ⟨before, after⟩ := parts
    exact (habsent ⟨before, after, (eq_append_of_breakUnquoted hfound).symm⟩).elim

/-- In front of a marker that nothing closes the lexer stays, whatever it was asked to trim. -/
theorem takePiece_of_leftOpen (h : LeftOpen marker text) (trimFirst : Bool) :
    takePiece trimFirst text = .failed (.unterminatedMarker marker) text false := by
  cases h with
  | @output inside hopen =>
    have hmarker : Marker.at? ('\x7b' :: '\x7b' :: inside) = some .output := by
      match inside with
      | [] => rfl
      | c :: inner =>
        by_cases hbrace : c = '\x7b'
        · subst hbrace
          rw [Marker.at?_braces, if_neg]
          rw [Text.contains_iff]
          exact fun hended ↦ hopen (.trans ⟨[], ['\x7d'], rfl⟩ (List.infix_cons hended))
        · exact Marker.at?_output hbrace inner
    have hnone : breakClosing ['\x7d', '\x7d'] (('\x7b' :: '\x7b' :: inside).drop 2) = none :=
      breakClosing_eq_none_iff.2 hopen
    rw [takePiece, hmarker]
    dsimp only [takeMarker]
    rw [hnone]
  | @tag inside hopen =>
    have hmarker : Marker.at? ('\x7b' :: '%' :: inside) = some .tag := rfl
    have hnone : breakClosing ['%', '\x7d'] (('\x7b' :: '%' :: inside).drop 2) = none :=
      breakClosing_eq_none_iff.2 hopen
    rw [takePiece, hmarker]
    dsimp only [takeMarker]
    rw [hnone]

/-- A piece that cannot be read is a marker that nothing closes, in front of which the lexer stays, or a tag that is
passed. -/
inductive IsUnreadable (text : List Char) : Fault → List Char → Prop where
  | leftOpen {marker : String} (hopen : LeftOpen marker text) : IsUnreadable text (.unterminatedMarker marker) text
  | nameless {inside taken rest : List Char} (hshape : text = '\x7b' :: '%' :: taken ++ rest) :
      IsUnreadable text (.namelessTag (String.ofList inside)) rest
  | unclosed {name ending : String} {taken rest : List Char} (hshape : text = '\x7b' :: '%' :: taken ++ rest) :
      IsUnreadable text (.unclosedTag name ending) rest

theorem takeTag_isUnreadable {inner taken : List Char} {trimLeft trimRight : Bool} {behind : List Char}
    (hshape : text = '\x7b' :: '%' :: taken ++ behind)
    (h : takeTag inner behind trimLeft trimRight = .failed fault rest trimNext) : IsUnreadable text fault rest := by
  unfold takeTag at h
  dsimp only at h
  split at h
  · obtain ⟨rfl, rfl, -⟩ := Piece.failed.inj h
    exact .nameless hshape
  · split at h
    · unfold takeRaw at h
      dsimp only at h
      split at h
      · cases h
      · obtain ⟨rfl, rfl, -⟩ := Piece.failed.inj h
        exact .unclosed hshape
    · cases h

theorem takePiece_isUnreadable (h : takePiece trimFirst text = .failed fault rest trimNext) :
    IsUnreadable text fault rest := by
  unfold takePiece at h
  split at h
  · next marker hmarker =>
    cases Marker.opens_of_at? hmarker with
    | @output inside =>
      dsimp only [takeMarker, List.drop_succ_cons, List.drop_zero] at h
      split at h
      · cases h
      · next hopen =>
        obtain ⟨rfl, rfl, -⟩ := Piece.failed.inj h
        exact .leftOpen (.output (breakClosing_eq_none_iff.1 hopen))
    | @tag inside =>
      dsimp only [takeMarker, List.drop_succ_cons, List.drop_zero] at h
      split at h
      · next inner behind hclosed =>
        have hshape : '\x7b' :: '%' :: inside = '\x7b' :: '%' :: (inner ++ ['%', '\x7d']) ++ behind := by
          rw [show inside = inner ++ ['%', '\x7d'] ++ behind from eq_append_of_breakClosing hclosed]
          rfl
        exact takeTag_isUnreadable hshape h
      · next hopen =>
        obtain ⟨rfl, rfl, -⟩ := Piece.failed.inj h
        exact .leftOpen (.tag (breakClosing_eq_none_iff.1 hopen))
    | @comment inside hended =>
      dsimp only [takeMarker] at h
      split at h
      · cases h
      · next hopen =>
        have hlonger : ['#', '\x7d'] <:+: '\x7b' :: '#' :: inside := List.infix_cons (List.infix_cons hended)
        exact (Text.breakOn_eq_none_iff.1 hopen hlonger).elim
    | @literal inside hended =>
      dsimp only [takeMarker] at h
      split at h
      · cases h
      · next hopen =>
        have hlonger : ['\x7d', '\x7d', '\x7d'] <:+: '\x7b' :: '\x7b' :: '\x7b' :: inside :=
          List.infix_cons (List.infix_cons (List.infix_cons hended))
        exact (Text.breakOn_eq_none_iff.1 hopen hlonger).elim
  · cases h

/-- The lexer stays only in front of a marker that nothing closes. -/
theorem IsUnreadable.leftOpen_or_shorter (h : IsUnreadable text fault rest) :
    (∃ marker, LeftOpen marker text) ∧ rest = text ∨ rest.length < text.length := by
  cases h with
  | leftOpen hopen => exact .inl ⟨⟨_, hopen⟩, rfl⟩
  | nameless hshape | unclosed hshape =>
    right
    rw [hshape]
    simp only [List.cons_append, List.length_cons, List.length_append]
    omega

/-! ## One call -/

/-- At a marker that nothing closes a call changes nothing, but that no trimming is asked for any more. -/
theorem next_of_leftOpen (h : LeftOpen marker lexer.rest) :
    lexer.next = (.failed (.unterminatedMarker marker) lexer.position.line, { lexer with trimNext := false }) := by
  rw [next_of_failed h.ne_nil (takePiece_of_leftOpen h _), moveTo, Nat.sub_self, List.take_zero]
  rfl

/-- What one call does: it finds the end, it takes a character at least, or it comes to a marker that nothing closes and
fails. -/
inductive Calls (lexer : Lexer) : Step × Lexer → Prop where
  | ended {moved : Lexer} (hrest : moved.rest = []) : Calls lexer (.ended, moved)
  | passed {step : Step} {moved : Lexer} (hshorter : moved.rest.length < lexer.rest.length) : Calls lexer (step, moved)
  | stuck {marker : String} {place : Lexer} (hopen : LeftOpen marker place.rest) :
      Calls lexer (.failed (.unterminatedMarker marker) place.position.line, { place with trimNext := false })

theorem next_calls (lexer : Lexer) : Calls lexer lexer.next := by
  induction hlength : lexer.rest.length using Nat.strong_induction_on generalizing lexer with
  | _ length ih =>
    by_cases hrest : lexer.rest = []
    · rw [next_of_nil hrest]
      exact .ended hrest
    · cases hpiece : takePiece lexer.trimNext lexer.rest with
      | failed fault rest trimNext =>
        obtain ⟨⟨marker, hopen⟩, -⟩ | hshorter := (takePiece_isUnreadable hpiece).leftOpen_or_shorter
        · rw [next_of_leftOpen hopen]
          exact .stuck hopen
        · rw [next_of_failed hrest hpiece]
          exact .passed hshorter
      | taken token? rest trimNext =>
        have hshorter := length_lt_of_taken hrest hpiece
        cases token? with
        | some token =>
          rw [next_of_token hrest hpiece]
          exact .passed hshorter
        | none =>
          rw [next_of_gap hrest hpiece]
          have hlater := ih rest.length (hlength ▸ hshorter) (lexer.moveTo rest trimNext) rfl
          generalize (lexer.moveTo rest trimNext).next = called at hlater
          cases hlater with
          | ended hended => exact .ended hended
          | passed hpassed => exact .passed (Nat.lt_trans hpassed hshorter)
          | stuck hopen => exact .stuck hopen

/-! ## One call after the other -/

/-- The lexer after a number of calls. -/
def called (lexer : Lexer) : (calls : Nat) → Lexer
  | 0 => lexer
  | calls + 1 => (lexer.called calls).next.2

/-- What a call gives, counted from zero. -/
def answer (lexer : Lexer) (call : Nat) : Step := (lexer.called call).next.1

/-- From a call on every call says that the source has ended. -/
def EndsFrom (lexer : Lexer) (call : Nat) : Prop := ∀ later, call ≤ later → lexer.answer later = .ended

/-- From a call on every call fails with the marker that nothing closes, in front of which the lexer stays. -/
def StuckFrom (lexer : Lexer) (call : Nat) : Prop :=
  ∃ marker place, LeftOpen marker place.rest ∧ ∀ later, call ≤ later →
    lexer.answer later = .failed (.unterminatedMarker marker) place.position.line ∧ lexer.called (later + 1) = place

theorem endsFrom_of_nil {call : Nat} (h : (lexer.called call).rest = []) : lexer.EndsFrom call := by
  have hstays (later : Nat) (hlater : call ≤ later) : (lexer.called later).rest = [] := by
    induction later, hlater using Nat.le_induction with
    | base => exact h
    | succ later _ ih => rw [called, next_of_nil ih, ih]
  intro later hlater
  rw [answer, next_of_nil (hstays later hlater)]

theorem stuckFrom_of_leftOpen {call : Nat} (h : LeftOpen marker (lexer.called call).rest) : lexer.StuckFrom call := by
  have hstays (later : Nat) (hlater : call ≤ later) :
      (lexer.called later).next = (.failed (.unterminatedMarker marker) (lexer.called call).position.line,
        { lexer.called call with trimNext := false }) := by
    induction later, hlater using Nat.le_induction with
    | base => exact next_of_leftOpen h
    | succ later _ ih =>
      have hstays : LeftOpen marker { lexer.called call with trimNext := false }.rest := h
      rw [called, ih]
      exact next_of_leftOpen hstays
  refine ⟨marker, { lexer.called call with trimNext := false }, h, fun later hlater ↦ ?_⟩
  rw [answer, called, hstays later hlater]
  exact ⟨rfl, rfl⟩

/-- After some calls the source has ended, the lexer is stuck, or as many characters are taken. -/
theorem called_cases (lexer : Lexer) (call : Nat) :
    lexer.EndsFrom call ∨ lexer.StuckFrom call ∨ (lexer.called call).rest.length + call ≤ lexer.rest.length := by
  induction call with
  | zero => exact .inr (.inr (Nat.le_refl _))
  | succ call ih =>
    obtain hended | ⟨marker, place, hopen, hstuck⟩ | htaken := ih
    · exact .inl fun later hlater ↦ hended later (Nat.le_of_succ_le hlater)
    · exact .inr (.inl ⟨marker, place, hopen, fun later hlater ↦ hstuck later (Nat.le_of_succ_le hlater)⟩)
    · have hcall := next_calls (lexer.called call)
      cases hnext : (lexer.called call).next with
      | mk step moved =>
        have hmoved : lexer.called (call + 1) = moved := by rw [called, hnext]
        rw [hnext] at hcall
        cases hcall with
        | ended hrest => exact .inl (endsFrom_of_nil (by rw [hmoved, hrest]))
        | passed hshorter =>
          refine .inr (.inr ?_)
          rw [hmoved]
          omega
        | stuck hopen => exact .inr (.inl (stuckFrom_of_leftOpen (by rw [hmoved]; exact hopen)))

theorem not_endsFrom_of_stuckFrom {one other : Nat} (hstuck : lexer.StuckFrom one) : ¬lexer.EndsFrom other := by
  intro hended
  obtain ⟨marker, place, -, hfails⟩ := hstuck
  have hone := (hfails (max one other) (Nat.le_max_left _ _)).1
  rw [hended (max one other) (Nat.le_max_right _ _)] at hone
  cases hone

/-- A source can be read to its end, also past what cannot be read, with at most one call more than it has bytes, exactly
if no call comes to an output or a tag that nothing closes; there the lexer stays for good. -/
theorem drains_iff (source : String) :
    ((start source).EndsFrom source.utf8ByteSize ↔
      ∀ call marker, ¬LeftOpen marker ((start source).called call).rest) ∧
    ((start source).EndsFrom source.utf8ByteSize ∨ (start source).StuckFrom source.utf8ByteSize) := by
  have hlength : (start source).rest.length ≤ source.utf8ByteSize := by
    rw [← Text.size_toList]
    exact Text.length_le_size source.toList
  have hcases : (start source).EndsFrom source.utf8ByteSize ∨ (start source).StuckFrom source.utf8ByteSize := by
    obtain hended | hstuck | htaken := called_cases (start source) source.utf8ByteSize
    · exact .inl hended
    · exact .inr hstuck
    · exact .inl (endsFrom_of_nil (List.length_eq_zero_iff.1 (by omega)))
  refine ⟨⟨fun hended call marker hopen ↦ ?_, fun hnever ↦ ?_⟩, hcases⟩
  · exact not_endsFrom_of_stuckFrom (stuckFrom_of_leftOpen hopen) hended
  · refine hcases.resolve_right ?_
    rintro ⟨marker, place, hopen, hstays⟩
    refine hnever (source.utf8ByteSize + 1) marker ?_
    rw [(hstays _ (Nat.le_refl _)).2]
    exact hopen

/-- Two braces are enough for a source that is never read to its end. -/
theorem two_braces_never_end : ¬∃ call, (start "\x7b\x7b").answer call = .ended := by
  rintro ⟨call, hended⟩
  have hopen : LeftOpen _ ((start "\x7b\x7b").called 0).rest := .output (by decide)
  obtain ⟨marker, place, -, hfails⟩ := stuckFrom_of_leftOpen hopen
  rw [(hfails call (Nat.zero_le _)).1] at hended
  cases hended

end Lexer

end Liquid
