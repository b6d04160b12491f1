import Liquid.Proofs.Token.Lookahead

/-!
# The markup of tokens

The markup of an output or a tag is what its delimiters enclose, without hyphens, blanks and the name of the tag. So
it is shorter than the source.
-/

namespace Liquid

/-- The markup of a token, unless the token is text. -/
def Token.markup? : Token → Option String
  | .data _ | .raw _ => none
  | .output content _ _ => some content
  | .tag _ markup _ _ => some markup

namespace Lexer

variable {text rest : List Char} {token : Token} {markup : String} {trimFirst trimNext : Bool}

theorem length_dropHyphen_le (text : List Char) : (dropHyphen text).2.length ≤ text.length := by
  unfold dropHyphen
  split
  · exact Nat.le_succ _
  · exact Nat.le_refl _

theorem length_dropLastHyphen_le (text : List Char) : (dropLastHyphen text).2.length ≤ text.length := by
  unfold dropLastHyphen
  split
  · next behind heq =>
    rw [← text.length_reverse, heq, List.length_reverse]
    exact Nat.le_succ _
  · exact Nat.le_refl _

theorem length_trim_le (text : List Char) : (Text.trim text).length ≤ text.length := by
  rw [Text.trim, Text.trimEnd, Text.dropEndWhile, List.length_reverse]
  refine (List.dropWhile_suffix _).length_le.trans ?_
  rw [List.length_reverse]
  exact (List.dropWhile_suffix _).length_le

theorem length_markup_le_of_takeTag {inner : List Char} {trimLeft trimRight : Bool}
    (h : takeTag inner text trimLeft trimRight = .taken (some token) rest trimNext)
    (hmarkup : token.markup? = some markup) : markup.length ≤ inner.length := by
  rw [takeTag] at h
  dsimp only at h
  split at h
  · cases h
  · split at h
    · rw [takeRaw] at h
      dsimp only at h
      split at h
      · obtain rfl := Option.some.inj (Piece.taken.inj h).1
        cases hmarkup
      · cases h
    · obtain rfl := Option.some.inj (Piece.taken.inj h).1
      obtain rfl := Option.some.inj hmarkup
      rw [String.length_ofList]
      refine (length_trim_le _).trans ?_
      rw [List.length_drop]
      exact Nat.sub_le _ _

/-- The inside of a marker is shorter than the marker with its delimiters, and trimming makes it no longer. -/
theorem length_inside_lt {delimiter inside : List Char} (hdelimiter : delimiter ≠ [])
    (hended : breakClosing delimiter (text.drop 2) = some (inside, rest)) :
    (Text.trim (dropLastHyphen (dropHyphen inside).2).2).length < text.length := by
  have hshape := congrArg List.length (eq_append_of_breakClosing hended)
  have hpositive := List.length_pos_iff.2 hdelimiter
  have hinside := (length_trim_le _).trans ((length_dropLastHyphen_le _).trans (length_dropHyphen_le inside))
  simp only [List.length_drop, List.length_append] at hshape
  omega

/-- The markup of a token is shorter than the text that the token is taken from. -/
theorem length_markup_lt (h : takePiece trimFirst text = .taken (some token) rest trimNext)
    (hmarkup : token.markup? = some markup) : markup.length < text.length := by
  rw [takePiece] at h
  cases hmarker : Marker.at? text with
  | none =>
    rw [hmarker] at h
    cases token with
    | data | raw => cases hmarkup
    | output | tag => exact (not_isMarked_of_takeData h trivial).elim
  | some marker =>
    rw [hmarker] at h
    cases marker with
    | comment => cases eq_none_of_comment h
    | literal =>
      obtain ⟨content, htoken⟩ := exists_raw_of_literal h
      obtain rfl := Option.some.inj htoken
      cases hmarkup
    | output =>
      dsimp only [takeMarker] at h
      split at h
      · next hended =>
        obtain rfl := Option.some.inj (Piece.taken.inj h).1
        obtain rfl := Option.some.inj hmarkup
        rw [String.length_ofList]
        exact length_inside_lt (List.cons_ne_nil _ _) hended
      · cases h
    | tag =>
      dsimp only [takeMarker] at h
      split at h
      · next hended =>
        exact (length_markup_le_of_takeTag h hmarkup).trans_lt (length_inside_lt (List.cons_ne_nil _ _) hended)
      · cases h

end Lexer

/-- Tokens have shorter markups than the source that they are taken from. -/
theorem TokenStream.Takes.length_markup_lt {lexer final : Lexer} {tokens : List PlacedToken}
    (h : TokenStream.Takes lexer tokens final) {placed : PlacedToken} (hplaced : placed ∈ tokens) {markup : String}
    (hmarkup : placed.token.markup? = some markup) : markup.length < lexer.rest.length := by
  induction h with
  | here => cases hplaced
  | gap hrest hpiece _ ih => exact (ih hplaced).trans (Lexer.length_lt_of_taken hrest hpiece)
  | token hrest hpiece _ ih =>
    obtain rfl | hplaced := List.mem_cons.1 hplaced
    · exact Lexer.length_markup_lt hpiece hmarkup
    · exact (ih hplaced).trans (Lexer.length_lt_of_taken hrest hpiece)

end Liquid
