import Liquid.Text.Blank
import Liquid.Token.Basic

/-!
# Positions of texts

The lexer counts lines, columns and offsets character by character. What it has counted behind a text is what the text
itself says: its line feeds, the characters behind the last of them, and its size in bytes.
-/

namespace Liquid.Position

/-- The place behind a text at the start of a source. Lines are counted by line feeds, columns in characters and offsets in
bytes. -/
def behind (text : List Char) : Position where
  line := text.count '\n' + 1
  column := (Text.takeEndWhile (· != '\n') text).length
  offset := (String.ofList text).utf8ByteSize

theorem takeEndWhile_concat (class_ : Char → Bool) (text : List Char) (c : Char) :
    Text.takeEndWhile class_ (text ++ [c]) = if class_ c then Text.takeEndWhile class_ text ++ [c] else [] := by
  unfold Text.takeEndWhile
  rw [List.reverse_concat, List.takeWhile_cons]
  split
  · rw [List.reverse_cons]
  · rfl

/-- One character more moves the place on by that character. -/
theorem behind_concat (text : List Char) (c : Char) : behind (text ++ [c]) = (behind text).next c := by
  have hoffset : (String.ofList (text ++ [c])).utf8ByteSize = (String.ofList text).utf8ByteSize + c.utf8Size := by
    rw [String.ofList_append, String.utf8ByteSize_append, ← String.singleton_eq_ofList, String.utf8ByteSize_singleton]
  rw [next, behind, behind, hoffset, takeEndWhile_concat, List.count_append]
  by_cases hbreak : c = '\n'
  · simp [hbreak]
  · simp [hbreak]

/-- Counting on from the place behind a text leads behind the longer text. -/
theorem after_behind (before text : List Char) : (behind before).after text = behind (before ++ text) := by
  induction text generalizing before with
  | nil => rw [after_nil, List.append_nil]
  | cons c rest ih =>
    have hnext : (behind before).after (c :: rest) = ((behind before).next c).after rest := rfl
    rw [hnext, ← behind_concat, ih, List.append_assoc]
    rfl

theorem offset_behind_append (before text : List Char) :
    (behind (before ++ text)).offset = (behind before).offset + (behind text).offset := by
  rw [behind, behind, behind, String.ofList_append, String.utf8ByteSize_append]

end Liquid.Position
