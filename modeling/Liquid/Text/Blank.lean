/-!
# Blank characters

A character is blank if it has the property `White_Space`. Texts are trimmed at their ends and cut into words at
blanks. The narrower ASCII class is the one that separates the parts of a markup.
-/

namespace Liquid.Text

/-- Whether a character has the property `White_Space`. -/
def isBlank (c : Char) : Bool :=
  let code := c.toNat
  (9 ≤ code && code ≤ 13) || code == 0x20 || code == 0x85 || code == 0xA0 || code == 0x1680 ||
    (0x2000 ≤ code && code ≤ 0x200A) || code == 0x2028 || code == 0x2029 || code == 0x202F ||
    code == 0x205F || code == 0x3000

/-- Whether a character is a space, a tab, a line feed, a form feed or a carriage return. -/
def isAsciiBlank (c : Char) : Bool :=
  c == ' ' || c == '\t' || c == '\n' || c == '\x0c' || c == '\r'

/-- Drops the longest end of a text that consists of characters of the class. -/
def dropEndWhile (class_ : Char → Bool) (text : List Char) : List Char :=
  (text.reverse.dropWhile class_).reverse

/-- The longest end of a text that consists of characters of the class. -/
def takeEndWhile (class_ : Char → Bool) (text : List Char) : List Char :=
  (text.reverse.takeWhile class_).reverse

/-- Drops the blanks in front of a text. -/
def trimStart (text : List Char) : List Char := text.dropWhile isBlank

/-- Drops the blanks behind a text. -/
def trimEnd (text : List Char) : List Char := dropEndWhile isBlank text

/-- Drops the blanks on both sides of a text. -/
def trim (text : List Char) : List Char := trimEnd (trimStart text)

/-- The text without its trailing class characters, followed by them, is the text. -/
theorem dropEndWhile_append_takeEndWhile (class_ : Char → Bool) (text : List Char) :
    dropEndWhile class_ text ++ takeEndWhile class_ text = text := by
  unfold dropEndWhile takeEndWhile
  rw [← List.reverse_append, List.takeWhile_append_dropWhile, List.reverse_reverse]

theorem length_dropWhile_lt_cons (class_ : Char → Bool) (c : Char) (rest : List Char) :
    (rest.dropWhile class_).length < (c :: rest).length :=
  Nat.lt_succ_of_le (List.dropWhile_suffix class_).length_le

/-- The words of a text: its maximal runs of characters that are not blank. -/
def words (text : List Char) : List (List Char) :=
  match text with
  | [] => []
  | c :: rest =>
    if isBlank c then words rest
    else (c :: rest.takeWhile (!isBlank ·)) :: words (rest.dropWhile (!isBlank ·))
termination_by text.length
decreasing_by
  · exact Nat.lt_succ_self _
  · exact length_dropWhile_lt_cons _ c rest

end Liquid.Text
