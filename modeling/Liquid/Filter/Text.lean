import Liquid.Settings
import Liquid.Text.Blank
import Liquid.Text.Case
import Liquid.Text.Search
import Liquid.Value.Basic

/-!
# Filters on texts

What the filters on texts compute. Texts are lists of characters here; lengths count characters.
-/

namespace Liquid.Filter

open Text

/-- The first character in upper case. -/
def upperFirst : List Char → List Char
  | [] => []
  | c :: rest => upperOf c ++ rest

/-- The first character of each word in upper case. -/
def upperWords (atStart : Bool) : List Char → List Char
  | [] => []
  | c :: rest =>
    (if atStart && !isBlank c then upperOf c else [c]) ++ upperWords (isBlank c) rest

/-- Capitalizes the words of a text, or from a level on its first character behind leading blanks, which are
dropped. -/
def capitalize (level : SyntaxLevel) (text : List Char) : List Char :=
  if level.includes .liquid21 then upperFirst (trimStart text) else upperWords true text

/-- Replaces all occurrences of a pattern; an empty pattern does not occur. -/
def replaceAll (pattern replacement text : List Char) : List Char :=
  if pattern.isEmpty then text else replace pattern replacement text

/-- Replaces the first occurrence of a pattern; an empty pattern does not occur. -/
def replaceOnce (pattern replacement text : List Char) : List Char :=
  if pattern.isEmpty then text else replaceFirst pattern replacement text

/-- A text of at most the given length: a longer one is cut so that the ellipsis fits. -/
def truncate (length : Nat) (ellipsis text : List Char) : List Char :=
  if text.length ≤ length then text else text.take (length - ellipsis.length) ++ ellipsis

/-- The first words of a text and an ellipsis, if the text has more words than that. -/
def truncateWords (count : Nat) (ellipsis text : List Char) : List Char :=
  let pieces := words text
  if pieces.length ≤ count then text else [' '].intercalate (pieces.take count) ++ ellipsis

/-- The pieces of the rest of a text. What stands between the last piece and the rest is pending: a word that has begun, or
blanks. A blank ends the word, a word drops the blanks in front of it, and what is pending at the end is a piece. -/
def searchWords (inWord : Bool) (pending : List Char) : List Char → List (List Char)
  | [] => if pending.isEmpty then [] else [pending]
  | c :: rest =>
    if isBlank c then
      if inWord then pending :: searchWords false [c] rest else searchWords false (pending ++ [c]) rest
    else if inWord then searchWords true (pending ++ [c]) rest
    else searchWords true [c] rest

/-- The pieces of a text between blanks. -/
def splitWords (text : List Char) : List (List Char) := searchWords false [] text

/-- The pieces between the occurrences of a separator, empty ones at the end dropped. -/
def splitAt (separator text : List Char) : List (List Char) :=
  ((splitOn separator text).reverse.dropWhile List.isEmpty).reverse

/-- The pieces of a text: its words for a space, its characters for no separator at all. -/
def split (separator text : List Char) : List (List Char) :=
  if separator == [' '] then splitWords text
  else if separator.isEmpty then text.map fun c ↦ [c]
  else splitAt separator text

/-- Line breaks with a tag in front of them. -/
def newlineToBreak (text : List Char) : List Char :=
  replace ['\n'] "<br />\n".toList (replace ['\r', '\n'] ['\n'] text)

/-- A text without line breaks. -/
def stripNewlines (text : List Char) : List Char := text.filter fun c ↦ c != '\r' && c != '\n'

/-- At most `length` elements from a place on, which is counted from the end if it is negative. -/
def slice? {α : Type} (start length : Int) (items : List α) : Option (List α) :=
  let start := if start < 0 then items.length + start else start
  if start < 0 ∨ (items.length : Int) < start ∨ length < 0 then none
  else some ((items.drop start.toNat).take length.toNat)

end Liquid.Filter
