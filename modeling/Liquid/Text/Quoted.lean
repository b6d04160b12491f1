import Liquid.Text.VisibleTable

/-!
# Quoted text

A text is shown in double quotes, a single character in single quotes. The quote, the backslash and the common
control characters have short escapes. Every other character that is not visible is shown by its code point.
-/

namespace Liquid.Text.Quoted

/-- Whether a character is shown as it is. -/
def isVisible (c : Char) : Bool :=
  if c.toNat < 0x7F then 0x20 ≤ c.toNat else inRanges VisibleTable.visibleRanges c

/-- The shown form of one character inside the given quote. -/
def showChar (quote : Char) (c : Char) : List Char :=
  if c == '\x00' then ['\\', '0']
  else if c == '\t' then ['\\', 't']
  else if c == '\r' then ['\\', 'r']
  else if c == '\n' then ['\\', 'n']
  else if c == '\\' then ['\\', '\\']
  else if c == quote then ['\\', quote]
  else if isVisible c then [c]
  else "\\u\x7b".toList ++ Nat.toDigits 16 c.toNat ++ ['\x7d']

/-- A text in double quotes. -/
def show_ (text : String) : String :=
  String.ofList ('"' :: text.toList.flatMap (showChar '"') ++ ['"'])

/-- A character in single quotes. -/
def showSingle (c : Char) : String :=
  String.ofList ('\'' :: showChar '\'' c ++ ['\''])

end Liquid.Text.Quoted
