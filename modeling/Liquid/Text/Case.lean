import Liquid.Text.CaseTable

/-!
# Letter case

Upper and lower case forms of characters and texts, beyond the basic Latin letters as well. A form may be longer
than the character. In lower case a capital sigma takes its final form at the end of a word.
-/

namespace Liquid.Text

/-- The uppercase form of a character. -/
def upperOf (c : Char) : List Char :=
  match CaseTable.upperExpansions.find? (·.1 == c.toNat) with
  | some (_, codes) => codes.map Char.ofNat
  | none => [(shiftedBy? CaseTable.upperRuns c).getD c]

/-- The lowercase form of a character that does not look at its neighbours. -/
def lowerOf (c : Char) : List Char :=
  match CaseTable.lowerExpansions.find? (·.1 == c.toNat) with
  | some (_, codes) => codes.map Char.ofNat
  | none => [(shiftedBy? CaseTable.lowerRuns c).getD c]

/-- Whether a character has the property `Uppercase`. -/
def isUppercase (c : Char) : Bool := inRuns CaseTable.uppercaseRuns c

/-- Whether a character has the property `Lowercase`. -/
def isLowercase (c : Char) : Bool := inRuns CaseTable.lowercaseRuns c

/-- The uppercase form of a text. -/
def upper (text : List Char) : List Char := text.flatMap upperOf

/-- Whether the first character that case mapping does not ignore is cased. -/
def startsCased (text : List Char) : Bool :=
  match text.dropWhile (inRanges CaseTable.ignorableRanges) with
  | c :: _ => inRanges CaseTable.casedRanges c
  | [] => false

/-- The capital letter sigma. -/
def capitalSigma : Char := '\u03a3'

/-- The small letter sigma at the end of a word. -/
def finalSigma : Char := '\u03c2'

/-- The lowercase form of a text whose preceding characters are given nearest first. -/
def lowerAfter (before : List Char) : List Char → List Char
  | [] => []
  | c :: rest =>
    if c == capitalSigma && startsCased before && !startsCased rest then
      finalSigma :: lowerAfter (c :: before) rest
    else
      lowerOf c ++ lowerAfter (c :: before) rest

/-- The lowercase form of a text. -/
def lower (text : List Char) : List Char := lowerAfter [] text

/-- The lowercase form of a text whose letters outside ASCII stay as they are. -/
def asciiLower (text : List Char) : List Char := text.map Char.toLower

end Liquid.Text
