import Liquid.Decimal.Reading
import Liquid.Error
import Liquid.Text.Blank
import Liquid.Value.Text

/-!
# Lexemes of markup

Markup is cut into identifiers, texts in quotes, numbers, comparison signs and punctuation. Each lexeme knows where it
starts and where it stops in the markup, counted in characters, so that the source text of a part can be quoted.
-/

namespace Liquid

/-- A smallest part of markup. -/
inductive Lexeme where
  | ident (name : String)
  | text (content : String)
  | int (value : Int64)
  | float (value : Float)
  | dot
  | dots
  | openBracket
  | closeBracket
  | openParen
  | closeParen
  | pipe
  | colon
  | comma
  | sign (marks : String)

/-- A lexeme together with its place in the markup. -/
structure PlacedLexeme where
  lexeme : Lexeme
  start : Nat
  stop : Nat

namespace Lexeme

/-- A lexeme as messages show it. -/
def shown : Lexeme → String
  | ident name => name
  | text content => Text.Quoted.show_ content
  | int value => toString value.toInt
  | float value => plainFloat.write value
  | dot => "."
  | dots => ".."
  | openBracket => "["
  | closeBracket => "]"
  | openParen => "("
  | closeParen => ")"
  | pipe => "|"
  | colon => ":"
  | comma => ","
  | sign marks => marks

/-- Whether an identifier may start with a character. -/
def startsIdent (c : Char) : Bool := c.isAlpha || c == '_'

/-- Whether an identifier may continue with a character. -/
def continuesIdent (c : Char) : Bool := c.isAlphanum || c == '_' || c == '-'

/-- Whether a character is part of a comparison sign. -/
def isSign (c : Char) : Bool := c == '=' || c == '!' || c == '<' || c == '>'

/-- The fraction of a number: a point with at least one digit behind it. -/
def takeFraction : List Char → List Char
  | '.' :: rest =>
    let digits := rest.takeWhile Char.isDigit
    if digits.isEmpty then [] else '.' :: digits
  | _ => []

/-- The text of the number at the start of a markup. -/
def takeNumber? (markup : List Char) : Option (List Char) :=
  let (minus, rest) := match markup with
    | '-' :: rest => (['-'], rest)
    | _ => ([], markup)
  let whole := rest.takeWhile Char.isDigit
  if whole.isEmpty then none
  else some (minus ++ whole ++ takeFraction (rest.dropWhile Char.isDigit))

/-- The number that its text writes: an integer that does not fit is read as a float. -/
def ofNumber (number : List Char) : Lexeme :=
  let asFloat := float ((Decimal.float? number).getD 0)
  if number.contains '.' then asFloat
  else
    match (Decimal.integer? number).bind integer? with
    | some value => int value
    | none => asFloat

/-- The identifier at the start of a markup, with a question mark if one follows. -/
def takeIdent (markup : List Char) : List Char :=
  let name := markup.takeWhile continuesIdent
  match markup.dropWhile continuesIdent with
  | '?' :: _ => name ++ ['?']
  | _ => name

/-- The lexeme that starts with a character, and how many of the characters behind it belong to it. -/
def scanOne (source : String) (c : Char) (rest : List Char) : Except Fault (Lexeme × Nat) :=
  if c == '\'' || c == '"' then
    let content := rest.takeWhile (· != c)
    if content.length < rest.length then .ok (text (String.ofList content), content.length + 1)
    else .error (.unterminatedString source)
  else if c == '.' then
    match rest with
    | '.' :: _ => .ok (dots, 1)
    | _ => .ok (dot, 0)
  else if c == '[' then .ok (openBracket, 0)
  else if c == ']' then .ok (closeBracket, 0)
  else if c == '(' then .ok (openParen, 0)
  else if c == ')' then .ok (closeParen, 0)
  else if c == '|' then .ok (pipe, 0)
  else if c == ':' then .ok (colon, 0)
  else if c == ',' then .ok (comma, 0)
  else if isSign c then
    let more := rest.takeWhile isSign
    .ok (sign (String.ofList (c :: more)), more.length)
  else if c == '-' || c.isDigit then
    match takeNumber? (c :: rest) with
    | some number => .ok (ofNumber number, number.length - 1)
    | none => .error (.unexpectedCharacter c source)
  else if startsIdent c then
    let name := takeIdent (c :: rest)
    .ok (ident (String.ofList name), name.length - 1)
  else .error (.unexpectedCharacter c source)

/-- The lexemes of the rest of a markup that starts at the given place. -/
def scanFrom (source : String) (place : Nat) (markup : List Char) : Except Fault (List PlacedLexeme) :=
  match markup with
  | [] => .ok []
  | c :: rest =>
    if Text.isAsciiBlank c then scanFrom source (place + 1) rest
    else
      match scanOne source c rest with
      | .error fault => .error fault
      | .ok (lexeme, more) =>
        match scanFrom source (place + 1 + more) (rest.drop more) with
        | .error fault => .error fault
        | .ok others => .ok (⟨lexeme, place, place + 1 + more⟩ :: others)
termination_by markup.length
decreasing_by
  · exact Nat.lt_succ_self _
  · exact Nat.lt_succ_of_le (List.drop_suffix more rest).length_le

/-- The lexemes of a markup. -/
def scan (source : String) : Except Fault (List PlacedLexeme) := scanFrom source 0 source.toList

end Lexeme

end Liquid
