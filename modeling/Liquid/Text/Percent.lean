import Liquid.Text.Search
import Liquid.Text.Utf8

/-!
# Percent encoding

In a query of an address letters, digits and four marks stand for themselves, and every other byte is written as a percent
sign with two hexadecimal digits; a space is then written as a plus sign.
-/

namespace Liquid.Text.Percent

/-- Whether a byte stands for itself. -/
def isPlain (byte : Nat) : Bool :=
  let c := Char.ofNat byte
  byte < 0x80 && (c.isAlphanum || c == '*' || c == '.' || c == '-' || c == '_')

/-- The hexadecimal digit of a number below sixteen. -/
def hexDigit (n : Nat) : Char :=
  if n < 10 then Char.ofNat (48 + n) else Char.ofNat (55 + n)

/-- The number that a hexadecimal digit stands for. -/
def hexValue? (byte : Nat) : Option Nat :=
  if 48 ≤ byte && byte ≤ 57 then some (byte - 48)
  else if 65 ≤ byte && byte ≤ 70 then some (byte - 55)
  else if 97 ≤ byte && byte ≤ 102 then some (byte - 87)
  else none

/-- A byte that stands for itself, or else its escape. -/
def escapeByte (byte : Nat) : List Char :=
  if isPlain byte then [Char.ofNat byte] else ['%', hexDigit (byte / 16), hexDigit (byte % 16)]

/-- A text with escapes in place of the bytes that do not stand for themselves. -/
def escape (text : List Char) : List Char := (Utf8.encode text).flatMap escapeByte

/-- The written form of a text. -/
def encode (text : List Char) : List Char := replace ['%', '2', '0'] ['+'] (escape text)

/-- The bytes that remain when escapes are replaced by what they stand for; a percent sign without two digits stands for
itself. -/
def unescape : List Nat → List Nat
  | 0x25 :: high :: low :: rest =>
    match hexValue? high, hexValue? low with
    | some h, some l => (h * 16 + l) :: unescape rest
    | _, _ => 0x25 :: unescape (high :: low :: rest)
  | byte :: rest => byte :: unescape rest
  | [] => []

/-- The text that a written form stands for. -/
def decode (text : List Char) : List Char := Utf8.decode (unescape (Utf8.encode (replace ['+'] [' '] text)))

end Liquid.Text.Percent
