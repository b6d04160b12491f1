/-!
# Decoding bytes as UTF-8

Bytes are decoded without failing: each longest beginning of a character that the next byte does not continue, and
each byte that begins no character, becomes one replacement character.
-/

namespace Liquid.Text.Utf8

/-- The character that stands for bytes that are no text. -/
def replacement : Char := '\ufffd'

/-- What may follow a first byte: the bounds of the second byte and the number of bytes. -/
def followers (first : Nat) : Option (Nat × Nat × Nat) :=
  if 0xC2 ≤ first && first ≤ 0xDF then some (0x80, 0xBF, 1)
  else if first == 0xE0 then some (0xA0, 0xBF, 2)
  else if first == 0xED then some (0x80, 0x9F, 2)
  else if 0xE1 ≤ first && first ≤ 0xEF then some (0x80, 0xBF, 2)
  else if first == 0xF0 then some (0x90, 0xBF, 3)
  else if 0xF1 ≤ first && first ≤ 0xF3 then some (0x80, 0xBF, 3)
  else if first == 0xF4 then some (0x80, 0x8F, 3)
  else none

/-- The bytes that continue a character: at most `count`, the first of them within the bounds. -/
def continuation (low high : Nat) : (count : Nat) → List Nat → List Nat
  | 0, _ => []
  | _ + 1, [] => []
  | count + 1, byte :: rest =>
    if low ≤ byte && byte ≤ high then byte :: continuation 0x80 0xBF count rest else []

/-- The first character that bytes show, and how many bytes behind the first it takes. -/
def firstChar (first : Nat) (rest : List Nat) : Char × Nat :=
  if first < 0x80 then (Char.ofNat first, 0)
  else
    match followers first with
    | none => (replacement, 0)
    | some (low, high, count) =>
      let more := continuation low high count rest
      if more.length == count then
        let lead := first % Nat.pow 2 (6 - count)
        (Char.ofNat (more.foldl (fun code byte ↦ code * 64 + byte % 64) lead), count)
      else (replacement, more.length)

/-- The text that bytes show. -/
def decode (bytes : List Nat) : List Char :=
  match bytes with
  | [] => []
  | first :: rest =>
    let (c, taken) := firstChar first rest
    c :: decode (rest.drop taken)
termination_by bytes.length
decreasing_by
  exact Nat.lt_succ_of_le (List.drop_suffix taken rest).length_le

/-- The bytes of a text. -/
def encode (text : List Char) : List Nat :=
  (String.ofList text).toUTF8.toList.map UInt8.toNat

end Liquid.Text.Utf8
