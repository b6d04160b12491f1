/-!
# Output with captures

Text is written into the innermost open capture, or into the page if no capture is open. Ending a capture takes the text
written into it away. Captures that are never ended stay a part of the page.
-/

namespace Liquid

/-- The text of the innermost open capture and the texts around it, the nearest one first. -/
structure Output where
  top : String
  below : List String
deriving Repr, DecidableEq

namespace Output

/-- An output without text. -/
def empty : Output := ⟨"", []⟩

/-- Writes text. -/
def write (output : Output) (text : String) : Output := { output with top := output.top ++ text }

/-- Writes a character. -/
def writeChar (output : Output) (c : Char) : Output := { output with top := output.top.push c }

/-- Begins a capture. -/
def beginCapture (output : Output) : Output := ⟨"", output.top :: output.below⟩

/-- Ends the innermost capture and gives its text; without an open capture nothing happens. -/
def endCapture (output : Output) : String × Output :=
  match output.below with
  | [] => ("", output)
  | below :: rest => (output.top, ⟨below, rest⟩)

/-- The number of open captures. -/
def depth (output : Output) : Nat := output.below.length

/-- All text, captures that were never ended included. -/
def text (output : Output) : String := String.join output.below.reverse ++ output.top

@[simp] theorem depth_write (output : Output) (text : String) : (output.write text).depth = output.depth := rfl

@[simp] theorem depth_beginCapture (output : Output) : output.beginCapture.depth = output.depth + 1 := rfl

theorem write_empty (output : Output) : output.write "" = output := by rw [write, String.append_empty]

theorem write_write (output : Output) (text more : String) :
    (output.write text).write more = output.write (text ++ more) := by
  simp only [write, String.append_assoc]

theorem writeChar_eq (output : Output) (c : Char) : output.writeChar c = output.write (String.singleton c) := by
  rw [writeChar, write, String.push_eq_append]

theorem write_inj {output : Output} {text other : String} (h : output.write text = output.write other) : text = other :=
  (String.append_right_inj output.top).1 (congrArg Output.top h)

/-- What is written into a capture is what ending it gives, and the output is as before. -/
@[simp] theorem endCapture_write_beginCapture (output : Output) (text : String) :
    (output.beginCapture.write text).endCapture = (text, output) := by
  simp [beginCapture, write, endCapture]

end Output

end Liquid
