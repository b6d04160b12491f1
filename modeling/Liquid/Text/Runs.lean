/-!
# Runs of code points

Properties of characters are given as lists of ranges and runs of code points. A range holds every code
point between its ends, a run only those at a multiple of its step from the first one.
-/

namespace Liquid.Text

/-- The first and the last code point of a range. -/
abbrev Range := Nat × Nat

/-- The first code point, the last one and the step between neighbours. -/
abbrev Run := Nat × Nat × Nat

/-- A run together with the distance from each of its characters to the mapped character. -/
abbrev ShiftRun := Nat × Nat × Nat × Int

/-- Whether a code point lies in a range. -/
def Range.holds (range : Range) (code : Nat) : Bool :=
  range.1 ≤ code && code ≤ range.2

/-- Whether a code point belongs to a run. -/
def Run.holds (run : Run) (code : Nat) : Bool :=
  run.1 ≤ code && code ≤ run.2.1 && (code - run.1) % run.2.2 == 0

/-- Whether a character lies in one of the ranges. -/
def inRanges (ranges : List Range) (c : Char) : Bool :=
  ranges.any fun range ↦ range.holds c.toNat

/-- Whether a character belongs to one of the runs. -/
def inRuns (runs : List Run) (c : Char) : Bool :=
  runs.any fun run ↦ run.holds c.toNat

/-- The character that a table of shifted runs maps a character to, if it is in the table. -/
def shiftedBy? (runs : List ShiftRun) (c : Char) : Option Char :=
  match runs.find? fun run ↦ Run.holds (run.1, run.2.1, run.2.2.1) c.toNat with
  | some run => some (Char.ofNat (Int.toNat (c.toNat + run.2.2.2)))
  | none => none

end Liquid.Text
