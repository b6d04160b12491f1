import Liquid.Source
import Liquid.Value.Basic

/-!
# Registers

Registers keep what a render has to remember beside its variables: the places where loops and cycles have come, the text
that was last seen unchanged, and what the host puts there.
-/

namespace Liquid

/-- What a register holds. -/
inductive Register where
  | text (content : String)
  | integer (value : Int64)
  /-- Places by name. -/
  | places (places : Entries String Nat)
  | source (source : Source)

/-- What registers hold, by key. -/
abbrev Registers := Entries String Register

namespace Registers

/-- The text in a register. -/
def text? (registers : Registers) (key : String) : Option String :=
  match Entries.find? key registers with
  | some (.text content) => some content
  | _ => none

/-- The integer in a register. -/
def integer? (registers : Registers) (key : String) : Option Int64 :=
  match Entries.find? key registers with
  | some (.integer value) => some value
  | _ => none

/-- The places in a register, none at first. -/
def places (registers : Registers) (key : String) : Entries String Nat :=
  match Entries.find? key registers with
  | some (.places places) => places
  | _ => []

/-- The source in a register. -/
def source? (registers : Registers) (key : String) : Option Source :=
  match Entries.find? key registers with
  | some (.source source) => some source
  | _ => none

/-- The text in a register, taken out of it. -/
def takeText (registers : Registers) (key : String) : Option String × Registers :=
  match registers.text? key with
  | some content => (some content, registers.erase key)
  | none => (none, registers)

/-- The integer in a register, taken out of it. -/
def takeInteger (registers : Registers) (key : String) : Option Int64 × Registers :=
  match registers.integer? key with
  | some value => (some value, registers.erase key)
  | none => (none, registers)

/-- Counts a register with an integer up and gives the new integer. -/
def increment (registers : Registers) (key : String) : Option Int64 × Registers :=
  match registers.integer? key with
  | some value => (some (value + 1), registers.put key (.integer (value + 1)))
  | none => (none, registers)

/-- The key of the places of cycles. -/
def cycleKey : String := "cycle"

/-- The key of the places of loops. -/
def loopKey : String := "for"

/-- The key of the last text of a change detection. -/
def changeKey : String := "ifchanged"

/-- The key of the source that a render uses in place of the source of its environment. -/
def sourceKey : String := "file_system"

end Registers

end Liquid
