import Liquid.Context.Registers
import Liquid.Settings
import Liquid.Value.Access
import Liquid.Value.Number
import Liquid.Value.Text
import Liquid.Naming

/-!
# Contexts

The context of a render holds its variables in scopes, the variables that templates assign, the variables of the host, and
the settings of the render. Assigned variables outlive scopes, and scopes hide them.
-/

namespace Liquid

/-- Formats some values in place of their texts. -/
structure FormatProvider where
  number? : Number → Option String
  moment? : Calendar.Moment → Option String

/-- The innermost scope and the scopes around it, the nearest one first. -/
structure Scopes where
  top : Entries String Value
  below : List (Entries String Value)

namespace Scopes

/-- One scope without variables. -/
def empty : Scopes := ⟨[], []⟩

/-- All scopes, the innermost one first. -/
def toList (scopes : Scopes) : List (Entries String Value) := scopes.top :: scopes.below

/-- The number of scopes. -/
def depth (scopes : Scopes) : Nat := scopes.below.length + 1

/-- The value of a name in the innermost scope that has it. -/
def find? (scopes : Scopes) (name : String) : Option Value := scopes.toList.findSome? (Entries.find? name)

/-- Opens a scope. -/
def push (scopes : Scopes) (frame : Entries String Value) : Scopes := ⟨frame, scopes.top :: scopes.below⟩

/-- Closes the innermost scope; the outermost one stays. -/
def pop? (scopes : Scopes) : Option (Entries String Value × Scopes) :=
  match scopes.below with
  | [] => none
  | below :: rest => some (scopes.top, ⟨below, rest⟩)

/-- Gives a name a value in the innermost scope. -/
def set (scopes : Scopes) (name : String) (value : Value) : Scopes :=
  { scopes with top := scopes.top.put name value }

@[simp] theorem pop?_push (scopes : Scopes) (frame : Entries String Value) :
    (scopes.push frame).pop? = some (frame, scopes) := rfl

@[simp] theorem depth_push (scopes : Scopes) (frame : Entries String Value) :
    (scopes.push frame).depth = scopes.depth + 1 := rfl

@[simp] theorem depth_set (scopes : Scopes) (name : String) (value : Value) :
    (scopes.set name value).depth = scopes.depth := rfl

end Scopes

/-- The state of a render beside its output. -/
structure Context where
  /-- The name of the template that is rendered. -/
  name : String
  scopes : Scopes
  /-- The variables that templates assign. -/
  assigned : Entries String Value
  /-- What the render is given; its members are variables. -/
  inputs : Value
  globals : Entries String Value
  registers : Registers
  naming : NamingConvention
  level : SyntaxLevel
  errorMode : ErrorMode
  strict : Bool
  disabled : List String
  format : Option FormatProvider
  /-- The number of active includes. -/
  depth : Nat
  maxDepth : Nat
  /-- The number of active loops. -/
  loops : Nat
  /-- The errors that did not end the render, the last one first. -/
  recorded : List Error
  /-- The errors that nodes handed to the error mode, the last one first. -/
  reported : List Error

namespace Context

/-- The recorded errors in their order. -/
def diagnostics (context : Context) : List Error := context.recorded.reverse

/-- Records an error. -/
def record (context : Context) (error : Error) : Context :=
  { context with recorded := error :: context.recorded }

/-- Notes that an error has been handed to the error mode. -/
def noteReported (context : Context) (error : Error) : Context :=
  { context with reported := error :: context.reported }

/-- Opens a scope. -/
def push (context : Context) (frame : Entries String Value) : Context :=
  { context with scopes := context.scopes.push frame }

/-- Closes the innermost scope. -/
def pop (context : Context) : Except Fault (Entries String Value × Context) :=
  match context.scopes.pop? with
  | some (frame, scopes) => .ok (frame, { context with scopes := scopes })
  | none => .error .unmatchedPop

/-- Gives a name a value in the innermost scope. -/
def set (context : Context) (name : String) (value : Value) : Context :=
  { context with scopes := context.scopes.set name value }

/-- Puts variables into the innermost scope. -/
def merge (context : Context) (values : Entries String Value) : Context :=
  { context with scopes := { context.scopes with top := context.scopes.top.putAll values } }

/-- Assigns a variable. -/
def assign (context : Context) (name : String) (value : Value) : Context :=
  { context with assigned := context.assigned.put name value }

/-- Disables tags. -/
def disableTags (context : Context) (tags : List String) : Context :=
  { context with disabled := context.disabled ++ tags }

/-- Enables a tag. -/
def enableTag (context : Context) (tag : String) : Context :=
  { context with disabled := context.disabled.filter (· != tag) }

/-- Whether a tag is disabled. -/
def isDisabled (context : Context) (tag : String) : Bool := context.disabled.contains tag

/-- Sets a register. -/
def setRegister (context : Context) (key : String) (register : Register) : Context :=
  { context with registers := context.registers.put key register }

/-- Enters an include, unless as many are active as are allowed. -/
def enter (context : Context) : Except Fault Context :=
  if context.depth ≥ context.maxDepth then .error (.tooDeep context.maxDepth)
  else .ok { context with depth := context.depth + 1 }

/-- Leaves an include. -/
def leave (context : Context) : Context := { context with depth := context.depth - 1 }

/-- Enters a loop. -/
def enterLoop (context : Context) : Context := { context with loops := context.loops + 1 }

/-- Leaves a loop. -/
def leaveLoop (context : Context) : Context := { context with loops := context.loops - 1 }

/-- The text of a value in the output: that of the format provider, or else its own. -/
def formatValue (context : Context) (tallies : Tallies) (value : Value) : String :=
  let formatted? :=
    match context.format, value with
    | some provider, .int i => provider.number? (.int i)
    | some provider, .float x => provider.number? (.float x)
    | some provider, .moment instant => provider.moment? instant
    | _, _ => none
  formatted?.getD (value.text tallies)

end Context

end Liquid
