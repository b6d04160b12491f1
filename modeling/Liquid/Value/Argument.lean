import Liquid.Value.Access
import Liquid.Value.Number
import Liquid.Value.Text

/-!
# Arguments

A host function states what it takes by a list of parameters. Values are converted to the types of the parameters from left
to right: numbers may be given as texts, a missing option stands for nothing, and a last parameter may take all values
that are left. Values that no parameter takes are refused.
-/

namespace Liquid

/-- The integers between two bounds, under the name that messages use. -/
structure IntegerKind where
  title : String
  low : Int
  high : Int
deriving Repr, DecidableEq

namespace IntegerKind

/-- Signed integers of 32 bits. -/
def signed32 : IntegerKind := ⟨"i32", -2147483648, 2147483647⟩

/-- Signed integers of 64 bits. -/
def signed64 : IntegerKind := ⟨"i64", minInteger, maxInteger⟩

/-- Natural numbers of 32 bits. -/
def natural32 : IntegerKind := ⟨"u32", 0, 4294967295⟩

/-- Natural numbers of 64 bits. -/
def natural64 : IntegerKind := ⟨"u64", 0, maxCount⟩

/-- Counts. -/
def count : IntegerKind := ⟨"usize", 0, maxCount⟩

end IntegerKind

/-- What a value is converted to. -/
inductive ArgumentKind where
  | integer (bounds : IntegerKind)
  | float
  | bool
  /-- A text; other values are refused. -/
  | text
  /-- The printed text of any value. -/
  | printed
  | value
  | list (item : ArgumentKind)
  /-- Nothing, or what the given kind takes. -/
  | option (kind : ArgumentKind)
deriving Repr, DecidableEq

namespace ArgumentKind

/-- The type of converted values. -/
@[reducible] def type : ArgumentKind → Type
  | integer _ => Int
  | float => Float
  | bool => Bool
  | text | printed => String
  | value => Value
  | list item => List item.type
  | option kind => Option kind.type

/-- The number that an argument is, also as a text. -/
def number? : Value → Option Number
  | .string content => Number.ofText? content
  | given => given.number?

/-- The integer that a number is, if it has no fraction; a float beyond the integers gives the nearest of them. -/
def whole? : Number → Option Int
  | .int i => some i.toInt
  | .float x => if Number.isIntegral x then some (Number.integerPart x).toInt else none

/-- The value cannot be converted to what the title names. -/
def refused (given : Value) (title : String) : Fault := .notConvertible given.kind.title title

/-- Converts a value that is given. -/
def convert (tallies : Tallies) : (kind : ArgumentKind) → Value → Except Fault kind.type
  | integer bounds, given =>
    match (number? given).bind whole? with
    | some whole =>
      if bounds.low ≤ whole ∧ whole ≤ bounds.high then .ok whole
      else .error (refused given bounds.title)
    | none => .error (refused given bounds.title)
  | float, given =>
    match number? given with
    | some number => .ok number.toFloat
    | none => .error (refused given "f64")
  | bool, given => .ok given.isTruthy
  | text, given =>
    match given with
    | .string content => .ok content
    | _ => .error (refused given "string")
  | printed, given => .ok (given.text tallies)
  | value, given => .ok given
  | list item, given =>
    match given.items? with
    | some items => items.mapM (convert tallies item)
    | none => .error (refused given "sequence")
  | option kind, given => if given.isNil then .ok none else (convert tallies kind given).map some

/-- What stands for a value that is not given. -/
def missing : (kind : ArgumentKind) → Except Fault kind.type
  | list _ => .ok []
  | option _ => .ok none
  | integer _ | float | bool | text | printed | value => .error .missingArgument

/-- Converts a value, if it is given. -/
def convert? (tallies : Tallies) (kind : ArgumentKind) : Option Value → Except Fault kind.type
  | some given => kind.convert tallies given
  | none => kind.missing

end ArgumentKind

/-- A parameter of a host function. -/
inductive Parameter where
  /-- The context of the call, which takes no value. -/
  | context
  | one (kind : ArgumentKind)
  /-- All values that are left, if it is the last parameter; else the next one, if there is one. -/
  | rest (kind : ArgumentKind)
deriving Repr, DecidableEq

/-- Converted values for a list of parameters. -/
@[reducible] def Arguments : List Parameter → Type
  | [] => Unit
  | .context :: parameters => Arguments parameters
  | .one kind :: parameters => kind.type × Arguments parameters
  | .rest kind :: parameters => List kind.type × Arguments parameters

/-- Converts values for a list of parameters; a context is there or is not. -/
def Arguments.convert (tallies : Tallies) (hasContext : Bool) :
    (parameters : List Parameter) → List Value → Except Fault (Arguments parameters)
  | [], [] => .ok ()
  | [], _ :: _ => .error .tooManyArguments
  | .context :: parameters, values =>
    if hasContext then Arguments.convert tallies hasContext parameters values else .error .contextUnavailable
  | .one kind :: parameters, values => do
    let first ← kind.convert? tallies values.head?
    let others ← Arguments.convert tallies hasContext parameters values.tail
    return (first, others)
  | .rest kind :: parameters, values => do
    let share := if parameters.isEmpty then values else values.take 1
    let all ← share.mapM (kind.convert tallies)
    let others ← Arguments.convert tallies hasContext parameters (values.drop share.length)
    return (all, others)

/-- What can be seen of a list of parameters from outside. -/
structure Signature where
  takesContext : Bool
  required : Nat
  optional : Nat
  variadic : Bool
deriving Repr, DecidableEq

namespace Signature

/-- The signature of a list of parameters. -/
def ofParameters : List Parameter → Signature
  | [] => ⟨false, 0, 0, false⟩
  | .context :: parameters => { ofParameters parameters with takesContext := true }
  | .one (.option _) :: parameters =>
    { ofParameters parameters with optional := (ofParameters parameters).optional + 1 }
  | .one _ :: parameters => { ofParameters parameters with required := (ofParameters parameters).required + 1 }
  | .rest _ :: parameters => { ofParameters parameters with variadic := true }

/-- Whether a function of the signature takes the given number of values. -/
def covers (signature : Signature) (count : Nat) : Bool :=
  signature.required ≤ count && (signature.variadic || count ≤ signature.required + signature.optional)

end Signature

end Liquid
