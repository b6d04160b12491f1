import Liquid.Filter.Basic
import Liquid.Markup.Basic
import Liquid.Operator

/-!
# Evaluating expressions and conditions

Expressions are evaluated in a context that they cannot change. Their filters may keep the evaluation waiting: where
waiting is allowed it is counted, and where it is not the evaluation stops at once and for good.
-/

namespace Liquid

/-- Whether a render may wait. -/
inductive Drive where
  | blocking
  | cooperative
deriving Repr, DecidableEq

/-- How a computation ends without a result. -/
inductive Failure where
  | error (error : Error)
  /-- It had to wait where waiting is not allowed. -/
  | suspended

/-- What is shared by all parts of a render and outlives it. -/
structure Shared where
  counts : Counts
  /-- The identity of the next object. -/
  nextObject : Nat
  /-- How often the render had to wait. -/
  suspensions : Nat

/-- A computation that reads a context and may wait. -/
abbrev Eval := ReaderT Drive (ReaderT Context (ExceptT Failure (StateM Shared)))

namespace Eval

/-- Fails. -/
def fail {α : Type} (fault : Fault) : Eval α := fun _ _ ↦ throw (.error (.of fault))

/-- Waits the given number of times. -/
def wait (times : Nat) : Eval Unit := fun drive _ ↦
  match times, drive with
  | 0, _ => return ()
  | _ + 1, .blocking => throw .suspended
  | times + 1, .cooperative => modify fun shared ↦ { shared with suspensions := shared.suspensions + (times + 1) }

/-- Runs a query; `explain` turns a fault into an error. -/
def query {α : Type} (explain : Fault → Error) (query : Query α) : Eval α := fun _ context ↦ do
  let shared ← get
  let (result, counts) := query context shared.counts
  set { shared with counts := counts }
  match result with
  | .ok value => return value
  | .error fault => throw (.error (explain fault))

/-- Does something that may change what objects have counted. -/
def counting {α : Type} (action : Context → StateM Tallies α) : Eval α :=
  query Error.of (Query.counting action)

/-- The context of the evaluation. -/
def context : Eval Context := fun _ context ↦ return context

/-- The text of a value. -/
def textOf (value : Value) : Eval String := query Error.of (Query.textOf value)

end Eval

/-- What an evaluation asks its environment. -/
structure Toolbox where
  /-- The filters of the render, which take precedence. -/
  localFilters : FilterSet
  filters : FilterSet
  operators : Registry Operator

namespace Toolbox

/-- The filters of a name. -/
def overloads? (tools : Toolbox) (naming : NamingConvention) (name : String) : Option (List Filter) :=
  tools.localFilters.request? naming name <|> tools.filters.request? naming name

/-- The filter of a name that takes the given number of values. -/
def filter (tools : Toolbox) (naming : NamingConvention) (name : String) (count : Nat) : Except Fault Filter :=
  match tools.overloads? naming name with
  | none => .error (.unknownFilter name)
  | some overloads =>
    match Filter.select? overloads count with
    | some filter => .ok filter
    | none => .error (.filterArity name (count - 1))

/-- What the operator of a name says of two values. -/
def compare (tools : Toolbox) (name : String) (a b : Value) : Eval Bool := do
  let context ← Eval.context
  match tools.operators.request? context.naming name with
  | some operator => return operator context.level (← Eval.counting fun _ ↦ get) a b
  | none => Eval.fail (.unknownOperator name)

end Toolbox

/-- Calls a filter with values. -/
def Filter.invoke (filter : Filter) (name : String) (values : List Value) : Eval Value := do
  let tallies ← Eval.counting fun _ ↦ get
  let arguments ← Eval.query (Filter.invocationError name) fun _ ↦
    Arguments.convert tallies (!filter.isAsync) filter.parameters values
  Eval.wait (filter.waits arguments)
  Eval.query (Filter.invocationError name) (filter.run arguments)

/-- The bound of a range that a value gives. -/
def rangeBound (value : Value) : Eval Int64 := do
  match value.toNumber? with
  | some number => return number.toInteger
  | none => Eval.fail (.badRangeBound (← Eval.textOf value))

/-- The result of a path that leads nowhere. -/
def missingPath (name : String) : Eval Value := do
  if (← Eval.context).strict then Eval.fail (.undefinedVariable name) else return .undefined

mutual

/-- The value of an expression. -/
def Expr.eval (tools : Toolbox) : Expr → Eval Value
  | .literal value => return value
  | .path segments => evalPath tools (pathName segments) none segments
  | .range first last => do
    let first ← rangeBound (← Expr.eval tools first)
    let last ← rangeBound (← Expr.eval tools last)
    return .range first last
  | .filtered _ primary filters => do evalFilters tools filters (← Expr.eval tools primary)

/-- The value to which segments lead from a value, or from the variables; `name` names the whole path. -/
def evalPath (tools : Toolbox) (name : String) (current : Option Value) : List Segment → Eval Value
  | [] => return current.getD .undefined
  | .member member :: rest => do
    let next? ← Eval.counting fun context ↦
      match current with
      | some value => context.member? value member
      | none => context.lookup member
    match next? with
    | some value => evalPath tools name (some value) rest
    | none => missingPath name
  | .index key :: rest => do
    let key ← Expr.eval tools key
    let next? ← Eval.counting fun context ↦
      match current, key with
      | some value, _ => context.item? value key
      | none, .string variable_ => context.lookup variable_
      | none, _ => return none
    match next? with
    | some value => evalPath tools name (some value) rest
    | none => missingPath name

/-- The value that filters make of a value. Each filter is chosen before its arguments are evaluated. -/
def evalFilters (tools : Toolbox) : List FilterRequest → Value → Eval Value
  | [], value => return value
  | .mk name _ arguments :: rest, value => do
    match tools.filter (← Eval.context).naming name (arguments.length + 1) with
    | .error fault => Eval.fail fault
    | .ok filter =>
      let values ← evalList tools arguments
      evalFilters tools rest (← filter.invoke name (value :: values))

/-- The values of expressions. -/
def evalList (tools : Toolbox) : List Expr → Eval (List Value)
  | [] => return []
  | expr :: rest => do
    let value ← Expr.eval tools expr
    return value :: (← evalList tools rest)

end

/-- The value of a markup. -/
def Markup.eval (tools : Toolbox) (markup : Markup) : Eval Value := do
  evalFilters tools markup.filters (← markup.primary.eval tools)

/-- Whether a condition holds. The right side of a combination is evaluated only if it matters. -/
def Condition.eval (tools : Toolbox) : Condition → Eval Bool
  | .truthy operand => do return (← operand.eval tools).isTruthy
  | .compare left operator right => do
    let left ← left.eval tools
    let right ← right.eval tools
    tools.compare operator left right
  | .and left right => do
    if ← Condition.eval tools left then Condition.eval tools right else return false
  | .or left right => do
    if ← Condition.eval tools left then return true else Condition.eval tools right

end Liquid
