import Liquid.Render.Include
import Liquid.Render.Loop
import Liquid.Render.Report

/-!
# Rendering trees

A block is rendered node by node. Rendering follows the tree; only an include leads out of it, and includes nest no
deeper than the context allows, so that every render ends.
-/

namespace Liquid.Render

/-- Writes the value of an output. An undefined variable is recorded where undefined variables are allowed. -/
def output (tools : Toolbox) (markup : Markup) (span : Span) : Render Flow := do
  let value ← evaluate (markup.eval tools)
  if value.isUndefined && markup.isPlainPath && !(← context).strict then
    record (← located (.of (.undefinedVariable markup.name)) span)
  let state ← get
  write (state.context.formatValue state.shared.counts.tallies value)
  return .completed

/-- The counter that an assigned variable holds. -/
def counter (name : String) : Render Int64 := do
  return (((← context).assigned.find? name).bind Value.integer?).getD 0

/-- Whether the subject of a case equals one of the values. -/
def anyEqual (tools : Toolbox) (subject : Value) : List Expr → Eval Bool
  | [] => return false
  | expr :: rest => do
    if ← tools.compare "==" (← expr.eval tools) subject then return true else anyEqual tools subject rest

/-- The key under which a cycle keeps its place: the text of its group, or else its values as they are written. -/
def cycleKey (tools : Toolbox) (group : Option Expr) (values : List Expr) : Eval String :=
  match group with
  | some group => do Eval.textOf (← group.eval tools)
  | none => return "[" ++ Expr.writtenList values ++ "]"

/-- Writes the next value of a cycle, if it has values. -/
def cycle (tools : Toolbox) (group : Option Expr) (values : List Expr) : Render Flow := do
  if values.isEmpty then return .completed
  let key ← evaluate (cycleKey tools group values)
  let places := (← context).registers.places Registers.cycleKey
  let place := (places.find? key).getD 0 % values.length
  modifyContext fun context ↦ context.setRegister Registers.cycleKey (.places (places.put key (place + 1)))
  match values[place]? with
  | none => return .completed
  | some expr =>
    let value ← evaluate (expr.eval tools)
    let state ← get
    write (state.context.formatValue state.shared.counts.tallies value)
    return .completed

/-- Renders a body into a capture and gives its text and its flow. -/
def captured (body : Render Flow) : Render (String × Flow) := do
  modifyOutput Output.beginCapture
  let ended ← attempt body
  let text ← endCapture
  return (text, ← settle ended)

/-- Writes a text unless it is the one that was last seen. -/
def ifChanged (text : String) : Render Unit := do
  if (← context).registers.text? Registers.changeKey ≠ some text then write text
  modifyContext fun context ↦ context.setRegister Registers.changeKey (.text text)

/-- Leaves the nearest loop in the given way, if there is one. -/
def leaveBody (flow : Flow) : Render Flow := do
  if (← context).loops > 0 then return flow else return .completed

/-- Runs a custom tag. -/
def custom (engine : Engine) (registration : Nat) (name markup : String) (body : Render Flow) : Render Flow := do
  match engine.tag? registration with
  | some tag =>
    (tag.script name markup).run (do let _ ← body)
    return .completed
  | none => return .completed

/-- Renders the first branch whose condition holds; the condition of the first one may be negated. -/
def branches (tools : Toolbox) (otherwise : Render Flow) : (negated : Bool) → List (Condition × Render Flow) →
    Render Flow
  | _, [] => otherwise
  | negated, (condition, body) :: rest => do
    if (← evaluate (condition.eval tools)) != negated then body else branches tools otherwise false rest

/-- Renders every block one of whose values equals the subject, and the other block if there is none. -/
def cases (tools : Toolbox) (subject : Value) (otherwise : Render Flow) : (matched : Bool) →
    List (List Expr × Render Flow) → Render Flow
  | matched, [] => if matched then return .completed else otherwise
  | matched, (values, body) :: rest => do
    if ← evaluate (anyEqual tools subject values) then
      match ← body with
      | .completed => cases tools subject otherwise true rest
      | flow => return flow
    else cases tools subject otherwise matched rest

mutual

/-- Renders nodes one after the other until a flow leaves them; `inclusions` does what includes do. -/
def nodes (engine : Engine) (inclusions : Inclusion → Render Flow) : List Node → Render Flow
  | [] => return .completed
  | first :: rest => do
    checkCancelled
    match ← node engine inclusions first with
    | .completed => nodes engine inclusions rest
    | flow => return flow

/-- Renders a node. -/
def node (engine : Engine) (inclusions : Inclusion → Render Flow) : Node → Render Flow
  | .text content => do
    write content
    return .completed
  | .output markup span => guarded span (output engine.tools markup span)
  | .tag name markup span action => do
    if (← context).isDisabled name then guarded span (fail (.disabledTag name))
    else guarded span (tag engine inclusions name markup action)

/-- Does what a tag does. -/
def tag (engine : Engine) (inclusions : Inclusion → Render Flow) (name markup : String) : Tag → Render Flow
  | .assign target value => do
    let value ← evaluate (value.eval engine.tools)
    modifyContext fun context ↦ context.assign target value
    return .completed
  | .capture target body => do
    let (text, flow) ← captured (nodes engine inclusions body)
    modifyContext fun context ↦ context.assign target (.string text)
    return flow
  | .case subject whens otherwise => do
    let subject ← evaluate (subject.eval engine.tools)
    cases engine.tools subject (optional engine inclusions otherwise) false (whenBodies engine inclusions whens)
  | .comment => return .completed
  | .cycle group values => cycle engine.tools group values
  | .increment name => do
    let current ← counter name
    write (toString current.toInt)
    modifyContext fun context ↦ context.assign name (.int (current + 1))
    return .completed
  | .decrement name => do
    let current := (← counter name) - 1
    write (toString current.toInt)
    modifyContext fun context ↦ context.assign name (.int current)
    return .completed
  | .loop header body otherwise =>
    loop engine.tools header (nodes engine inclusions body) (optional engine inclusions otherwise)
  | .breakLoop => leaveBody .breakLoop
  | .continueLoop => leaveBody .continueLoop
  | .branch negated conditions otherwise =>
    branches engine.tools (optional engine inclusions otherwise) negated (branchBodies engine inclusions conditions)
  | .ifChanged body => do
    let (text, flow) ← captured (nodes engine inclusions body)
    ifChanged text
    return flow
  | .include inclusion => inclusions inclusion
  | .table header body => table engine.tools header (nodes engine inclusions body)
  | .custom registration body => custom engine registration name markup (optional engine inclusions body)

/-- Renders a block that may be missing. -/
def optional (engine : Engine) (inclusions : Inclusion → Render Flow) : Option (List Node) → Render Flow
  | none => return .completed
  | some body => nodes engine inclusions body

/-- Conditions with what renders their blocks. -/
def branchBodies (engine : Engine) (inclusions : Inclusion → Render Flow) :
    List (Condition × List Node) → List (Condition × Render Flow)
  | [] => []
  | (condition, body) :: rest => (condition, nodes engine inclusions body) :: branchBodies engine inclusions rest

/-- Values with what renders their blocks. -/
def whenBodies (engine : Engine) (inclusions : Inclusion → Render Flow) :
    List (List Expr × List Node) → List (List Expr × Render Flow)
  | [] => []
  | (values, body) :: rest => (values, nodes engine inclusions body) :: whenBodies engine inclusions rest

end

/-- Renders a block in which includes may nest the given number of times; one that is nested deeper is refused. -/
def blockWithin (engine : Engine) : (remaining : Nat) → Block → Render Flow
  | 0, body => nodes engine (included engine fun _ ↦ do fail (.tooDeep (← context).maxDepth)) body
  | remaining + 1, body => nodes engine (included engine fun block ↦ blockWithin engine remaining block) body

/-- Renders a block. Entering an include fails as soon as as many are active as the context allows. -/
def block (engine : Engine) (body : Block) : Render Flow := do
  let context ← context
  blockWithin engine (context.maxDepth - context.depth) body

end Liquid.Render
