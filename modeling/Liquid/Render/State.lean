import Liquid.Evaluation
import Liquid.Output
import Liquid.Template.Basic

/-!
# The state of a render

A render changes its context, writes output, keeps the included templates that it has read and records the names that it
has asked its source for. It ends with a result, with an error, or because it would have to wait. What a render has done up
to its end stays done.
-/

namespace Liquid

/-- How a block ends. -/
inductive Flow where
  | completed
  /-- The nearest loop ends. -/
  | breakLoop
  /-- The nearest loop goes on with its next item. -/
  | continueLoop
deriving Repr, DecidableEq

/-- What a render changes. -/
structure RenderState where
  context : Context
  output : Output
  shared : Shared
  /-- The trees of included templates, by path. -/
  includes : Entries String Block
  /-- The names that the source was asked for, the last one first. -/
  reads : List String

/-- A part of a render. -/
abbrev Render := ReaderT Drive (ExceptT Failure (StateM RenderState))

namespace Render

/-- Fails with an error. -/
def raise {α : Type} (error : Error) : Render α := fun _ ↦ throw (.error error)

/-- Fails with a fault. -/
def fail {α : Type} (fault : Fault) : Render α := raise (.of fault)

/-- The result, or the fault. -/
def ofExcept {α : Type} : Except Fault α → Render α
  | .ok value => return value
  | .error fault => fail fault

/-- The context. -/
def context : Render Context := return (← get).context

/-- Changes the context. -/
def modifyContext (change : Context → Context) : Render Unit :=
  modify fun state ↦ { state with context := change state.context }

/-- Changes the context if that does not fail. -/
def updateContext (change : Context → Except Fault Context) : Render Unit := do
  let context ← ofExcept (change (← context))
  modifyContext fun _ ↦ context

/-- Changes the output. -/
def modifyOutput (change : Output → Output) : Render Unit :=
  modify fun state ↦ { state with output := change state.output }

/-- Writes text. -/
def write (text : String) : Render Unit := modifyOutput fun output ↦ output.write text

/-- Ends the innermost capture and gives its text. -/
def endCapture : Render String := do
  let (text, output) := (← get).output.endCapture
  modifyOutput fun _ ↦ output
  return text

/-- Evaluates in the context of the render. -/
def evaluate {α : Type} (computation : Eval α) : Render α := fun drive ↦ do
  let state ← get
  let (result, shared) := computation drive state.context state.shared
  set { state with shared := shared }
  match result with
  | .ok value => return value
  | .error failure => throw failure

/-- The result of an action, or its error. -/
def attempt {α : Type} (action : Render α) : Render (Except Error α) := fun drive state ↦
  match action drive state with
  | (.ok value, state) => (.ok (.ok value), state)
  | (.error (.error error), state) => (.ok (.error error), state)
  | (.error .suspended, state) => (.error .suspended, state)

/-- Goes on with the result of an attempt, or fails with its error. -/
def settle {α : Type} : Except Error α → Render α
  | .ok value => return value
  | .error error => raise error

/-- Runs an action that must not wait. -/
def atOnce {α : Type} (action : Render α) : Render α := fun _ state ↦
  match action .blocking state with
  | (.error .suspended, state) => (.error (.error (.of .suspended)), state)
  | ended => ended

/-- Fails if the render has been cancelled. -/
def checkCancelled : Render Unit := do
  if (← get).shared.counts.cancelled = some true then fail .cancelled

/-- Closes the innermost scope. -/
def popScope : Render Unit := updateContext fun context ↦ context.pop.map Prod.snd

end Render

end Liquid
