import Liquid.Render.State

/-!
# Custom tags

What a custom tag does when it is rendered is written as a script: it changes the context and the output, lets the render
wait, renders its body and looks at how that ended.
-/

namespace Liquid

/-- What a custom tag does, step by step. -/
inductive Script where
  | done
  | raise (error : Error)
  /-- Changes the context and the output. -/
  | act (change : Context → Output → Except Fault (Context × Output)) (next : Script)
  /-- Lets the render wait once. -/
  | wait (next : Script)
  /-- Renders the body, if there is one; at once, or in such a way that it may wait. -/
  | body (isAtOnce : Bool) (next : Except Error Unit → Script)

namespace Script

/-- Fails. -/
def fail (fault : Fault) : Script := raise (.of fault)

/-- Goes on if the body did not fail. -/
def afterBody (next : Script) : Except Error Unit → Script
  | .ok () => next
  | .error error => raise error

/-- Writes text. -/
def write (text : String) (next : Script := done) : Script :=
  act (fun context output ↦ .ok (context, output.write text)) next

/-- Changes the context. -/
def change (change : Context → Context) (next : Script := done) : Script :=
  act (fun context output ↦ .ok (change context, output)) next

/-- Closes the innermost scope. -/
def pop (next : Script := done) : Script :=
  act (fun context output ↦ context.pop.map fun (_, context) ↦ (context, output)) next

/-- Runs a script whose body is rendered by the given action. -/
def run (body : Render Unit) : Script → Render Unit
  | done => return ()
  | raise error => Render.raise error
  | act change next => do
    let state ← get
    let (context, output) ← Render.ofExcept (change state.context state.output)
    set { state with context := context, output := output }
    run body next
  | wait next => do
    Render.evaluate (Eval.wait 1)
    run body next
  | .body isAtOnce next => do
    let ended ← Render.attempt (if isAtOnce then Render.atOnce body else body)
    run body (next ended)

end Script

/-- A tag of the host. -/
structure CustomTag where
  /-- Refuses markup that the tag cannot take, given the name and the markup. -/
  check : String → String → Except Fault Unit
  /-- What the tag does, given its name and its markup. -/
  script : String → String → Script
  /-- The name of the end tag, if the tag has a body. -/
  ending : Option String

end Liquid
