import Liquid.Render.Script
import Liquid.Template.Parser

/-!
# Includes

An included template is read from the source of the render, or else from the source of the environment; the trees of the
latter are kept by path. It is rendered in a scope of its own, under its own name, and includes nest only up to a
limit.
-/

namespace Liquid

/-- What a render asks its environment. -/
structure Engine where
  tools : Toolbox
  /-- The custom tags, by the number of their registration. -/
  tag? : Nat → Option CustomTag
  source : Option Source
  grammar : Grammar

namespace Render

/-- Fetches the text of a template. -/
def fetch (source : Source) (name : String) : Render String := do
  if source.isLogged then modify fun state ↦ { state with reads := name :: state.reads }
  evaluate (Eval.wait (source.waits name))
  ofExcept (source.fetch name)

/-- The tree of the text of a template. -/
def parse (engine : Engine) (name text : String) : Render Block :=
  settle (Template.parse engine.grammar name text)

/-- The tree of a template of the environment's source. -/
def loadCached (engine : Engine) (source : Source) (name : String) : Render Block := do
  let path ← ofExcept (source.resolve name)
  match (← get).includes.find? path with
  | some block => return block
  | none =>
    let block ← parse engine name (← fetch source name)
    modify fun state ↦ { state with includes := state.includes.put path block }
    return block

/-- The tree of the template of a name. -/
def load (engine : Engine) (name : String) : Render Block := do
  match (← context).registers.source? Registers.sourceKey with
  | some source => parse engine name (← fetch source name)
  | none =>
    match engine.source with
    | some source => loadCached engine source name
    | none => fail (.templateNotFound name)

/-- The variable that an included template of a name is bound to: the last part of its path. -/
def boundName (name : String) : String :=
  String.ofList (Text.takeEndWhile (· != '/') name.toList)

/-- The value that an included template is bound to, if there is one. -/
def boundValue (tools : Toolbox) (binding : Option Binding) (name : String) : Eval (Option Value) :=
  match binding with
  | some (.value expr) | some (.each expr) => some <$> expr.eval tools
  | none => Eval.counting fun context ↦ context.lookup name

/-- The scope that attributes give; the last value of a key counts. -/
def attributeFrame (tools : Toolbox) : Entries String Value → List (String × Expr) → Eval (Entries String Value)
  | frame, [] => return frame
  | frame, (key, expr) :: rest => do attributeFrame tools (frame.put key (← expr.eval tools)) rest

/-- Renders something once for each item until a flow leaves it. -/
def eachBound (bind : Value → Render Flow) : List Value → Render Flow
  | [] => return .completed
  | item :: rest => do
    match ← bind item with
    | .completed => eachBound bind rest
    | flow => return flow

/-- Renders an included template in the current scope, for each item of a sequence if the binding asks for it. -/
def bound (binding : Option Binding) (name : String) (value : Option Value) (body : Render Flow) : Render Flow :=
  let bind (value : Value) : Render Flow := do
    modifyContext fun context ↦ context.set name value
    body
  match binding, value with
  | some (.each _), some value =>
    if value.kind = .seq then eachBound bind (value.items?.getD []) else bind value
  | _, some value => bind value
  | _, none => body

/-- Gives up the scope and the name of an included template, and ends as its tree did. -/
def leaveInclude (outer : String) (ended : Except Error Flow) : Render Flow := do
  modifyContext fun context ↦ { context with name := outer }
  let popped ← attempt popScope
  modifyContext Context.leave
  settle popped
  settle ended

/-- Renders something in a scope of an included template and under its name. -/
def inInclude (name : String) (frame : Entries String Value) (body : Render Flow) : Render Flow := do
  updateContext Context.enter
  let outer := (← context).name
  modifyContext fun context ↦ { context.push frame with name := name }
  let ended ← attempt body
  leaveInclude outer ended

/-- Renders an included template; `deeper` renders its tree. -/
def included (engine : Engine) (deeper : Block → Render Flow) (inclusion : Inclusion) : Render Flow := do
  let name ← evaluate do Eval.textOf (← inclusion.template.eval engine.tools)
  let block ← load engine name
  let variableName := boundName name
  let value ← evaluate (boundValue engine.tools inclusion.binding variableName)
  let frame ← evaluate (attributeFrame engine.tools [] inclusion.attributes)
  inInclude name frame (bound inclusion.binding variableName value (deeper block))

end Render

end Liquid
