import Liquid.Proofs.Render.Opening

/-!
# Renders that blame at once

A renderer that gives every error its place where it arises: that of the innermost node which is being rendered then. It
keeps no track of names but those under which templates are rendered and included, and nothing that is done with an error
later changes its place. The renderer itself gives errors their places on the way out, from node to node.
-/

namespace Liquid.Render

/-- A part of a render that is told the place of the innermost node that is being rendered, if there is one. -/
def Blaming (α : Type) := Option Location → Render α

namespace Blaming

variable {α β : Type}

instance : Monad Blaming where
  pure value := fun _ ↦ pure value
  bind first next := fun place ↦ first place >>= fun value ↦ next value place

/-- An action in which errors arise. They get the place at once. -/
def arising (action : Render α) : Blaming α := fun place drive state ↦
  match action drive state with
  | (.error (.error error), after) => (.error (.error { error with location := place }), after)
  | ended => ended

/-- Errors arise in every action of the renderer, unless it is said to pass them on. -/
instance : MonadLift Render Blaming := ⟨arising⟩

/-- An action that passes on errors with the places that they have. -/
def passing (action : Render α) : Blaming α := fun _ ↦ action

/-- The result of an action, or its error with its place. -/
def attempt (action : Blaming α) : Blaming (Except Error α) := fun place ↦ Render.attempt (action place)

/-- Records a fault that does not end what is being rendered. -/
def recordHere (fault : Fault) : Blaming Unit := fun place ↦ record { Error.of fault with location := place }

/-- The flow of an action, or its error reported with the place that it has. -/
def reported (action : Blaming Flow) : Blaming Flow := do
  match ← attempt action with
  | .ok flow => return flow
  | .error error =>
    passing (report error)
    return .completed

/-- Renders a node of a template with the given name. What arises in it, but in no node inside of it, is blamed on it. -/
def atNode (template : String) (span : Span) (action : Blaming Flow) : Blaming Flow := fun _ ↦
  reported action (some ⟨template, span.start.line⟩)

/-- Writes the value of an output. An undefined variable is recorded where undefined variables are allowed. -/
def output (tools : Toolbox) (markup : Markup) : Blaming Flow := do
  let value ← evaluate (markup.eval tools)
  let context ← context
  if value.isUndefined && markup.isPlainPath && !context.strict then
    recordHere (.undefinedVariable markup.name)
  let state ← (get : Render RenderState)
  write (state.context.formatValue state.shared.counts.tallies value)
  return .completed

/-- Renders a body into a capture and gives its text and its flow. -/
def captured (body : Blaming Flow) : Blaming (String × Flow) := do
  modifyOutput Output.beginCapture
  let ended ← attempt body
  let text ← endCapture
  return (text, ← passing (settle ended))

/-- Renders the first branch whose condition holds; the condition of the first one may be negated. -/
def branches (tools : Toolbox) (otherwise : Blaming Flow) : (negated : Bool) → List (Condition × Blaming Flow) →
    Blaming Flow
  | _, [] => otherwise
  | negated, (condition, body) :: rest => do
    if (← evaluate (condition.eval tools)) != negated then body else branches tools otherwise false rest

/-- Renders every block one of whose values equals the subject, and the other block if there is none. -/
def cases (tools : Toolbox) (subject : Value) (otherwise : Blaming Flow) : (matched : Bool) →
    List (List Expr × Blaming Flow) → Blaming Flow
  | matched, [] => if matched then return .completed else otherwise
  | matched, (values, body) :: rest => do
    if ← evaluate (anyEqual tools subject values) then
      match ← body with
      | .completed => cases tools subject otherwise true rest
      | flow => return flow
    else cases tools subject otherwise matched rest

/-! ## Loops -/

/-- Visits items one after the other until a visit breaks the loop. -/
def eachItem (visit : Nat → Value → Blaming Flow) : (index : Nat) → List Value → Blaming Unit
  | _, [] => return ()
  | index, item :: rest => do
    match ← visit index item with
    | .breakLoop => return ()
    | .continueLoop | .completed => eachItem visit (index + 1) rest

/-- Runs the visits of a loop in a scope of their own, in which a name stands for the object of the loop. -/
def inLoop (objectName : String) (object : Value) (visits : Blaming Unit) : Blaming (Except Error Unit) := do
  modifyContext fun context ↦ ((context.push []).enterLoop).set objectName object
  let ended ← attempt visits
  modifyContext Context.leaveLoop
  popScope
  return ended

/-- Visits the items of a loop. -/
def visitLoop (header : LoopHeader) (items : List Value) (body : Blaming Flow) : Blaming Flow := do
  let parent ← evaluate (Eval.counting fun context ↦ context.lookup "forloop")
  let (id, object) ← newObject (.forLoop header.name items.length (parent.getD .undefined))
  let visit (index : Nat) (item : Value) : Blaming Flow := do
    advance id index
    modifyContext fun context ↦ context.set header.item item
    body
  let ended ← inLoop "forloop" object (eachItem visit 0 items)
  passing (settle ended)
  return .completed

/-- Renders a loop; without items its other body is rendered. -/
def loop (tools : Toolbox) (header : LoopHeader) (body otherwise : Blaming Flow) : Blaming Flow := do
  let items ← loopWindow tools header
  if items.isEmpty then otherwise
  else visitLoop header (if header.reversed then items.reverse else items) body

/-- Renders a table with a cell for each item. -/
def table (tools : Toolbox) (header : TableHeader) (body : Blaming Flow) : Blaming Flow := do
  let collection ← evaluate (header.collection.eval tools)
  let offset ← evaluate (offsetArgument tools header.offset)
  let limit ← evaluate (loopArgument tools header.limit)
  let items := loopItems collection offset limit
  let columns :=
    match ← evaluate (loopArgument tools header.columns) with
    | some columns => if 0 < columns.toInt then columns.toInt.toNat else max items.length 1
    | none => max items.length 1
  let (id, object) ← newObject (.tableRow header.name items.length columns)
  write "<tr class=\"row1\">\n"
  let visit (index : Nat) (item : Value) : Blaming Flow := do
    advance id index
    modifyContext fun context ↦ context.set header.item item
    let column := index % columns
    write ("<td class=\"col" ++ toString (column + 1) ++ "\">")
    let ended ← attempt body
    write "</td>"
    if column + 1 = columns ∧ index + 1 ≠ items.length then
      write ("</tr>\n<tr class=\"row" ++ toString (index / columns + 2) ++ "\">")
    passing (settle ended)
  let ended ← inLoop "tablerowloop" object (eachItem visit 0 items)
  write "</tr>\n"
  passing (settle ended)
  return .completed

/-! ## Includes -/

/-- The tree of a template of the environment's source. What cannot be parsed has its place in the text. -/
def loadCached (engine : Engine) (source : Source) (name : String) : Blaming Block := do
  let path ← ofExcept (source.resolve name)
  let state ← (get : Render RenderState)
  match state.includes.find? path with
  | some block => return block
  | none =>
    let text ← fetch source name
    let block ← passing (parse engine name text)
    (modify fun state ↦ { state with includes := state.includes.put path block } : Render PUnit)
    return block

/-- The tree of the template of a name. -/
def load (engine : Engine) (name : String) : Blaming Block := do
  let context ← context
  match context.registers.source? Registers.sourceKey with
  | some source =>
    let text ← fetch source name
    passing (parse engine name text)
  | none =>
    match engine.source with
    | some source => loadCached engine source name
    | none => fail (.templateNotFound name)

/-- Renders something once for each item until a flow leaves it. -/
def eachBound (bind : Value → Blaming Flow) : List Value → Blaming Flow
  | [] => return .completed
  | item :: rest => do
    match ← bind item with
    | .completed => eachBound bind rest
    | flow => return flow

/-- Renders an included template in the current scope, for each item of a sequence if the binding asks for it. -/
def bound (binding : Option Binding) (name : String) (value : Option Value) (body : Blaming Flow) : Blaming Flow :=
  let bind (value : Value) : Blaming Flow := do
    modifyContext fun context ↦ context.set name value
    body
  match binding, value with
  | some (.each _), some value =>
    if value.kind = .seq then eachBound bind (value.items?.getD []) else bind value
  | _, some value => bind value
  | _, none => body

/-- Gives up the scope and the name of an included template, and ends as its tree did. -/
def leaveInclude (outer : String) (ended : Except Error Flow) : Blaming Flow := do
  modifyContext fun context ↦ { context with name := outer }
  let popped ← attempt popScope
  modifyContext Context.leave
  passing (settle popped)
  passing (settle ended)

/-- Renders something in a scope of an included template and under its name. -/
def inInclude (name : String) (frame : Entries String Value) (body : Blaming Flow) : Blaming Flow := do
  updateContext Context.enter
  let context ← context
  modifyContext fun context ↦ { context.push frame with name := name }
  let ended ← attempt body
  leaveInclude context.name ended

/-- Renders an included template; `deeper` renders its tree under its name. -/
def included (engine : Engine) (deeper : String → Block → Blaming Flow) (inclusion : Inclusion) : Blaming Flow := do
  let name ← evaluate do Eval.textOf (← inclusion.template.eval engine.tools)
  let block ← load engine name
  let value ← evaluate (boundValue engine.tools inclusion.binding (boundName name))
  let frame ← evaluate (attributeFrame engine.tools [] inclusion.attributes)
  inInclude name frame (bound inclusion.binding (boundName name) value (deeper name block))

/-! ## Trees -/

section

variable (engine : Engine) (inclusions : Inclusion → Blaming Flow) (template : String)

mutual

/-- Renders nodes of a template with the given name one after the other until a flow leaves them. -/
def nodes : List Node → Blaming Flow
  | [] => return .completed
  | first :: rest => do
    checkCancelled
    match ← node first with
    | .completed => nodes rest
    | flow => return flow

/-- Renders a node. -/
def node : Node → Blaming Flow
  | .text content => do
    write content
    return .completed
  | .output markup span => atNode template span (output engine.tools markup)
  | .tag name _ span action => do
    let context ← context
    if context.isDisabled name then atNode template span (fail (.disabledTag name) : Render Flow)
    else atNode template span (tag action)

/-- Does what a built-in tag does; a tag of a host does nothing. -/
def tag : Tag → Blaming Flow
  | .assign target value => do
    let value ← evaluate (value.eval engine.tools)
    modifyContext fun context ↦ context.assign target value
    return .completed
  | .capture target body => do
    let (text, flow) ← captured (nodes body)
    modifyContext fun context ↦ context.assign target (.string text)
    return flow
  | .case subject whens otherwise => do
    let subject ← evaluate (subject.eval engine.tools)
    cases engine.tools subject (optional otherwise) false (whenBodies whens)
  | .comment => return .completed
  | .cycle group values => cycle engine.tools group values
  | .increment name => do
    let current ← counter name
    write (toString current.toInt)
    modifyContext fun context ↦ context.assign name (.int (current + 1))
    return .completed
  | .decrement name => do
    let held ← counter name
    let current := held - 1
    write (toString current.toInt)
    modifyContext fun context ↦ context.assign name (.int current)
    return .completed
  | .loop header body otherwise => loop engine.tools header (nodes body) (optional otherwise)
  | .breakLoop => leaveBody .breakLoop
  | .continueLoop => leaveBody .continueLoop
  | .branch negated conditions otherwise =>
    branches engine.tools (optional otherwise) negated (branchBodies conditions)
  | .ifChanged body => do
    let (text, flow) ← captured (nodes body)
    ifChanged text
    return flow
  | .include inclusion => inclusions inclusion
  | .table header body => table engine.tools header (nodes body)
  | .custom _ _ => return .completed

/-- Renders a block that may be missing. -/
def optional : Option (List Node) → Blaming Flow
  | none => return .completed
  | some body => nodes body

/-- Conditions with what renders their blocks. -/
def branchBodies : List (Condition × List Node) → List (Condition × Blaming Flow)
  | [] => []
  | (condition, body) :: rest => (condition, nodes body) :: branchBodies rest

/-- Values with what renders their blocks. -/
def whenBodies : List (List Expr × List Node) → List (List Expr × Blaming Flow)
  | [] => []
  | (values, body) :: rest => (values, nodes body) :: whenBodies rest

end

end

/-- Renders a block of a template with the given name, in which includes may nest the given number of times. -/
def blockWithin (engine : Engine) : (remaining : Nat) → (template : String) → Block → Blaming Flow
  | 0, template, body =>
    nodes engine (included engine fun _ _ ↦ (do fail (.tooDeep (← context).maxDepth) : Render Flow)) template body
  | remaining + 1, template, body => nodes engine (included engine (blockWithin engine remaining)) template body

/-- Renders a block of a template with the given name. -/
def block (engine : Engine) (template : String) (body : Block) : Blaming Flow := do
  let context ← context
  blockWithin engine (context.maxDepth - context.depth) template body

end Blaming

end Liquid.Render
