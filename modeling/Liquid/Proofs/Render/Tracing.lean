import Liquid.Proofs.Render.Caching
import Liquid.Proofs.Render.Opening

/-!
# Traces of the places of loops and cycles

Loops and cycles keep the places that they have come to in registers. A traced render does what a render does and also
lists, in their order, the loops and cycles at which it arrives, in whatever block, loop or included template they are.
Between two arrivals the places stay as the first one leaves them, whatever else is rendered in between and however that
ends.
-/

namespace Liquid

theorem Registers.places_put_self (key : String) (places : Entries String Nat) (registers : Registers) :
    Registers.places (registers.put key (.places places)) key = places := by
  rw [Registers.places, Entries.find?_put_self]

theorem Registers.places_put_of_ne {key asked : String} (hkeys : key ≠ asked) (register : Register) (registers : Registers) :
    Registers.places (registers.put key register) asked = registers.places asked := by
  rw [Registers.places, Registers.places, Entries.find?_put_of_ne hkeys]

/-- The places that the loops and the cycles of a render have come to. -/
structure Places where
  loops : Entries String Nat
  cycles : Entries String Nat

/-- The places that a context keeps. -/
def Context.places (context : Context) : Places :=
  ⟨context.registers.places Registers.loopKey, context.registers.places Registers.cycleKey⟩

/-- Whether a script leaves the places of loops and cycles to them. -/
def Script.KeepsPlaces : Script → Prop
  | .done | .raise _ => True
  | .act change next =>
    (∀ context output changed written, change context output = .ok (changed, written) → changed.places = context.places) ∧
      next.KeepsPlaces
  | .wait next => next.KeepsPlaces
  | .body _ next => ∀ ended, (next ended).KeepsPlaces

/-- Whether the custom tags leave the places of loops and cycles to them. -/
def Engine.KeepsPlaces (engine : Engine) : Prop :=
  ∀ registration tag, engine.tag? registration = some tag → ∀ name markup, (tag.script name markup).KeepsPlaces

namespace Render

/-- A tag that keeps a place. -/
inductive Placed where
  | loop (header : LoopHeader)
  | cycle (group : Option Expr) (values : List Expr)

/-- Moves the place of a tag: a loop takes its window, and a cycle takes a step. -/
def Placed.move (tools : Toolbox) : Placed → Render Unit
  | .loop header => do let _ ← loopWindow tools header
  | .cycle group values => do let _ ← Render.cycle tools group values

/-- A tag that keeps a place, and the state in which a render arrives at it. -/
structure Arrival where
  tag : Placed
  drive : Drive
  state : RenderState

/-- The state behind the move of the tag. -/
def Arrival.moved (tools : Toolbox) (arrival : Arrival) : RenderState :=
  (arrival.tag.move tools arrival.drive arrival.state).2

/-- From the places before the arrivals only the moves of their tags lead to the places behind them. -/
def Moves (tools : Toolbox) : Places → List Arrival → Places → Prop
  | before, [], after => after = before
  | before, arrival :: rest, after =>
    arrival.state.context.places = before ∧ Moves tools (arrival.moved tools).context.places rest after

theorem Moves.append {tools : Toolbox} {before middle after : Places} {first rest : List Arrival}
    (hfirst : Moves tools before first middle) (hrest : Moves tools middle rest after) :
    Moves tools before (first ++ rest) after := by
  induction first generalizing before with
  | nil =>
    obtain rfl : middle = before := hfirst
    exact hrest
  | cons arrival first ih => exact ⟨hfirst.1, ih hfirst.2⟩

/-- A part of a render, and the arrivals on its way. -/
structure Traced (α : Type) where
  run : Render α
  arrivals : Drive → RenderState → List Arrival

namespace Traced

variable {α β : Type}

/-- An action without arrivals. -/
def quiet (action : Render α) : Traced α := ⟨action, fun _ _ ↦ []⟩

/-- An action that moves the place of a tag. -/
def moving (tag : Placed) (action : Render α) : Traced α := ⟨action, fun drive state ↦ [⟨tag, drive, state⟩]⟩

instance : Monad Traced where
  pure value := quiet (pure value)
  bind first next :=
    { run := first.run >>= fun value ↦ (next value).run
      arrivals := fun drive state ↦
        first.arrivals drive state ++
          match first.run drive state with
          | (.ok value, after) => (next value).arrivals drive after
          | (.error _, _) => [] }

instance : MonadLift Render Traced := ⟨quiet⟩

/-! ## The renderer with its arrivals -/

/-- The result of an action, or its error. -/
def attempt (action : Traced α) : Traced (Except Error α) := ⟨Render.attempt action.run, action.arrivals⟩

/-- Runs an action that must not wait. -/
def atOnce (action : Traced α) : Traced α := ⟨Render.atOnce action.run, fun _ state ↦ action.arrivals .blocking state⟩

/-- The flow of a node, or its error reported at the place of the node. -/
def guarded (span : Span) (action : Traced Flow) : Traced Flow := do
  match ← attempt action with
  | .ok flow => return flow
  | .error error =>
    report (← located error span)
    return .completed

/-- Renders a body into a capture and gives its text and its flow. -/
def captured (body : Traced Flow) : Traced (String × Flow) := do
  modifyOutput Output.beginCapture
  let ended ← attempt body
  let text ← endCapture
  return (text, ← settle ended)

/-- Renders the first branch whose condition holds; the condition of the first one may be negated. -/
def branches (tools : Toolbox) (otherwise : Traced Flow) : (negated : Bool) → List (Condition × Traced Flow) →
    Traced Flow
  | _, [] => otherwise
  | negated, (condition, body) :: rest => do
    if (← evaluate (condition.eval tools)) != negated then body else branches tools otherwise false rest

/-- Renders every block one of whose values equals the subject, and the other block if there is none. -/
def cases (tools : Toolbox) (subject : Value) (otherwise : Traced Flow) : (matched : Bool) →
    List (List Expr × Traced Flow) → Traced Flow
  | matched, [] => if matched then return .completed else otherwise
  | matched, (values, body) :: rest => do
    if ← evaluate (anyEqual tools subject values) then
      match ← body with
      | .completed => cases tools subject otherwise true rest
      | flow => return flow
    else cases tools subject otherwise matched rest

/-- Visits items one after the other until a visit breaks the loop. -/
def eachItem (visit : Nat → Value → Traced Flow) : (index : Nat) → List Value → Traced Unit
  | _, [] => return ()
  | index, item :: rest => do
    match ← visit index item with
    | .breakLoop => return ()
    | .continueLoop | .completed => eachItem visit (index + 1) rest

/-- Runs the visits of a loop in a scope of their own, in which a name stands for the object of the loop. -/
def inLoop (objectName : String) (object : Value) (visits : Traced Unit) : Traced (Except Error Unit) := do
  modifyContext fun context ↦ ((context.push []).enterLoop).set objectName object
  let ended ← attempt visits
  modifyContext Context.leaveLoop
  popScope
  return ended

/-- Visits the items of a loop. -/
def visitLoop (header : LoopHeader) (items : List Value) (body : Traced Flow) : Traced Flow := do
  let parent ← evaluate (Eval.counting fun context ↦ context.lookup "forloop")
  let (id, object) ← newObject (.forLoop header.name items.length (parent.getD .undefined))
  let visit (index : Nat) (item : Value) : Traced Flow := do
    advance id index
    modifyContext fun context ↦ context.set header.item item
    body
  settle (← inLoop "forloop" object (eachItem visit 0 items))
  return .completed

/-- Renders a loop, arriving at it where it takes its window. -/
def loop (tools : Toolbox) (header : LoopHeader) (body otherwise : Traced Flow) : Traced Flow := do
  let items ← moving (.loop header) (loopWindow tools header)
  if items.isEmpty then otherwise
  else visitLoop header (if header.reversed then items.reverse else items) body

/-- Renders a table with a cell for each item. -/
def table (tools : Toolbox) (header : TableHeader) (body : Traced Flow) : Traced Flow := do
  let collection ← evaluate (header.collection.eval tools)
  let offset ← evaluate (offsetArgument tools header.offset)
  let limit ← evaluate (loopArgument tools header.limit)
  let items := loopItems collection offset limit
  let columns :=
    match ← evaluate (loopArgument tools header.columns) with
    | some columns => if 0 < columns.toInt then columns.toInt.toNat else max items.length 1
    | none => max items.length 1
  let (id, object) ← newObject (.tableRow header.name items.length columns)
  write "<tr class=\"row1\">\n"
  let visit (index : Nat) (item : Value) : Traced Flow := do
    advance id index
    modifyContext fun context ↦ context.set header.item item
    let column := index % columns
    write ("<td class=\"col" ++ toString (column + 1) ++ "\">")
    let ended ← attempt body
    write "</td>"
    if column + 1 = columns ∧ index + 1 ≠ items.length then
      write ("</tr>\n<tr class=\"row" ++ toString (index / columns + 2) ++ "\">")
    settle ended
  let ended ← inLoop "tablerowloop" object (eachItem visit 0 items)
  write "</tr>\n"
  settle ended
  return .completed

/-- Renders something once for each item until a flow leaves it. -/
def eachBound (bind : Value → Traced Flow) : List Value → Traced Flow
  | [] => return .completed
  | item :: rest => do
    match ← bind item with
    | .completed => eachBound bind rest
    | flow => return flow

/-- Renders an included template in the current scope, for each item of a sequence if the binding asks for it. -/
def bound (binding : Option Binding) (name : String) (value : Option Value) (body : Traced Flow) : Traced Flow :=
  let bind (value : Value) : Traced Flow := do
    modifyContext fun context ↦ context.set name value
    body
  match binding, value with
  | some (.each _), some value =>
    if value.kind = .seq then eachBound bind (value.items?.getD []) else bind value
  | _, some value => bind value
  | _, none => body

/-- Renders something in a scope of an included template and under its name. -/
def inInclude (name : String) (frame : Entries String Value) (body : Traced Flow) : Traced Flow := do
  updateContext Context.enter
  let outer := (← context).name
  modifyContext fun context ↦ { context.push frame with name := name }
  let ended ← attempt body
  leaveInclude outer ended

/-- Renders an included template; `deeper` renders its tree. -/
def included (engine : Engine) (deeper : Block → Traced Flow) (inclusion : Inclusion) : Traced Flow := do
  let part ← arguments engine inclusion
  inInclude part.name part.frame (bound inclusion.binding (boundName part.name) part.value (deeper part.block))

/-- Runs a script whose body is rendered by the given action. -/
def script (body : Traced Unit) : Script → Traced Unit
  | .done => return ()
  | .raise error => quiet (raise error)
  | .act change next => do
    changed change
    script body next
  | .wait next => do
    evaluate (Eval.wait 1)
    script body next
  | .body isAtOnce next => do
    let ended ← attempt (if isAtOnce then atOnce body else body)
    script body (next ended)

/-- Runs a custom tag. -/
def custom (engine : Engine) (registration : Nat) (name markup : String) (body : Traced Flow) : Traced Flow := do
  match engine.tag? registration with
  | some tag =>
    script (do let _ ← body) (tag.script name markup)
    return .completed
  | none => return .completed

mutual

/-- Renders nodes one after the other until a flow leaves them. -/
def nodes (engine : Engine) (inclusions : Inclusion → Traced Flow) : List Node → Traced Flow
  | [] => return .completed
  | first :: rest => do
    checkCancelled
    match ← node engine inclusions first with
    | .completed => nodes engine inclusions rest
    | flow => return flow

/-- Renders a node. -/
def node (engine : Engine) (inclusions : Inclusion → Traced Flow) : Node → Traced Flow
  | .text content => do
    write content
    return .completed
  | .output markup span => guarded span (quiet (output engine.tools markup span))
  | .tag name markup span action => do
    if (← context).isDisabled name then guarded span (quiet (fail (.disabledTag name)))
    else guarded span (tag engine inclusions name markup action)

/-- Does what a tag does. -/
def tag (engine : Engine) (inclusions : Inclusion → Traced Flow) (name markup : String) : Tag → Traced Flow
  | .assign target value => do
    let value ← evaluate (value.eval engine.tools)
    modifyContext fun context ↦ context.assign target value
    return .completed
  | .capture target body => do
    let (text, flow) ← captured (nodes engine inclusions body)
    modifyContext fun context ↦ context.assign target (.string text)
    return flow
  | .case subject whens otherwise => do
    let subject ← evaluate (subject.eval engine.tools)
    cases engine.tools subject (optional engine inclusions otherwise) false (whenBodies engine inclusions whens)
  | .comment => return .completed
  | .cycle group values => moving (.cycle group values) (cycle engine.tools group values)
  | .increment name => do
    let current ← counter name
    write (toString current.toInt)
    modifyContext fun context ↦ context.assign name (.int (current + 1))
    return .completed
  | .decrement name => do
    let current := (← counter name) - 1
    write (toString current.toInt)
    modifyContext fun context ↦ context.assign name (.int current)
    return .completed
  | .loop header body otherwise =>
    loop engine.tools header (nodes engine inclusions body) (optional engine inclusions otherwise)
  | .breakLoop => quiet (leaveBody .breakLoop)
  | .continueLoop => quiet (leaveBody .continueLoop)
  | .branch negated conditions otherwise =>
    branches engine.tools (optional engine inclusions otherwise) negated (branchBodies engine inclusions conditions)
  | .ifChanged body => do
    let (text, flow) ← captured (nodes engine inclusions body)
    ifChanged text
    return flow
  | .include inclusion => inclusions inclusion
  | .table header body => table engine.tools header (nodes engine inclusions body)
  | .custom registration body => custom engine registration name markup (optional engine inclusions body)

/-- Renders a block that may be missing. -/
def optional (engine : Engine) (inclusions : Inclusion → Traced Flow) : Option (List Node) → Traced Flow
  | none => return .completed
  | some body => nodes engine inclusions body

/-- Conditions with what renders their blocks. -/
def branchBodies (engine : Engine) (inclusions : Inclusion → Traced Flow) :
    List (Condition × List Node) → List (Condition × Traced Flow)
  | [] => []
  | (condition, body) :: rest => (condition, nodes engine inclusions body) :: branchBodies engine inclusions rest

/-- Values with what renders their blocks. -/
def whenBodies (engine : Engine) (inclusions : Inclusion → Traced Flow) :
    List (List Expr × List Node) → List (List Expr × Traced Flow)
  | [] => []
  | (values, body) :: rest => (values, nodes engine inclusions body) :: whenBodies engine inclusions rest

end

/-- Renders a block in which includes may nest the given number of times; one that is nested deeper is refused. -/
def blockWithin (engine : Engine) : (remaining : Nat) → Block → Traced Flow
  | 0, body => nodes engine (included engine fun _ ↦ quiet (do fail (.tooDeep (← context).maxDepth))) body
  | remaining + 1, body => nodes engine (included engine fun block ↦ blockWithin engine remaining block) body

/-- Renders a block. -/
def block (engine : Engine) (body : Block) : Traced Flow := do
  let context ← context
  blockWithin engine (context.maxDepth - context.depth) body

end Traced

/-! ## Actions that leave the places alone -/

/-- Whether an action leaves what a view shows of the context as it is. -/
def Still {γ α : Type} (view : Context → γ) (action : Render α) : Prop :=
  ∀ drive state, view (action drive state).2.context = view state.context

variable {α β γ : Type} {view : Context → γ}

theorem still_of_context_eq {action : Render α} (h : ∀ drive state, (action drive state).2.context = state.context) :
    Still view action :=
  fun drive state ↦ congrArg view (h drive state)

namespace Still

theorem pure (value : α) : Still view (Pure.pure value : Render α) := fun _ _ ↦ rfl

theorem bind {action : Render α} {next : α → Render β} (h : Still view action) (hnext : ∀ value, Still view (next value)) :
    Still view (action >>= next) := by
  intro drive state
  have hkept := h drive state
  rw [run_bind]
  rcases hrun : action drive state with ⟨failure | value, after⟩
  · rwa [hrun] at hkept
  · rw [hrun] at hkept
    exact (hnext value drive after).trans hkept

theorem ite {condition : Prop} [Decidable condition] {first second : Render α} (hfirst : Still view first)
    (hsecond : Still view second) : Still view (if condition then first else second) := by
  split
  · exact hfirst
  · exact hsecond

theorem context : Still view Render.context := fun _ _ ↦ rfl

theorem evaluate (computation : Eval α) : Still view (Render.evaluate computation) :=
  still_of_context_eq fun _ _ ↦ by rw [run_evaluate]

theorem settle (ended : Except Error α) : Still view (Render.settle ended) :=
  still_of_context_eq fun _ _ ↦ by rw [run_settle]

theorem modifyContext {change : Context → Context} (h : ∀ context, view (change context) = view context) :
    Still view (Render.modifyContext change) :=
  fun _ state ↦ h state.context

theorem writeValue (value : Value) (flow : Flow) : Still view (do
    let state ← get
    write (state.context.formatValue state.shared.counts.tallies value)
    return flow) :=
  fun _ _ ↦ rfl

theorem checkCancelled : Still view Render.checkCancelled :=
  still_of_context_eq fun _ _ ↦ by rw [run_checkCancelled]

theorem leaveBody (flow : Flow) : Still view (Render.leaveBody flow) :=
  .bind .context fun _ ↦ .ite (.pure _) (.pure _)

theorem arguments (engine : Engine) (inclusion : Inclusion) : Still view (Render.arguments engine inclusion) :=
  .bind (.evaluate _) fun name ↦ .bind (still_of_context_eq (load_context name)) fun _ ↦
    .bind (.evaluate _) fun _ ↦ .bind (.evaluate _) fun _ ↦ .pure _

theorem popScope : Still Context.places Render.popScope := by
  intro drive state
  rw [run_popScope]
  cases state.context.scopes.pop? <;> rfl

theorem enter : Still Context.places (updateContext Context.enter) := by
  intro drive state
  rw [run_enter]
  split <;> rfl

theorem leaveInclude (outer : String) (ended : Except Error Flow) :
    Still Context.places (Render.leaveInclude outer ended) := by
  intro drive state
  rw [run_leaveInclude_pop]
  cases state.context.scopes.pop? <;> rfl

theorem report (error : Error) : Still Context.places (Render.report error) := by
  intro drive state
  rw [run_report]
  dsimp only
  split
  · rfl
  · cases state.context.errorMode <;> rfl

theorem output (tools : Toolbox) (markup : Markup) (span : Span) :
    Still Context.places (Render.output tools markup span) := by
  unfold Render.output
  refine .bind (.evaluate _) fun value ↦ .bind .context fun context ↦ .ite ?_ (.writeValue value _)
  exact .bind (still_of_context_eq fun _ _ ↦ rfl) fun error ↦
    .bind (.modifyContext fun _ ↦ rfl) fun _ ↦ .writeValue value _

theorem ifChanged (text : String) : Still Context.places (Render.ifChanged text) := by
  have hplaces (context : Context) :
      (context.setRegister Registers.changeKey (.text text)).places = context.places := by
    have hloops : Registers.changeKey ≠ Registers.loopKey := by decide
    have hcycles : Registers.changeKey ≠ Registers.cycleKey := by decide
    rw [Context.places, Context.setRegister, Registers.places_put_of_ne hloops, Registers.places_put_of_ne hcycles]
    rfl
  have hnoted : Still Context.places
      (Render.modifyContext fun context ↦ context.setRegister Registers.changeKey (.text text)) := .modifyContext hplaces
  exact .bind .context fun _ ↦ .ite (.bind (still_of_context_eq fun _ _ ↦ rfl) fun _ ↦ hnoted) hnoted

theorem changed {change : Context → Output → Except Fault (Context × Output)}
    (h : ∀ context output changed written, change context output = .ok (changed, written) → view changed = view context) :
    Still view (Render.changed change) := by
  intro drive state
  unfold Render.changed
  rw [run_bind_ok (run_get drive state)]
  cases hchanged : change state.context state.output with
  | error fault => rfl
  | ok result => exact h _ _ _ _ hchanged

end Still

/-! ## What a trace says -/

/-- Whether a traced action does what an action does, and only its arrivals move places. -/
structure Traces (tools : Toolbox) (traced : Traced α) (action : Render α) : Prop where
  run_eq : traced.run = action
  moves : ∀ drive state,
    Moves tools state.context.places (traced.arrivals drive state) (traced.run drive state).2.context.places

/-- To discard a result changes nothing about how an action leaves the state. -/
theorem run_discard (action : Render α) (drive : Drive) (state : RenderState) :
    ((do let _ ← action : Render Unit) drive state).2 = (action drive state).2 := by
  change ((action >>= fun _ ↦ pure ()) drive state).2 = _
  rw [run_bind]
  rcases action drive state with ⟨_ | _, _⟩ <;> rfl

namespace Traces

variable {tools : Toolbox}

theorem quiet {action : Render α} (h : Still Context.places action) : Traces tools (Traced.quiet action) action := ⟨rfl, h⟩

theorem pure (value : α) : Traces tools (Pure.pure value) (Pure.pure value : Render α) := quiet (.pure value)

theorem moving {tag : Placed} {action : Render α}
    (h : ∀ drive state, (tag.move tools drive state).2 = (action drive state).2) :
    Traces tools (Traced.moving tag action) action :=
  ⟨rfl, fun drive state ↦ ⟨rfl, congrArg (fun after : RenderState ↦ after.context.places) (h drive state).symm⟩⟩

theorem bind {first : Traced α} {first' : Render α} {next : α → Traced β} {next' : α → Render β}
    (hfirst : Traces tools first first') (hnext : ∀ value, Traces tools (next value) (next' value)) :
    Traces tools (first >>= next) (first' >>= next') where
  run_eq := by
    rw [← hfirst.run_eq, ← funext fun value ↦ (hnext value).run_eq]
    rfl
  moves drive state := by
    have hmoved := hfirst.moves drive state
    change Moves tools _ (first.arrivals drive state ++ _)
      ((first.run >>= fun value ↦ (next value).run) drive state).2.context.places
    rw [run_bind]
    rcases hrun : first.run drive state with ⟨failure | value, after⟩
    · rw [hrun] at hmoved
      exact hmoved.append rfl
    · rw [hrun] at hmoved
      exact hmoved.append ((hnext value).moves drive after)

/-- Something is done before a traced action. -/
theorem quiet_bind {action : Render α} {next : α → Traced β} {next' : α → Render β} (h : Still Context.places action)
    (hnext : ∀ value, Traces tools (next value) (next' value)) :
    Traces tools (Traced.quiet action >>= next) (action >>= next') :=
  (quiet h).bind hnext

theorem change_bind {change : Context → Context} {next : Unit → Traced β} {next' : Unit → Render β}
    (hchange : ∀ context, (change context).places = context.places) (hnext : Traces tools (next ()) (next' ())) :
    Traces tools (Traced.quiet (modifyContext change) >>= next) (modifyContext change >>= next') :=
  quiet_bind (.modifyContext hchange) fun _ ↦ hnext

theorem write_bind (text : String) {next : Unit → Traced β} {next' : Unit → Render β}
    (hnext : Traces tools (next ()) (next' ())) :
    Traces tools (Traced.quiet (write text) >>= next) (write text >>= next') :=
  quiet_bind (still_of_context_eq fun _ _ ↦ rfl) fun _ ↦ hnext

theorem ite {condition : Prop} [Decidable condition] {first second : Traced α} {first' second' : Render α}
    (hfirst : Traces tools first first') (hsecond : Traces tools second second') :
    Traces tools (if condition then first else second) (if condition then first' else second') := by
  split
  · exact hfirst
  · exact hsecond

theorem attempt {traced : Traced α} {action : Render α} (h : Traces tools traced action) :
    Traces tools traced.attempt (Render.attempt action) where
  run_eq := congrArg Render.attempt h.run_eq
  moves drive state := by
    have hmoved := h.moves drive state
    change Moves tools _ (traced.arrivals drive state) (Render.attempt traced.run drive state).2.context.places
    rw [run_attempt]
    rcases hrun : traced.run drive state with ⟨(error | _) | value, after⟩ <;> rwa [hrun] at hmoved

theorem atOnce {traced : Traced α} {action : Render α} (h : Traces tools traced action) :
    Traces tools traced.atOnce (Render.atOnce action) where
  run_eq := congrArg Render.atOnce h.run_eq
  moves drive state := by
    have hmoved := h.moves .blocking state
    change Moves tools _ (traced.arrivals .blocking state) (Render.atOnce traced.run drive state).2.context.places
    unfold Render.atOnce
    rcases hrun : traced.run .blocking state with ⟨(error | _) | value, after⟩ <;> rwa [hrun] at hmoved

/-! ## Constructs -/

theorem guarded (span : Span) {traced : Traced Flow} {action : Render Flow} (h : Traces tools traced action) :
    Traces tools (Traced.guarded span traced) (Render.guarded span action) := by
  refine h.attempt.bind fun ended ↦ ?_
  cases ended with
  | ok flow => exact pure flow
  | error error =>
    exact quiet_bind (still_of_context_eq fun _ _ ↦ rfl) fun _ ↦ quiet_bind (.report _) fun _ ↦ pure _

theorem captured {traced : Traced Flow} {action : Render Flow} (h : Traces tools traced action) :
    Traces tools (Traced.captured traced) (Render.captured action) :=
  quiet_bind (still_of_context_eq fun _ _ ↦ rfl) fun _ ↦ h.attempt.bind fun ended ↦
    quiet_bind (still_of_context_eq fun _ _ ↦ rfl) fun _ ↦ quiet_bind (.settle ended) fun _ ↦ pure _

theorem eachItem {visit : Nat → Value → Traced Flow} {visit' : Nat → Value → Render Flow}
    (h : ∀ index item, Traces tools (visit index item) (visit' index item)) :
    ∀ index items, Traces tools (Traced.eachItem visit index items) (Render.eachItem visit' index items)
  | index, [] => by
    rw [Traced.eachItem, Render.eachItem]
    exact pure _
  | index, item :: rest => by
    rw [Traced.eachItem, Render.eachItem]
    refine (h index item).bind fun flow ↦ ?_
    cases flow with
    | breakLoop => exact pure _
    | completed => exact eachItem h (index + 1) rest
    | continueLoop => exact eachItem h (index + 1) rest

theorem inLoop (objectName : String) (object : Value) {visits : Traced Unit} {visits' : Render Unit}
    (h : Traces tools visits visits') :
    Traces tools (Traced.inLoop objectName object visits) (Render.inLoop objectName object visits') :=
  change_bind (fun _ ↦ rfl) (h.attempt.bind fun _ ↦
    change_bind (fun _ ↦ rfl) (quiet_bind .popScope fun _ ↦ pure _))

theorem visitLoop (header : LoopHeader) (items : List Value) {body : Traced Flow} {body' : Render Flow}
    (h : Traces tools body body') :
    Traces tools (Traced.visitLoop header items body) (Render.visitLoop header items body') := by
  refine quiet_bind (.evaluate _) fun parent ↦ quiet_bind (still_of_context_eq fun _ _ ↦ rfl) fun made ↦
    (inLoop _ _ (eachItem (fun index item ↦ ?_) 0 items)).bind fun ended ↦ ?_
  · exact quiet_bind (still_of_context_eq fun _ _ ↦ rfl) fun _ ↦ change_bind (fun _ ↦ rfl) h
  · exact quiet_bind (.settle ended) fun _ ↦ pure _

theorem loop (header : LoopHeader) {body otherwise : Traced Flow} {body' otherwise' : Render Flow}
    (hbody : Traces tools body body') (hotherwise : Traces tools otherwise otherwise') :
    Traces tools (Traced.loop tools header body otherwise) (Render.loop tools header body' otherwise') := by
  rw [loop_eq_window]
  exact (moving fun _ _ ↦ run_discard _ _ _).bind fun items ↦ ite hotherwise (visitLoop header _ hbody)

theorem table (header : TableHeader) {body : Traced Flow} {body' : Render Flow} (h : Traces tools body body') :
    Traces tools (Traced.table tools header body) (Render.table tools header body') := by
  refine quiet_bind (.evaluate _) fun collection ↦ quiet_bind (.evaluate _) fun offset ↦
    quiet_bind (.evaluate _) fun limit ↦ quiet_bind (.evaluate _) fun columns ↦
    quiet_bind (still_of_context_eq fun _ _ ↦ rfl) fun made ↦ write_bind _ ?_
  refine (inLoop _ _ (eachItem (fun index item ↦ ?_) 0 _)).bind fun ended ↦
    write_bind _ (quiet_bind (.settle ended) fun _ ↦ pure _)
  refine quiet_bind (still_of_context_eq fun _ _ ↦ rfl) fun _ ↦ change_bind (fun _ ↦ rfl) (write_bind _
    (h.attempt.bind fun ended ↦ write_bind _ ?_))
  exact ite (write_bind _ (quiet (.settle ended))) (quiet (.settle ended))

theorem eachBound {bind : Value → Traced Flow} {bind' : Value → Render Flow}
    (h : ∀ item, Traces tools (bind item) (bind' item)) :
    ∀ items, Traces tools (Traced.eachBound bind items) (Render.eachBound bind' items)
  | [] => by
    rw [Traced.eachBound, Render.eachBound]
    exact pure _
  | item :: rest => by
    rw [Traced.eachBound, Render.eachBound]
    refine (h item).bind fun flow ↦ ?_
    cases flow with
    | completed => exact eachBound h rest
    | breakLoop => exact pure _
    | continueLoop => exact pure _

theorem bound (binding : Option Binding) (name : String) (value : Option Value) {body : Traced Flow}
    {body' : Render Flow} (h : Traces tools body body') :
    Traces tools (Traced.bound binding name value body) (Render.bound binding name value body') := by
  have hbind (value : Value) : Traces tools (do
      modifyContext fun context ↦ context.set name value
      body) (do
      modifyContext fun context ↦ context.set name value
      body') := change_bind (fun _ ↦ rfl) h
  unfold Traced.bound Render.bound
  cases value with
  | none => rcases binding with _ | (_ | _) <;> exact h
  | some value =>
    rcases binding with _ | (_ | _)
    · exact hbind value
    · exact hbind value
    · exact ite (eachBound hbind _) (hbind value)

theorem inInclude (name : String) (frame : Entries String Value) {body : Traced Flow} {body' : Render Flow}
    (h : Traces tools body body') :
    Traces tools (Traced.inInclude name frame body) (Render.inInclude name frame body') :=
  quiet_bind .enter fun _ ↦ quiet_bind .context fun _ ↦ change_bind (fun _ ↦ rfl) (h.attempt.bind fun _ ↦
    quiet (.leaveInclude _ _))

theorem included {engine : Engine} {deeper : Block → Traced Flow} {deeper' : Block → Render Flow}
    (h : ∀ block, Traces tools (deeper block) (deeper' block)) (inclusion : Inclusion) :
    Traces tools (Traced.included engine deeper inclusion) (Render.included engine deeper' inclusion) := by
  rw [included_eq_arguments]
  exact quiet_bind (.arguments engine inclusion) fun part ↦
    inInclude part.name part.frame (bound _ _ part.value (h part.block))

theorem script {body : Traced Unit} {body' : Render Unit} (h : Traces tools body body') :
    ∀ script : Script, script.KeepsPlaces → Traces tools (Traced.script body script) (script.run body')
  | .done, _ => pure ()
  | .raise _, _ => quiet (still_of_context_eq fun _ _ ↦ rfl)
  | .act change next, hkeeps => by
    rw [run_act, Traced.script]
    exact quiet_bind (.changed hkeeps.1) fun _ ↦ script h next hkeeps.2
  | .wait next, hkeeps => by
    rw [Script.run, Traced.script]
    exact quiet_bind (.evaluate _) fun _ ↦ script h next hkeeps
  | .body isAtOnce next, hkeeps => by
    rw [Script.run, Traced.script]
    exact (ite h.atOnce h).attempt.bind fun ended ↦ script h (next ended) (hkeeps ended)

theorem custom {engine : Engine} (hkeeps : engine.KeepsPlaces) (registration : Nat) (name markup : String)
    {body : Traced Flow} {body' : Render Flow} (h : Traces tools body body') :
    Traces tools (Traced.custom engine registration name markup body)
      (Render.custom engine registration name markup body') := by
  unfold Traced.custom Render.custom
  cases hfound : engine.tag? registration with
  | none => exact pure _
  | some tag =>
    have hbody : Traces tools (do let _ ← body) (do let _ ← body') := h.bind fun _ ↦ pure ()
    exact (script hbody _ (hkeeps registration tag hfound name markup)).bind fun _ ↦ pure _

/-! ## Blocks -/

section

-- The linter does not see which of the mutual theorems use the assumptions through the others.
set_option linter.unusedSectionVars false

variable {engine : Engine} {inclusions : Inclusion → Traced Flow} {inclusions' : Inclusion → Render Flow}
  (hkeeps : engine.KeepsPlaces)
  (hincludes : ∀ inclusion, Traces engine.tools (inclusions inclusion) (inclusions' inclusion))

include hkeeps hincludes

mutual

theorem nodes : ∀ body, Traces engine.tools (Traced.nodes engine inclusions body) (Render.nodes engine inclusions' body)
  | [] => by
    rw [Traced.nodes, Render.nodes]
    exact pure _
  | first :: rest => by
    rw [Traced.nodes, Render.nodes]
    refine quiet_bind .checkCancelled fun _ ↦ (node first).bind fun flow ↦ ?_
    cases flow with
    | completed => exact nodes rest
    | breakLoop => exact pure _
    | continueLoop => exact pure _

theorem node : ∀ node, Traces engine.tools (Traced.node engine inclusions node) (Render.node engine inclusions' node)
  | .text content => by
    rw [Traced.node, Render.node]
    exact write_bind content (pure _)
  | .output markup span => by
    rw [Traced.node, Render.node]
    exact guarded span (quiet (.output _ markup span))
  | .tag name markup span action => by
    rw [Traced.node, Render.node]
    exact quiet_bind .context fun _ ↦ ite (guarded span (quiet (still_of_context_eq fun _ _ ↦ rfl)))
      (guarded span (tag name markup action))

theorem tag (name markup : String) :
    ∀ action, Traces engine.tools (Traced.tag engine inclusions name markup action)
      (Render.tag engine inclusions' name markup action)
  | .assign target value => by
    rw [Traced.tag, Render.tag]
    exact quiet_bind (.evaluate _) fun _ ↦ change_bind (fun _ ↦ rfl) (pure _)
  | .capture target body => by
    rw [Traced.tag, Render.tag]
    exact (captured (nodes body)).bind fun _ ↦ change_bind (fun _ ↦ rfl) (pure _)
  | .case subject whens otherwise => by
    rw [Traced.tag, Render.tag]
    exact quiet_bind (.evaluate _) fun value ↦ cases value (optional otherwise) false whens
  | .comment => by
    rw [Traced.tag, Render.tag]
    exact pure _
  | .cycle group values => by
    rw [Traced.tag, Render.tag]
    exact moving fun _ _ ↦ run_discard _ _ _
  | .increment name => by
    rw [Traced.tag, Render.tag]
    exact quiet_bind (.bind .context fun _ ↦ .pure _) fun _ ↦ write_bind _ (change_bind (fun _ ↦ rfl) (pure _))
  | .decrement name => by
    rw [Traced.tag, Render.tag]
    exact quiet_bind (.bind .context fun _ ↦ .pure _) fun _ ↦ write_bind _ (change_bind (fun _ ↦ rfl) (pure _))
  | .loop header body otherwise => by
    rw [Traced.tag, Render.tag]
    exact loop header (nodes body) (optional otherwise)
  | .breakLoop => by
    rw [Traced.tag, Render.tag]
    exact quiet (.leaveBody _)
  | .continueLoop => by
    rw [Traced.tag, Render.tag]
    exact quiet (.leaveBody _)
  | .branch negated conditions otherwise => by
    rw [Traced.tag, Render.tag]
    exact branches (optional otherwise) negated conditions
  | .ifChanged body => by
    rw [Traced.tag, Render.tag]
    exact (captured (nodes body)).bind fun _ ↦ quiet_bind (.ifChanged _) fun _ ↦ pure _
  | .include inclusion => by
    rw [Traced.tag, Render.tag]
    exact hincludes inclusion
  | .table header body => by
    rw [Traced.tag, Render.tag]
    exact table header (nodes body)
  | .custom registration body => by
    rw [Traced.tag, Render.tag]
    exact custom hkeeps registration name markup (optional body)

theorem optional :
    ∀ body, Traces engine.tools (Traced.optional engine inclusions body) (Render.optional engine inclusions' body)
  | none => by
    rw [Traced.optional, Render.optional]
    exact pure _
  | some body => by
    rw [Traced.optional, Render.optional]
    exact nodes body

/-- The first branch whose condition holds is rendered with its arrivals. -/
theorem branches {otherwise : Traced Flow} {otherwise' : Render Flow}
    (hotherwise : Traces engine.tools otherwise otherwise') :
    ∀ (negated : Bool) (conditions : List (Condition × List Node)),
      Traces engine.tools (Traced.branches engine.tools otherwise negated (Traced.branchBodies engine inclusions conditions))
        (Render.branches engine.tools otherwise' negated (Render.branchBodies engine inclusions' conditions))
  | negated, [] => by
    rw [Traced.branchBodies, Render.branchBodies, Traced.branches, Render.branches]
    exact hotherwise
  | negated, (condition, body) :: rest => by
    rw [Traced.branchBodies, Render.branchBodies, Traced.branches, Render.branches]
    exact quiet_bind (.evaluate _) fun _ ↦ ite (nodes body) (branches hotherwise false rest)

/-- The blocks one of whose values equals the subject are rendered with their arrivals. -/
theorem cases (subject : Value) {otherwise : Traced Flow} {otherwise' : Render Flow}
    (hotherwise : Traces engine.tools otherwise otherwise') :
    ∀ (matched : Bool) (whens : List (List Expr × List Node)),
      Traces engine.tools
        (Traced.cases engine.tools subject otherwise matched (Traced.whenBodies engine inclusions whens))
        (Render.cases engine.tools subject otherwise' matched (Render.whenBodies engine inclusions' whens))
  | matched, [] => by
    rw [Traced.whenBodies, Render.whenBodies, Traced.cases, Render.cases]
    exact ite (pure _) hotherwise
  | matched, (values, body) :: rest => by
    rw [Traced.whenBodies, Render.whenBodies, Traced.cases, Render.cases]
    refine quiet_bind (.evaluate _) fun _ ↦
      ite ((nodes body).bind fun flow ↦ ?_) (cases subject hotherwise matched rest)
    cases flow with
    | completed => exact cases subject hotherwise true rest
    | breakLoop => exact pure _
    | continueLoop => exact pure _

end

end

theorem blockWithin {engine : Engine} (hkeeps : engine.KeepsPlaces) :
    ∀ remaining body, Traces engine.tools (Traced.blockWithin engine remaining body) (Render.blockWithin engine remaining body)
  | 0, body => by
    rw [Traced.blockWithin, Render.blockWithin]
    exact nodes hkeeps (included fun _ ↦ quiet (still_of_context_eq fun _ _ ↦ rfl)) body
  | remaining + 1, body => by
    rw [Traced.blockWithin, Render.blockWithin]
    exact nodes hkeeps (included fun block ↦ blockWithin hkeeps remaining block) body

/-- The traced render of a block does what the render does, and between its arrivals the places stay as they are. -/
theorem block {engine : Engine} (hkeeps : engine.KeepsPlaces) (body : Block) :
    Traces engine.tools (Traced.block engine body) (Render.block engine body) :=
  quiet_bind .context fun _ ↦ blockWithin hkeeps _ body

end Traces

end Render

end Liquid
