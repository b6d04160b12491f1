import Liquid.Proofs.Render.Caching
import Liquid.Proofs.Render.Composition

/-!
# Properties of all actions

A render is put together from steps that neither wait nor touch the kept trees, from waiting, and from loading trees: by
sequences, by attempts, and by rendering something at once. A property that the steps have and that the combinations pass on
holds of the render of every tree, whatever the filters and the tags of the host do.
-/

namespace Liquid.Render

open Template

variable {α β : Type}

/-- Evaluations in a row are evaluated one after the other. -/
theorem evaluate_bind (computation : Eval α) (next : α → Eval β) :
    evaluate (computation >>= next) = evaluate computation >>= fun value ↦ evaluate (next value) := by
  funext drive state
  rw [run_evaluate, Eval.run_bind, run_bind, run_evaluate]
  rcases computation drive state.context state.shared with ⟨failure | value, after⟩
  · rfl
  · dsimp only
    rw [run_evaluate]

/-- An action that does not depend on how the render is driven, never waits and leaves the kept trees alone. -/
def IsQuiet (action : Render α) : Prop :=
  ∀ state, ∃ (ended : Except Error α) (after : RenderState),
    (∀ drive, action drive state = (ended.mapError Failure.error, after)) ∧ after.includes = state.includes ∧
      after.shared.suspensions = state.shared.suspensions

namespace IsQuiet

theorem pure (value : α) : IsQuiet (Pure.pure value : Render α) :=
  fun state ↦ ⟨.ok value, state, fun _ ↦ rfl, rfl, rfl⟩

theorem raise (error : Error) : IsQuiet (Render.raise error : Render α) :=
  fun state ↦ ⟨.error error, state, fun _ ↦ rfl, rfl, rfl⟩

theorem get : IsQuiet (MonadState.get : Render RenderState) :=
  fun state ↦ ⟨.ok state, state, fun _ ↦ rfl, rfl, rfl⟩

theorem modifyContext (change : Context → Context) : IsQuiet (Render.modifyContext change) :=
  fun _ ↦ ⟨.ok (), _, fun _ ↦ rfl, rfl, rfl⟩

theorem modifyOutput (change : Output → Output) : IsQuiet (Render.modifyOutput change) :=
  fun _ ↦ ⟨.ok (), _, fun _ ↦ rfl, rfl, rfl⟩

theorem endCapture : IsQuiet Render.endCapture := fun _ ↦ ⟨.ok _, _, fun _ ↦ rfl, rfl, rfl⟩

theorem newObject (object : Object) : IsQuiet (Render.newObject object) := fun _ ↦ ⟨.ok _, _, fun _ ↦ rfl, rfl, rfl⟩

theorem advance (id index : Nat) : IsQuiet (Render.advance id index) := fun _ ↦ ⟨.ok (), _, fun _ ↦ rfl, rfl, rfl⟩

theorem checkCancelled : IsQuiet Render.checkCancelled := by
  intro state
  refine ⟨if state.shared.counts.cancelled = some true then .error (.of .cancelled) else .ok (), state, fun drive ↦ ?_,
    rfl, rfl⟩
  rw [run_checkCancelled]
  split <;> rfl

theorem popScope : IsQuiet Render.popScope := by
  intro state
  cases hpopped : state.context.scopes.pop? with
  | none =>
    refine ⟨.error (.of .unmatchedPop), state, fun drive ↦ ?_, rfl, rfl⟩
    rw [run_popScope, hpopped]
    rfl
  | some popped =>
    refine ⟨.ok (), { state with context := { state.context with scopes := popped.2 } }, fun drive ↦ ?_, rfl, rfl⟩
    rw [run_popScope, hpopped]
    rfl

theorem enter : IsQuiet (updateContext Context.enter) := by
  intro state
  by_cases hdeep : state.context.depth ≥ state.context.maxDepth
  · refine ⟨.error (.of (.tooDeep state.context.maxDepth)), state, fun drive ↦ ?_, rfl, rfl⟩
    rw [run_enter, if_pos hdeep]
    rfl
  · refine ⟨.ok (), { state with context := { state.context with depth := state.context.depth + 1 } }, fun drive ↦ ?_,
      rfl, rfl⟩
    rw [run_enter, if_neg hdeep]
    rfl

theorem changed (change : Context → Output → Except Fault (Context × Output)) : IsQuiet (Render.changed change) := by
  intro state
  cases hchanged : change state.context state.output with
  | error fault =>
    refine ⟨.error (.of fault), state, fun drive ↦ ?_, rfl, rfl⟩
    unfold Render.changed
    rw [run_bind_ok (run_get drive state), hchanged]
    rfl
  | ok result =>
    refine ⟨.ok (), { state with context := result.1, output := result.2 }, fun drive ↦ ?_, rfl, rfl⟩
    unfold Render.changed
    rw [run_bind_ok (run_get drive state), hchanged]
    rfl

theorem query (explain : Fault → Error) (query : Query α) : IsQuiet (evaluate (Eval.query explain query)) := by
  intro state
  refine ⟨(query state.context state.shared.counts).1.mapError explain,
    { state with shared := { state.shared with counts := (query state.context state.shared.counts).2 } }, fun drive ↦ ?_,
    rfl, rfl⟩
  rw [run_evaluate, Eval.run_query]
  cases (query state.context state.shared.counts).1 <;> rfl

end IsQuiet

/-- A property of quiet actions, of waiting and of loading that combinations of actions have as soon as their parts do. -/
structure IsClosed (engine : Engine) (good : ∀ α : Type, Render α → Prop) : Prop where
  quiet : ∀ {α : Type} {action : Render α}, IsQuiet action → good α action
  bind : ∀ {α β : Type} {action : Render α} {next : α → Render β}, good α action →
    (∀ value, good β (next value)) → good β (action >>= next)
  attempt : ∀ {α : Type} {action : Render α}, good α action → good (Except Error α) (Render.attempt action)
  atOnce : ∀ {α : Type} {action : Render α}, good α action → good α (Render.atOnce action)
  wait : ∀ times, good Unit (evaluate (Eval.wait times))
  load : ∀ name, good Block (Render.load engine name)

namespace IsClosed

variable {engine : Engine} {good : ∀ α : Type, Render α → Prop} {tools : Toolbox}

/-! ## Basic actions -/

theorem pure (rules : IsClosed engine good) (value : α) : good α (Pure.pure value) := rules.quiet (.pure value)

theorem raise (rules : IsClosed engine good) (error : Error) : good α (Render.raise error) := rules.quiet (.raise error)

theorem settle (rules : IsClosed engine good) (ended : Except Error α) : good α (Render.settle ended) := by
  cases ended with
  | ok value => exact rules.pure value
  | error error => exact rules.raise error

theorem context_bind (rules : IsClosed engine good) {next : Context → Render β} (h : ∀ context, good β (next context)) :
    good β (Render.context >>= next) :=
  rules.bind (rules.bind (rules.quiet .get) fun _ ↦ rules.pure _) h

theorem change_bind (rules : IsClosed engine good) (change : Context → Context) {next : Unit → Render β}
    (h : good β (next ())) : good β (modifyContext change >>= next) :=
  rules.bind (rules.quiet (.modifyContext change)) fun _ ↦ h

theorem write_bind (rules : IsClosed engine good) (text : String) {next : Unit → Render β} (h : good β (next ())) :
    good β (write text >>= next) :=
  rules.bind (rules.quiet (.modifyOutput _)) fun _ ↦ h

theorem ite (_rules : IsClosed engine good) {condition : Prop} [Decidable condition] {first second : Render α}
    (hfirst : good α first) (hsecond : good α second) : good α (if condition then first else second) := by
  split
  · exact hfirst
  · exact hsecond

/-! ## Evaluations -/

theorem query (rules : IsClosed engine good) (explain : Fault → Error) (query : Query α) :
    good α (evaluate (Eval.query explain query)) :=
  rules.quiet (.query explain query)

/-- The evaluations of the language have a closed property. -/
theorem evaluations (rules : IsClosed engine good) (tools : Toolbox) :
    Eval.Compositional tools fun α computation ↦ good α (evaluate computation) where
  pure value := rules.pure value
  fail _ := rules.raise _
  bind h hnext := by
    rw [Render.evaluate_bind]
    exact rules.bind h hnext
  context_bind _ hnext := by
    rw [Render.evaluate_bind]
    exact rules.bind (rules.quiet fun state ↦ ⟨.ok state.context, state, fun _ ↦ rfl, rfl, rfl⟩) hnext
  counting _ := rules.query _ _
  textOf _ := rules.query _ _
  wait := rules.wait
  converts _ _ := rules.query _ _
  calls _ _ := rules.query _ _
  misses name := by
    unfold Liquid.missingPath
    rw [Render.evaluate_bind]
    refine rules.bind (rules.quiet fun state ↦ ⟨.ok state.context, state, fun _ ↦ rfl, rfl, rfl⟩) fun context ↦ ?_
    split
    · exact rules.raise _
    · exact rules.pure _

/-! ## Errors and outputs -/

theorem report (rules : IsClosed engine good) (error : Error) : good Unit (Render.report error) := by
  have hrecorded : good Unit (Render.record error) := rules.quiet (.modifyContext _)
  unfold Render.report
  refine rules.change_bind _ (rules.ite (rules.raise error) (rules.context_bind fun context ↦ ?_))
  cases context.errorMode with
  | suppress => exact hrecorded
  | display => exact rules.write_bind _ hrecorded
  | rethrow => exact rules.raise error

theorem located (rules : IsClosed engine good) (error : Error) (span : Span) : good Error (Render.located error span) :=
  rules.context_bind fun _ ↦ rules.pure _

theorem guarded (rules : IsClosed engine good) (span : Span) {action : Render Flow} (h : good Flow action) :
    good Flow (Render.guarded span action) := by
  unfold Render.guarded
  refine rules.bind (rules.attempt h) fun ended ↦ ?_
  cases ended with
  | ok flow => exact rules.pure flow
  | error error =>
    exact rules.bind (rules.located error span) fun _ ↦ rules.bind (rules.report _) fun _ ↦ rules.pure _

theorem writeValue (rules : IsClosed engine good) (value : Value) (flow : Flow) : good Flow (do
    let state ← get
    write (state.context.formatValue state.shared.counts.tallies value)
    return flow) :=
  rules.bind (rules.quiet .get) fun _ ↦ rules.write_bind _ (rules.pure flow)

theorem output (rules : IsClosed engine good) (markup : Markup) (span : Span) :
    good Flow (Render.output tools markup span) := by
  unfold Render.output
  refine rules.bind ((rules.evaluations _).markup markup) fun value ↦ rules.context_bind fun context ↦
    rules.ite ?_ (rules.writeValue value _)
  exact rules.bind (rules.located _ span) fun error ↦ rules.change_bind _ (rules.writeValue value _)

theorem cycle (rules : IsClosed engine good) (group : Option Expr) (values : List Expr) :
    good Flow (Render.cycle tools group values) := by
  unfold Render.cycle
  refine rules.ite (rules.pure _) ?_
  refine rules.bind ((rules.evaluations _).cycleKey group values) fun key ↦ rules.context_bind fun context ↦
    rules.change_bind _ ?_
  split
  · exact rules.pure _
  · exact rules.bind ((rules.evaluations _).expr _) fun value ↦ rules.writeValue value _

/-! ## Captures and branches -/

theorem captured (rules : IsClosed engine good) {body : Render Flow} (h : good Flow body) :
    good (String × Flow) (Render.captured body) := by
  unfold Render.captured
  refine rules.bind (rules.quiet (.modifyOutput _)) fun _ ↦ rules.bind (rules.attempt h) fun ended ↦ ?_
  exact rules.bind (rules.quiet .endCapture) fun _ ↦ rules.bind (rules.settle ended) fun _ ↦ rules.pure _

theorem ifChanged (rules : IsClosed engine good) (text : String) : good Unit (Render.ifChanged text) := by
  have hnoted : good Unit (modifyContext fun context ↦ context.setRegister Registers.changeKey (.text text)) :=
    rules.quiet (.modifyContext _)
  unfold Render.ifChanged
  exact rules.context_bind fun context ↦ rules.ite (rules.write_bind _ hnoted) hnoted

theorem branches (rules : IsClosed engine good) {otherwise : Render Flow} (hotherwise : good Flow otherwise) :
    ∀ (negated : Bool) (conditions : List (Condition × Render Flow)), (∀ branch ∈ conditions, good Flow branch.2) →
      good Flow (Render.branches tools otherwise negated conditions)
  | negated, [], _ => by
    rw [Render.branches]
    exact hotherwise
  | negated, (condition, body) :: rest, h => by
    rw [List.forall_mem_cons] at h
    rw [Render.branches]
    exact rules.bind ((rules.evaluations _).condition condition) fun _ ↦
      rules.ite h.1 (rules.branches hotherwise false rest h.2)

theorem cases (rules : IsClosed engine good) (subject : Value) {otherwise : Render Flow} (hotherwise : good Flow otherwise) :
    ∀ (matched : Bool) (whens : List (List Expr × Render Flow)), (∀ branch ∈ whens, good Flow branch.2) →
      good Flow (Render.cases tools subject otherwise matched whens)
  | matched, [], _ => by
    rw [Render.cases]
    exact rules.ite (rules.pure _) hotherwise
  | matched, (values, body) :: rest, h => by
    rw [List.forall_mem_cons] at h
    rw [Render.cases]
    refine rules.bind ((rules.evaluations _).anyEqual subject values) fun _ ↦
      rules.ite (rules.bind h.1 fun flow ↦ ?_) (rules.cases subject hotherwise matched rest h.2)
    cases flow with
    | completed => exact rules.cases subject hotherwise true rest h.2
    | breakLoop => exact rules.pure _
    | continueLoop => exact rules.pure _

/-! ## Loops -/

theorem eachItem (rules : IsClosed engine good) {visit : Nat → Value → Render Flow}
    (h : ∀ index item, good Flow (visit index item)) : ∀ index items, good Unit (Render.eachItem visit index items)
  | index, [] => by
    rw [Render.eachItem]
    exact rules.pure _
  | index, item :: rest => by
    rw [Render.eachItem]
    refine rules.bind (h index item) fun flow ↦ ?_
    cases flow with
    | breakLoop => exact rules.pure _
    | completed => exact rules.eachItem h (index + 1) rest
    | continueLoop => exact rules.eachItem h (index + 1) rest

theorem inLoop (rules : IsClosed engine good) (objectName : String) (object : Value) {visits : Render Unit}
    (h : good Unit visits) : good (Except Error Unit) (Render.inLoop objectName object visits) := by
  unfold Render.inLoop
  refine rules.change_bind _ (rules.bind (rules.attempt h) fun ended ↦ rules.change_bind _ ?_)
  exact rules.bind (rules.quiet .popScope) fun _ ↦ rules.pure ended

theorem visitLoop (rules : IsClosed engine good) (header : LoopHeader) (items : List Value) {body : Render Flow}
    (h : good Flow body) : good Flow (Render.visitLoop header items body) := by
  unfold Render.visitLoop
  refine rules.bind (rules.query _ _) fun parent ↦ rules.bind (rules.quiet (.newObject _)) fun made ↦
    rules.bind (rules.inLoop _ _ (rules.eachItem (fun index item ↦ ?_) 0 items)) fun ended ↦ ?_
  · exact rules.bind (rules.quiet (.advance _ index)) fun _ ↦ rules.change_bind _ h
  · exact rules.bind (rules.settle ended) fun _ ↦ rules.pure _

theorem loopOffset (rules : IsClosed engine good) (header : LoopHeader) :
    good Nat (Render.loopOffset tools header) := by
  unfold Render.loopOffset
  split
  · exact rules.context_bind fun _ ↦ rules.pure _
  · exact (rules.evaluations _).offsetArgument _
  · exact rules.pure _

theorem loop (rules : IsClosed engine good) (header : LoopHeader) {body otherwise : Render Flow} (hbody : good Flow body)
    (hotherwise : good Flow otherwise) : good Flow (Render.loop tools header body otherwise) := by
  unfold Render.loop
  refine rules.bind ((rules.evaluations _).expr _) fun collection ↦ rules.bind (rules.loopOffset header) fun offset ↦
    rules.bind ((rules.evaluations _).loopArgument _) fun limit ↦ rules.change_bind _ ?_
  exact rules.ite hotherwise (rules.visitLoop header _ hbody)

theorem table (rules : IsClosed engine good) (header : TableHeader) {body : Render Flow} (h : good Flow body) :
    good Flow (Render.table tools header body) := by
  unfold Render.table
  refine rules.bind ((rules.evaluations _).expr _) fun collection ↦
    rules.bind ((rules.evaluations _).offsetArgument _) fun offset ↦
    rules.bind ((rules.evaluations _).loopArgument _) fun limit ↦
    rules.bind ((rules.evaluations _).loopArgument _) fun columns ↦
    rules.bind (rules.quiet (.newObject _)) fun made ↦ rules.write_bind _ ?_
  refine rules.bind (rules.inLoop _ _ (rules.eachItem (fun index item ↦ ?_) 0 _)) fun ended ↦
    rules.write_bind _ (rules.bind (rules.settle ended) fun _ ↦ rules.pure _)
  refine rules.bind (rules.quiet (.advance _ index)) fun _ ↦ rules.change_bind _ (rules.write_bind _
    (rules.bind (rules.attempt h) fun ended ↦ rules.write_bind _ ?_))
  exact rules.ite (rules.write_bind _ (rules.settle ended)) (rules.settle ended)

/-! ## Includes and scripts -/

theorem eachBound (rules : IsClosed engine good) {bind : Value → Render Flow} (h : ∀ item, good Flow (bind item)) :
    ∀ items, good Flow (Render.eachBound bind items)
  | [] => by
    rw [Render.eachBound]
    exact rules.pure _
  | item :: rest => by
    rw [Render.eachBound]
    refine rules.bind (h item) fun flow ↦ ?_
    cases flow with
    | completed => exact rules.eachBound h rest
    | breakLoop => exact rules.pure _
    | continueLoop => exact rules.pure _

theorem bound (rules : IsClosed engine good) (binding : Option Binding) (name : String) (value : Option Value)
    {body : Render Flow} (h : good Flow body) : good Flow (Render.bound binding name value body) := by
  have hbind (value : Value) : good Flow (do
      modifyContext fun context ↦ context.set name value
      body) := rules.change_bind _ h
  unfold Render.bound
  split
  · exact rules.ite (rules.eachBound hbind _) (hbind _)
  · exact hbind _
  · exact h

theorem inInclude (rules : IsClosed engine good) (name : String) (frame : Entries String Value) {body : Render Flow}
    (h : good Flow body) : good Flow (Render.inInclude name frame body) := by
  unfold Render.inInclude
  refine rules.bind (rules.quiet .enter) fun _ ↦ rules.context_bind fun context ↦
    rules.change_bind _ (rules.bind (rules.attempt h) fun ended ↦ rules.change_bind _ ?_)
  exact rules.bind (rules.attempt (rules.quiet .popScope)) fun popped ↦
    rules.change_bind _ (rules.bind (rules.settle popped) fun _ ↦ rules.settle ended)

theorem included (rules : IsClosed engine good) {deeper : Block → Render Flow} (h : ∀ block, good Flow (deeper block))
    (inclusion : Inclusion) : good Flow (Render.included engine deeper inclusion) := by
  unfold Render.included
  refine rules.bind ((rules.evaluations _).templateName _) fun name ↦
    rules.bind (rules.load name) fun block ↦ rules.bind ((rules.evaluations _).boundValue _ _) fun value ↦
    rules.bind ((rules.evaluations _).attributeFrame _ _) fun frame ↦ ?_
  exact rules.inInclude name frame (rules.bound _ _ value (h block))

theorem script (rules : IsClosed engine good) {body : Render Unit} (h : good Unit body) :
    ∀ script : Script, good Unit (script.run body)
  | .done => rules.pure ()
  | .raise error => rules.raise error
  | .act change next => by
    rw [run_act]
    exact rules.bind (rules.quiet (.changed change)) fun _ ↦ rules.script h next
  | .wait next => by
    rw [Script.run]
    exact rules.bind (rules.wait 1) fun _ ↦ rules.script h next
  | .body isAtOnce next => by
    rw [Script.run]
    exact rules.bind (rules.attempt (rules.ite (rules.atOnce h) h)) fun ended ↦ rules.script h (next ended)

theorem custom (rules : IsClosed engine good) (registration : Nat) (name markup : String) {body : Render Flow}
    (h : good Flow body) : good Flow (Render.custom engine registration name markup body) := by
  unfold Render.custom
  split
  · exact rules.bind (rules.script (rules.bind h fun _ ↦ rules.pure ()) _) fun _ ↦ rules.pure _
  · exact rules.pure _

/-! ## Blocks -/

theorem compositional (rules : IsClosed engine good) {deeper : Block → Render Flow} (h : ∀ block, good Flow (deeper block)) :
    Compositional engine (Render.included engine deeper) (fun _ ↦ True) (good Flow) where
  nothing := rules.pure _
  writes content := rules.write_bind content (rules.pure _)
  prints markup span := rules.output markup span
  guards span action h := rules.guarded span h
  refuses name span action h := rules.context_bind fun _ ↦ rules.ite (rules.guarded span (rules.raise _)) h
  inOrder first rest hfirst hrest := by
    refine rules.bind (rules.quiet .checkCancelled) fun _ ↦ rules.bind hfirst fun flow ↦ ?_
    cases flow with
    | completed => exact hrest
    | breakLoop => exact rules.pure _
    | continueLoop => exact rules.pure _
  assigns target value := rules.bind ((rules.evaluations _).markup value) fun _ ↦ rules.change_bind _ (rules.pure _)
  captures target body _ h := rules.bind (rules.captured h) fun _ ↦ rules.change_bind _ (rules.pure _)
  selects subject whens otherwise hwhens hotherwise :=
    rules.bind ((rules.evaluations _).expr subject) fun value ↦ rules.cases value hotherwise false whens hwhens
  cycles group values := rules.cycle group values
  increments name := rules.bind (rules.context_bind fun _ ↦ rules.pure _) fun _ ↦
    rules.write_bind _ (rules.change_bind _ (rules.pure _))
  decrements name := rules.bind (rules.context_bind fun _ ↦ rules.pure _) fun _ ↦
    rules.write_bind _ (rules.change_bind _ (rules.pure _))
  repeats header body otherwise hbody hotherwise := rules.loop header hbody hotherwise
  leaves flow := rules.context_bind fun _ ↦ rules.ite (rules.pure _) (rules.pure _)
  decides negated conditions otherwise hconditions hotherwise := rules.branches hotherwise negated conditions hconditions
  detects body h := rules.bind (rules.captured h) fun _ ↦ rules.bind (rules.ifChanged _) fun _ ↦ rules.pure _
  includes inclusion := rules.included h inclusion
  tabulates header body h := rules.table header h
  runs registration name markup body _ h := rules.custom registration name markup h

theorem blockWithin (rules : IsClosed engine good) :
    ∀ (remaining : Nat) (body : Block), good Flow (Render.blockWithin engine remaining body)
  | 0, body => by
    rw [Render.blockWithin]
    exact (rules.compositional fun _ ↦ rules.context_bind fun _ ↦ rules.raise _).nodes body
      (allTags_of_forall (fun _ ↦ trivial) body)
  | remaining + 1, body => by
    rw [Render.blockWithin]
    exact (rules.compositional fun block ↦ rules.blockWithin remaining block).nodes body
      (allTags_of_forall (fun _ ↦ trivial) body)

/-- The render of every block has a closed property. -/
theorem block (rules : IsClosed engine good) (body : Block) : good Flow (Render.block engine body) :=
  rules.context_bind fun _ ↦ rules.blockWithin _ body

end IsClosed

end Liquid.Render
