import Liquid.Proofs.Evaluation.Filters
import Liquid.Render.Tree

/-!
# Properties of evaluations that every construct passes on

An evaluation is put together from steps: it waits, asks for the text of a value, looks up a name or a member, converts the
arguments of a filter and calls it. A property that these steps have and that sequences pass on holds of the evaluation of
every expression and of every condition.
-/

namespace Liquid

/-- A context without what evaluations do not look at, and as if variables were not strict. -/
def Context.visible (context : Context) : Context :=
  { context with
    name := "", registers := [], errorMode := .suppress, strict := false, disabled := [], format := none, depth := 0,
    maxDepth := 0, loops := 0, recorded := [], reported := [] }

/-- A filter is refused because it does not exist or does not take so many arguments. -/
theorem Toolbox.kind_of_filter_eq_error {tools : Toolbox} {naming : NamingConvention} {name : String} {count : Nat}
    {fault : Fault} (h : tools.filter naming name count = .error fault) : fault.kind ≠ .disabledTag := by
  rw [Toolbox.filter] at h
  split at h
  · cases h
    rintro ⟨⟩
  · split at h
    · cases h
    · cases h
      rintro ⟨⟩

namespace Eval

variable {α β : Type}

theorem run_bind (computation : Eval α) (next : α → Eval β) (drive : Drive) (context : Context) (shared : Shared) :
    (computation >>= next) drive context shared =
      match computation drive context shared with
      | (.ok value, after) => next value drive context after
      | (.error failure, after) => (.error failure, after) := by
  change ExceptT.bindCont (next · drive context) (computation drive context shared).1
    (computation drive context shared).2 = _
  rcases computation drive context shared with ⟨_ | _, _⟩ <;> rfl

/-- A query changes what has been counted, and its fault is explained. -/
theorem run_query (explain : Fault → Error) (query : Query α) (drive : Drive) (context : Context) (shared : Shared) :
    Eval.query explain query drive context shared =
      ((query context shared.counts).1.mapError fun fault ↦ Failure.error (explain fault),
        { shared with counts := (query context shared.counts).2 }) := by
  -- The query stands under the binding of what is shared, which has to be carried out first.
  conv => lhs; whnf
  rcases query context shared.counts with ⟨_ | _, _⟩ <;> rfl

/-- What may change what objects have counted does not fail. -/
theorem run_counting (action : Context → StateM Tallies α) (drive : Drive) (context : Context) (shared : Shared) :
    Eval.counting action drive context shared =
      (.ok (action context shared.counts.tallies).1,
        { shared with counts := { shared.counts with tallies := (action context shared.counts.tallies).2 } }) :=
  run_query Error.of (Query.counting action) drive context shared

/-- The steps of an evaluation have a property of evaluations, and sequences pass it on. What is done with a context may
depend on its visible part only; where variables are strict, this matters to a path that leads nowhere. -/
structure Compositional (tools : Toolbox) (good : ∀ α : Type, Eval α → Prop) : Prop where
  pure : ∀ {α : Type} (value : α), good α (Pure.pure value)
  fail : ∀ {α : Type} {fault : Fault}, fault.kind ≠ .disabledTag → good α (Eval.fail fault)
  bind : ∀ {α β : Type} {computation : Eval α} {next : α → Eval β}, good α computation → (∀ value, good β (next value)) →
    good β (computation >>= next)
  context_bind : ∀ {β : Type} {next : Context → Eval β}, (∀ context, next context = next context.visible) →
    (∀ context, good β (next context)) → good β (Eval.context >>= next)
  counting : ∀ {α : Type} {action : Context → StateM Tallies α}, (∀ context, action context = action context.visible) →
    good α (Eval.counting action)
  textOf : ∀ value, good String (Eval.textOf value)
  wait : ∀ times, good Unit (Eval.wait times)
  converts : ∀ {α : Type} (name : String) (result : Except Fault α),
    good α (Eval.query (Filter.invocationError name) fun _ ↦ liftM result)
  calls : ∀ {naming name count filter}, tools.filter naming name count = .ok filter → ∀ arguments,
    good Value (Eval.query (Filter.invocationError name) (filter.run arguments))
  misses : ∀ name, good Value (missingPath name)

namespace Compositional

variable {tools : Toolbox} {good : ∀ α : Type, Eval α → Prop}

theorem ite (_rules : Compositional tools good) {condition : Prop} [Decidable condition] {first second : Eval α}
    (hfirst : good α first) (hsecond : good α second) : good α (if condition then first else second) := by
  split
  · exact hfirst
  · exact hsecond

theorem compare (rules : Compositional tools good) (name : String) (a b : Value) :
    good Bool (tools.compare name a b) := by
  unfold Toolbox.compare
  refine rules.context_bind (fun _ ↦ rfl) fun context ↦ ?_
  split
  · exact rules.bind (rules.counting fun _ ↦ rfl) fun _ ↦ rules.pure _
  · exact rules.fail nofun

theorem invoke (rules : Compositional tools good) {naming : NamingConvention} {name : String} {count : Nat}
    {filter : Filter} (hchosen : tools.filter naming name count = .ok filter) (values : List Value) :
    good Value (filter.invoke name values) := by
  unfold Filter.invoke
  refine rules.bind (rules.counting fun _ ↦ rfl) fun tallies ↦ rules.bind (rules.converts name _) fun arguments ↦ ?_
  exact rules.bind (rules.wait _) fun _ ↦ rules.calls hchosen arguments

theorem rangeBound (rules : Compositional tools good) (value : Value) : good Int64 (Liquid.rangeBound value) := by
  unfold Liquid.rangeBound
  split
  · exact rules.pure _
  · exact rules.bind (rules.textOf value) fun _ ↦ rules.fail nofun

mutual

/-- The evaluation of an expression has a compositional property. -/
theorem expr (rules : Compositional tools good) : ∀ expr : Expr, good Value (expr.eval tools)
  | .literal value => by
    rw [Expr.eval]
    exact rules.pure value
  | .path segments => by
    rw [Expr.eval]
    exact rules.path _ _ segments
  | .range first last => by
    rw [Expr.eval]
    refine rules.bind (rules.expr first) fun first ↦ rules.bind (rules.rangeBound first) fun _ ↦ ?_
    exact rules.bind (rules.expr last) fun last ↦ rules.bind (rules.rangeBound last) fun _ ↦ rules.pure _
  | .filtered _ primary filters => by
    rw [Expr.eval]
    exact rules.bind (rules.expr primary) fun value ↦ rules.filters filters value

theorem path (rules : Compositional tools good) (name : String) :
    ∀ (current : Option Value) (segments : List Segment), good Value (evalPath tools name current segments)
  | current, [] => by
    rw [evalPath]
    exact rules.pure _
  | current, .member member :: rest => by
    rw [evalPath]
    refine rules.bind (rules.counting fun _ ↦ by cases current <;> rfl) fun next? ↦ ?_
    cases next? with
    | some value => exact rules.path name (some value) rest
    | none => exact rules.misses name
  | current, .index key :: rest => by
    rw [evalPath]
    refine rules.bind (rules.expr key) fun key ↦ rules.bind (rules.counting fun _ ↦ ?_) fun next? ↦ ?_
    · cases current <;> cases key <;> rfl
    · cases next? with
      | some value => exact rules.path name (some value) rest
      | none => exact rules.misses name

theorem filters (rules : Compositional tools good) :
    ∀ (filters : List FilterRequest) (value : Value), good Value (evalFilters tools filters value)
  | [], value => by
    rw [evalFilters]
    exact rules.pure value
  | .mk name texts arguments :: rest, value => by
    rw [evalFilters]
    refine rules.context_bind (fun _ ↦ rfl) fun context ↦ ?_
    cases hchosen : tools.filter context.naming name (arguments.length + 1) with
    | error fault => exact rules.fail (Toolbox.kind_of_filter_eq_error hchosen)
    | ok filter =>
      refine rules.bind (rules.list arguments) fun values ↦ ?_
      exact rules.bind (rules.invoke hchosen _) fun result ↦ rules.filters rest result

theorem list (rules : Compositional tools good) : ∀ exprs : List Expr, good (List Value) (evalList tools exprs)
  | [] => by
    rw [evalList]
    exact rules.pure []
  | expr :: rest => by
    rw [evalList]
    exact rules.bind (rules.expr expr) fun value ↦ rules.bind (rules.list rest) fun values ↦ rules.pure _

end

theorem markup (rules : Compositional tools good) (markup : Markup) : good Value (markup.eval tools) := by
  unfold Markup.eval
  exact rules.bind (rules.expr markup.primary) fun value ↦ rules.filters markup.filters value

/-- The evaluation of a condition has a compositional property. -/
theorem condition (rules : Compositional tools good) : ∀ condition : Condition, good Bool (condition.eval tools)
  | .truthy operand => by
    rw [Condition.eval]
    exact rules.bind (rules.expr operand) fun _ ↦ rules.pure _
  | .compare left operator right => by
    rw [Condition.eval]
    refine rules.bind (rules.expr left) fun a ↦ rules.bind (rules.expr right) fun b ↦ ?_
    exact rules.compare operator a b
  | .and left right => by
    rw [Condition.eval]
    exact rules.bind (rules.condition left) fun _ ↦ rules.ite (rules.condition right) (rules.pure _)
  | .or left right => by
    rw [Condition.eval]
    exact rules.bind (rules.condition left) fun _ ↦ rules.ite (rules.pure _) (rules.condition right)

/-! ## Evaluations of tags -/

theorem cycleKey (rules : Compositional tools good) (group : Option Expr) (values : List Expr) :
    good String (Render.cycleKey tools group values) := by
  unfold Render.cycleKey
  split
  · exact rules.bind (rules.expr _) fun value ↦ rules.textOf value
  · exact rules.pure _

theorem anyEqual (rules : Compositional tools good) (subject : Value) :
    ∀ exprs, good Bool (Render.anyEqual tools subject exprs) := by
  intro exprs
  induction exprs with
  | nil => exact rules.pure _
  | cons expr rest ih =>
    rw [Render.anyEqual]
    refine rules.bind (rules.expr expr) fun value ↦ rules.bind (rules.compare _ value subject) fun _ ↦ ?_
    exact rules.ite (rules.pure _) ih

theorem loopArgument (rules : Compositional tools good) (argument : Option Expr) :
    good (Option Int64) (Render.loopArgument tools argument) := by
  unfold Render.loopArgument
  split
  · exact rules.pure _
  · exact rules.bind (rules.expr _) fun _ ↦ rules.ite (rules.pure _) (rules.pure _)

theorem offsetArgument (rules : Compositional tools good) (argument : Option Expr) :
    good Nat (Render.offsetArgument tools argument) :=
  rules.bind (rules.loopArgument argument) fun _ ↦ rules.pure _

theorem templateName (rules : Compositional tools good) (template : Expr) :
    good String (do Eval.textOf (← template.eval tools)) :=
  rules.bind (rules.expr template) fun value ↦ rules.textOf value

theorem boundValue (rules : Compositional tools good) (binding : Option Binding) (name : String) :
    good (Option Value) (Render.boundValue tools binding name) := by
  unfold Render.boundValue
  split
  · exact rules.bind (rules.expr _) fun _ ↦ rules.pure _
  · exact rules.bind (rules.expr _) fun _ ↦ rules.pure _
  · exact rules.counting fun _ ↦ rfl

theorem attributeFrame (rules : Compositional tools good) :
    ∀ (attributes : List (String × Expr)) (frame : Entries String Value),
      good (Entries String Value) (Render.attributeFrame tools frame attributes)
  | [], frame => rules.pure frame
  | (key, expr) :: rest, frame => by
    rw [Render.attributeFrame]
    exact rules.bind (rules.expr expr) fun value ↦ rules.attributeFrame rest _

end Compositional

end Eval

end Liquid
