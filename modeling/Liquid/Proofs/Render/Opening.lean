import Liquid.Proofs.Render.Abortion

/-!
# The blocks that tags open

A tag with a body renders one of its blocks, or the block of a template that it includes, and does something to the state
before and behind it. Apart from loops, which render their body for each item, a tag ends with a break or a continue only
if the block does that it opened last.
-/

namespace Liquid.Render

open Template

variable {engine : Engine} {inclusions : Inclusion → Render Flow} {drive : Drive} {levels : Nat} {state after : RenderState}
  {flow : Flow}

/-! ## What a tag opens -/

/-- What includes do where they may nest the given number of times. -/
def inclusionsWithin (engine : Engine) : (levels : Nat) → Inclusion → Render Flow
  | 0 => included engine fun _ ↦ do fail (.tooDeep (← context).maxDepth)
  | levels + 1 => included engine (blockWithin engine levels)

theorem blockWithin_eq_nodes (engine : Engine) (levels : Nat) (body : Block) :
    blockWithin engine levels body = nodes engine (inclusionsWithin engine levels) body := by
  cases levels <;> rw [blockWithin] <;> rfl

theorem run_blockWithin (engine : Engine) (levels : Nat) (body : Block) (drive : Drive) (state : RenderState) :
    blockWithin engine levels body drive state = nodes engine (inclusionsWithin engine levels) body drive state := by
  rw [blockWithin_eq_nodes]

/-- Whether a tag of a name is rendered: the render has not been cancelled, and the name is not disabled. -/
structure Ready (name : String) (state : RenderState) : Prop where
  uncancelled : state.shared.counts.cancelled ≠ some true
  enabled : state.context.isDisabled name = false

/-- The block of a branch tag that is rendered, and the state that its conditions leave. -/
inductive Chooses (tools : Toolbox) (drive : Drive) (otherwise : Option Block) :
    Bool → List (Condition × Block) → RenderState → Block → RenderState → Prop
  | here {negated holds : Bool} {condition : Condition} {body : Block} {rest : List (Condition × Block)}
      {state chosen : RenderState} (decided : evaluate (condition.eval tools) drive state = (.ok holds, chosen))
      (fits : (holds != negated) = true) : Chooses tools drive otherwise negated ((condition, body) :: rest) state body chosen
  | later {negated holds : Bool} {condition : Condition} {other body : Block} {rest : List (Condition × Block)}
      {state next chosen : RenderState} (decided : evaluate (condition.eval tools) drive state = (.ok holds, next))
      (fails : (holds != negated) = false) (chooses : Chooses tools drive otherwise false rest next body chosen) :
      Chooses tools drive otherwise negated ((condition, other) :: rest) state body chosen
  | otherwise {negated : Bool} {body : Block} {state : RenderState} (given : otherwise = some body) :
      Chooses tools drive otherwise negated [] state body state

/-- A block of a case tag that is rendered, after all earlier ones that its subject equals have been completed. -/
inductive Selects (engine : Engine) (drive : Drive) (levels : Nat) (subject : Value) (otherwise : Option Block) :
    Bool → List (List Expr × Block) → RenderState → Block → RenderState → Prop
  | here {matched : Bool} {values : List Expr} {body : Block} {rest : List (List Expr × Block)} {state chosen : RenderState}
      (equal : evaluate (anyEqual engine.tools subject values) drive state = (.ok true, chosen)) :
      Selects engine drive levels subject otherwise matched ((values, body) :: rest) state body chosen
  | behind {matched : Bool} {values : List Expr} {other body : Block} {rest : List (List Expr × Block)}
      {state chosen next opened : RenderState}
      (equal : evaluate (anyEqual engine.tools subject values) drive state = (.ok true, chosen))
      (completed : blockWithin engine levels other drive chosen = (.ok .completed, next))
      (selects : Selects engine drive levels subject otherwise true rest next body opened) :
      Selects engine drive levels subject otherwise matched ((values, other) :: rest) state body opened
  | later {matched : Bool} {values : List Expr} {other body : Block} {rest : List (List Expr × Block)}
      {state next opened : RenderState}
      (unequal : evaluate (anyEqual engine.tools subject values) drive state = (.ok false, next))
      (selects : Selects engine drive levels subject otherwise matched rest next body opened) :
      Selects engine drive levels subject otherwise matched ((values, other) :: rest) state body opened
  | otherwise {body : Block} {state : RenderState} (given : otherwise = some body) :
      Selects engine drive levels subject otherwise false [] state body state

/-- Evaluates the collection and the arguments of a loop, gives its items in their order and notes how far it goes. -/
def loopWindow (tools : Toolbox) (header : LoopHeader) : Render (List Value) := do
  let collection ← evaluate (header.collection.eval tools)
  let offset ← loopOffset tools header
  let limit ← evaluate (loopArgument tools header.limit)
  let items := loopItems collection offset limit
  modifyContext fun context ↦
    context.setRegister Registers.loopKey
      (.places ((context.registers.places Registers.loopKey).put header.name
        (min (offset + items.length) maxCount)))
  return items

theorem loop_eq_window (tools : Toolbox) (header : LoopHeader) (body otherwise : Render Flow) :
    loop tools header body otherwise = (do
      let items ← loopWindow tools header
      if items.isEmpty then otherwise
      else visitLoop header (if header.reversed then items.reverse else items) body) := by
  simp only [loop, loopWindow, bind_assoc, pure_bind]

/-- What an include tag includes. -/
structure Included where
  name : String
  block : Block
  /-- The value that the template is bound to. -/
  value : Option Value
  /-- The scope that it gets. -/
  frame : Entries String Value

/-- Evaluates the arguments of an include and loads what it includes. -/
def arguments (engine : Engine) (inclusion : Inclusion) : Render Included := do
  let name ← evaluate do Eval.textOf (← inclusion.template.eval engine.tools)
  let block ← load engine name
  let value ← evaluate (boundValue engine.tools inclusion.binding (boundName name))
  let frame ← evaluate (attributeFrame engine.tools [] inclusion.attributes)
  return ⟨name, block, value, frame⟩

theorem included_eq_arguments (engine : Engine) (deeper : Block → Render Flow) (inclusion : Inclusion) :
    included engine deeper inclusion = (do
      let part ← arguments engine inclusion
      inInclude part.name part.frame
        (bound inclusion.binding (boundName part.name) part.value (deeper part.block))) := by
  simp only [included, arguments, bind_assoc, pure_bind]

/-- A state in which a name of the innermost scope has been given a value. -/
def given (name : String) (value : Value) (state : RenderState) : RenderState :=
  { state with context := state.context.set name value }

/-- The state in which a body is rendered for one of several items, after it has been completed for all earlier ones. -/
inductive ItemBound (drive : Drive) (name : String) (body : Render Flow) : List Value → RenderState → RenderState → Prop
  | here {item : Value} {rest : List Value} {state : RenderState} :
      ItemBound drive name body (item :: rest) state (given name item state)
  | later {item : Value} {rest : List Value} {state next opened : RenderState}
      (completed : body drive (given name item state) = (.ok .completed, next))
      (bound : ItemBound drive name body rest next opened) : ItemBound drive name body (item :: rest) state opened

/-- A state in which the body of an include is rendered once its scope is open. -/
inductive Bound (drive : Drive) (name : String) (body : Render Flow) :
    Option Binding → Option Value → RenderState → RenderState → Prop
  | nothing {binding : Option Binding} {state : RenderState} : Bound drive name body binding none state state
  | once {binding : Option Binding} {value : Value} {state : RenderState}
      (single : ∀ items, binding = some (.each items) → value.kind ≠ .seq) :
      Bound drive name body binding (some value) state (given name value state)
  | each {items : Expr} {value : Value} {state opened : RenderState} (several : value.kind = .seq)
      (bound : ItemBound drive name body (value.items?.getD []) state opened) :
      Bound drive name body (some (.each items)) (some value) state opened

/-- The state in which an include has been entered. -/
def openInclude (part : Included) (state : RenderState) : RenderState :=
  { state with context :=
    { state.context.push part.frame with name := part.name, depth := state.context.depth + 1 } }

/-- The state behind an include that was entered in a context. -/
def closeInclude (outer : Context) (state : RenderState) : RenderState :=
  { state with context :=
    { state.context with name := outer.name, scopes := outer.scopes, depth := state.context.depth - 1 } }

/-- The state behind a capture into a variable. -/
def closeCapture (target : String) (state : RenderState) : RenderState :=
  { state with
    context := state.context.assign target (.string state.output.endCapture.1)
    output := state.output.endCapture.2 }

/-- The state behind a change detection. -/
def closeChange (state : RenderState) : RenderState :=
  { state with
    context := state.context.setRegister Registers.changeKey (.text state.output.endCapture.1)
    output :=
      if state.context.registers.text? Registers.changeKey ≠ some state.output.endCapture.1 then
        state.output.endCapture.2.write state.output.endCapture.1
      else state.output.endCapture.2 }

/-- A block that a tag renders outside of any loop of its own: how deep includes may nest in it, the state in which its
rendering starts, and what the tag does to the state behind it. -/
inductive Enters (engine : Engine) (drive : Drive) :
    Nat → Tag → RenderState → Nat → Block → RenderState → (RenderState → RenderState) → Prop
  | capture {levels : Nat} {target : String} {body : Block} {state : RenderState} :
      Enters engine drive levels (.capture target body) state levels body
        { state with output := state.output.beginCapture } (closeCapture target)
  | ifChanged {levels : Nat} {body : Block} {state : RenderState} :
      Enters engine drive levels (.ifChanged body) state levels body
        { state with output := state.output.beginCapture } closeChange
  | branch {levels : Nat} {negated : Bool} {conditions : List (Condition × Block)} {otherwise : Option Block}
      {body : Block} {state chosen : RenderState}
      (chooses : Chooses engine.tools drive otherwise negated conditions state body chosen) :
      Enters engine drive levels (.branch negated conditions otherwise) state levels body chosen id
  | case {levels : Nat} {subject : Expr} {value : Value} {whens : List (List Expr × Block)} {otherwise : Option Block}
      {body : Block} {state evaluated opened : RenderState}
      (evaluates : evaluate (subject.eval engine.tools) drive state = (.ok value, evaluated))
      (selects : Selects engine drive levels value otherwise false whens evaluated body opened) :
      Enters engine drive levels (.case subject whens otherwise) state levels body opened id
  | loop {levels : Nat} {header : LoopHeader} {body otherwise : Block} {state opened : RenderState}
      (empty : loopWindow engine.tools header drive state = (.ok [], opened)) :
      Enters engine drive levels (.loop header body (some otherwise)) state levels otherwise opened id
  | inclusion {levels : Nat} {inclusion : Inclusion} {part : Included} {state ready opened : RenderState}
      (loads : arguments engine inclusion drive state = (.ok part, ready))
      (fits : ready.context.depth < ready.context.maxDepth)
      (bound : Bound drive (boundName part.name) (blockWithin engine levels part.block) inclusion.binding part.value
        (openInclude part ready) opened) :
      Enters engine drive (levels + 1) (.include inclusion) state levels part.block opened (closeInclude ready.context)

/-- How a tag asks to leave the body of the nearest loop. -/
def Tag.leaves? : Tag → Option Flow
  | .breakLoop => some .breakLoop
  | .continueLoop => some .continueLoop
  | _ => none

/-! ## What never leaves a loop -/

/-- An action that, if it has a result, is completed. -/
def Completes (action : Render Flow) : Prop :=
  ∀ drive state flow, (action drive state).1 = .ok flow → flow = .completed

namespace Completes

variable {α : Type}

theorem run_ne {action : Render Flow} (h : Completes action) (hflow : flow ≠ .completed) :
    action drive state ≠ (.ok flow, after) :=
  fun hrun ↦ hflow (h drive state flow (congrArg Prod.fst hrun))

theorem return_completed : Completes (return .completed) := by
  intro drive state flow hflow
  exact (Except.ok.inj hflow).symm

theorem bind {action : Render α} {next : α → Render Flow} (h : ∀ value, Completes (next value)) :
    Completes (action >>= next) := by
  intro drive state flow hflow
  obtain ⟨value, after, -, hnext⟩ := of_run_bind_eq_ok hflow
  exact h value drive after flow hnext

theorem ite {condition : Prop} [Decidable condition] {first second : Render Flow} (hfirst : Completes first)
    (hsecond : Completes second) : Completes (if condition then first else second) := by
  split
  · exact hfirst
  · exact hsecond

theorem output (tools : Toolbox) (markup : Markup) (span : Span) : Completes (Render.output tools markup span) :=
  .bind fun _ ↦ .bind fun _ ↦ .ite (.bind fun _ ↦ .bind fun _ ↦ .bind fun _ ↦ .bind fun _ ↦ .return_completed)
    (.bind fun _ ↦ .bind fun _ ↦ .return_completed)

theorem cycle (tools : Toolbox) (group : Option Expr) (values : List Expr) :
    Completes (Render.cycle tools group values) := by
  refine .ite .return_completed (.bind fun key ↦ .bind fun context ↦ .bind fun _ ↦ ?_)
  split
  · exact .return_completed
  · exact .bind fun _ ↦ .bind fun _ ↦ .bind fun _ ↦ .return_completed

theorem visitLoop (header : LoopHeader) (items : List Value) (body : Render Flow) :
    Completes (Render.visitLoop header items body) :=
  .bind fun _ ↦ .bind fun _ ↦ .bind fun _ ↦ .bind fun _ ↦ .return_completed

theorem table (tools : Toolbox) (header : TableHeader) (body : Render Flow) :
    Completes (Render.table tools header body) :=
  .bind fun _ ↦ .bind fun _ ↦ .bind fun _ ↦ .bind fun _ ↦ .bind fun _ ↦ .bind fun _ ↦ .bind fun _ ↦ .bind fun _ ↦
    .bind fun _ ↦ .return_completed

theorem custom (engine : Engine) (registration : Nat) (name markup : String) (body : Render Flow) :
    Completes (Render.custom engine registration name markup body) := by
  unfold Render.custom
  split
  · exact .bind fun _ ↦ .return_completed
  · exact .return_completed

end Completes

/-! ## Blocks and nodes -/

theorem run_nodes_cons (engine : Engine) (inclusions : Inclusion → Render Flow) (first : Node) (rest : Block)
    (drive : Drive) (state : RenderState) :
    nodes engine inclusions (first :: rest) drive state =
      if state.shared.counts.cancelled = some true then (.error (.error (.of .cancelled)), state)
      else
        match node engine inclusions first drive state with
        | (.ok .completed, next) => nodes engine inclusions rest drive next
        | ended => ended := by
  rw [nodes, run_bind, run_checkCancelled]
  by_cases hcancelled : state.shared.counts.cancelled = some true
  · rw [if_pos hcancelled, if_pos hcancelled]
  · rw [if_neg hcancelled, if_neg hcancelled]
    dsimp only
    rw [run_bind]
    rcases node engine inclusions first drive state with ⟨failure | (_ | _ | _), next⟩ <;> rfl

/-- A block ends as its first node does, or that is completed and the block ends as what follows does. -/
theorem of_run_nodes_cons {first : Node} {rest : Block}
    (h : nodes engine inclusions (first :: rest) drive state = (.ok flow, after)) :
    state.shared.counts.cancelled ≠ some true ∧
      (node engine inclusions first drive state = (.ok flow, after) ∨
        ∃ next, node engine inclusions first drive state = (.ok .completed, next) ∧
          nodes engine inclusions rest drive next = (.ok flow, after)) := by
  rw [run_nodes_cons] at h
  by_cases hcancelled : state.shared.counts.cancelled = some true
  · rw [if_pos hcancelled] at h
    cases h
  · rw [if_neg hcancelled] at h
    refine ⟨hcancelled, ?_⟩
    rcases hnode : node engine inclusions first drive state with ⟨failure | _ | _ | _, next⟩
    · rw [hnode] at h
      cases h
    · rw [hnode] at h
      exact .inr ⟨next, rfl, h⟩
    · rw [hnode] at h
      exact .inl h
    · rw [hnode] at h
      exact .inl h

/-- What is guarded leaves a loop just as it does by itself. -/
theorem guarded_eq_ok_iff (hflow : flow ≠ .completed) (span : Span) (action : Render Flow) :
    guarded span action drive state = (.ok flow, after) ↔ action drive state = (.ok flow, after) := by
  unfold guarded
  rw [run_attempt_bind]
  rcases action drive state with ⟨(error | _) | other, next⟩
  · have hreported : Completes (do
        report (← located error span)
        return .completed) := .bind fun _ ↦ .bind fun _ ↦ .return_completed
    constructor
    · intro hended
      exact absurd hended (hreported.run_ne hflow)
    · nofun
  · rfl
  · rfl

theorem run_node_tag {name : String} (henabled : state.context.isDisabled name = false) (markup : String) (span : Span)
    (action : Tag) :
    node engine inclusions (.tag name markup span action) drive state =
      guarded span (tag engine inclusions name markup action) drive state := by
  rw [node, run_bind_ok (run_context drive state), henabled]
  rfl

/-- A node leaves a loop only if it is a tag that is enabled and does. -/
theorem node_eq_ok {first : Node} (hflow : flow ≠ .completed)
    (h : node engine inclusions first drive state = (.ok flow, after)) :
    ∃ name markup span action, first = .tag name markup span action ∧ state.context.isDisabled name = false ∧
      tag engine inclusions name markup action drive state = (.ok flow, after) := by
  cases first with
  | text content =>
    rw [node] at h
    exact absurd h ((Completes.bind fun _ ↦ .return_completed).run_ne hflow)
  | output markup span =>
    rw [node, guarded_eq_ok_iff hflow] at h
    exact absurd h ((Completes.output _ markup span).run_ne hflow)
  | tag name markup span action =>
    refine ⟨name, markup, span, action, rfl, ?_⟩
    cases henabled : state.context.isDisabled name with
    | false =>
      rw [run_node_tag henabled, guarded_eq_ok_iff hflow] at h
      exact ⟨rfl, h⟩
    | true =>
      rw [node, run_bind_ok (run_context drive state), henabled] at h
      change guarded span (fail (.disabledTag name)) drive state = _ at h
      rw [guarded_eq_ok_iff hflow] at h
      cases h

/-! ## Tags -/

/-- What follows a capture of a body ends as the body does if it only closes what is open. -/
theorem captured_bind_eq_ok_iff {body : Render Flow} {next : String × Flow → Render Flow} {close : RenderState → RenderState}
    (hclose : ∀ inside other, next (inside.output.endCapture.1, other) drive
      { inside with output := inside.output.endCapture.2 } = (.ok other, close inside)) :
    (captured body >>= next) drive state = (.ok flow, after) ↔
      ∃ inside, body drive { state with output := state.output.beginCapture } = (.ok flow, inside) ∧
        after = close inside := by
  rw [run_bind, run_captured]
  rcases body drive { state with output := state.output.beginCapture } with ⟨(error | _) | other, inside⟩
  · exact ⟨nofun, fun ⟨_, hended, _⟩ ↦ nomatch hended⟩
  · exact ⟨nofun, fun ⟨_, hended, _⟩ ↦ nomatch hended⟩
  · dsimp only
    rw [hclose]
    constructor
    · intro hended
      obtain ⟨hother, hafter⟩ := Prod.mk.inj hended
      exact ⟨inside, congrArg (·, inside) hother, hafter.symm⟩
    · rintro ⟨_, hended, rfl⟩
      obtain ⟨hother, rfl⟩ := Prod.mk.inj hended
      exact congrArg (·, close inside) hother

theorem capture_eq_ok_iff (name markup target : String) (body : Block) :
    tag engine inclusions name markup (.capture target body) drive state = (.ok flow, after) ↔
      ∃ inside, nodes engine inclusions body drive { state with output := state.output.beginCapture } = (.ok flow, inside) ∧
        after = closeCapture target inside := by
  rw [tag]
  exact captured_bind_eq_ok_iff fun _ _ ↦ rfl

theorem ifChanged_eq_ok_iff (name markup : String) (body : Block) :
    tag engine inclusions name markup (.ifChanged body) drive state = (.ok flow, after) ↔
      ∃ inside, nodes engine inclusions body drive { state with output := state.output.beginCapture } = (.ok flow, inside) ∧
        after = closeChange inside := by
  rw [tag]
  refine captured_bind_eq_ok_iff fun inside other ↦ ?_
  dsimp only
  rw [run_bind, run_ifChanged]
  rfl

/-- A branch tag does what the block does that it chooses. -/
theorem Chooses.run {tools : Toolbox} {otherwise : Option Block} {negated : Bool} {conditions : List (Condition × Block)}
    {body : Block} {chosen : RenderState} (h : Chooses tools drive otherwise negated conditions state body chosen) :
    branches tools (optional engine inclusions otherwise) negated (branchBodies engine inclusions conditions) drive state =
      nodes engine inclusions body drive chosen := by
  induction h with
  | here hdecided hfits =>
    rw [branchBodies, branches, run_bind, hdecided]
    dsimp only
    rw [hfits]
    rfl
  | later hdecided hfails hchooses ih =>
    rw [branchBodies, branches, run_bind, hdecided]
    dsimp only
    rw [hfails]
    exact ih
  | otherwise hgiven =>
    rw [branchBodies, branches, hgiven, optional]

/-- A branch tag leaves a loop only if the block does that it chooses. -/
theorem exists_chooses {tools : Toolbox} {otherwise : Option Block} (hflow : flow ≠ .completed) :
    ∀ {negated : Bool} {conditions : List (Condition × Block)} {state : RenderState},
      branches tools (optional engine inclusions otherwise) negated (branchBodies engine inclusions conditions) drive state =
        (.ok flow, after) →
      ∃ body chosen, Chooses tools drive otherwise negated conditions state body chosen ∧
        nodes engine inclusions body drive chosen = (.ok flow, after)
  | negated, [], state, h => by
    rw [branchBodies, branches] at h
    cases otherwise with
    | none =>
      rw [optional] at h
      exact absurd h (Completes.return_completed.run_ne hflow)
    | some body =>
      rw [optional] at h
      exact ⟨body, state, .otherwise rfl, h⟩
  | negated, (condition, body) :: rest, state, h => by
    rw [branchBodies, branches] at h
    obtain ⟨holds, next, hdecided, h⟩ := of_run_bind_eq h
    cases hfits : holds != negated with
    | true =>
      rw [hfits] at h
      exact ⟨body, next, .here hdecided hfits, h⟩
    | false =>
      rw [hfits] at h
      obtain ⟨chosen, final, hchooses, hbody⟩ := exists_chooses hflow h
      exact ⟨chosen, final, .later hdecided hfits hchooses, hbody⟩

/-- A case tag leaves a loop as a block does that it selects. -/
theorem Selects.run {value : Value} {otherwise : Option Block} {matched : Bool} {whens : List (List Expr × Block)}
    {body : Block} {opened : RenderState} (hflow : flow ≠ .completed)
    (h : Selects engine drive levels value otherwise matched whens state body opened)
    (hbody : blockWithin engine levels body drive opened = (.ok flow, after)) :
    cases engine.tools value (optional engine (inclusionsWithin engine levels) otherwise) matched
      (whenBodies engine (inclusionsWithin engine levels) whens) drive state = (.ok flow, after) := by
  induction h with
  | here hequal =>
    rw [blockWithin_eq_nodes] at hbody
    rw [whenBodies, Render.cases, run_bind, hequal]
    change (nodes engine (inclusionsWithin engine levels) _ >>= _) drive _ = _
    rw [run_bind_ok hbody]
    cases flow with
    | completed => exact absurd rfl hflow
    | breakLoop => rfl
    | continueLoop => rfl
  | behind hequal hcompleted hselects ih =>
    rw [blockWithin_eq_nodes] at hcompleted
    rw [whenBodies, Render.cases, run_bind, hequal]
    change (nodes engine (inclusionsWithin engine levels) _ >>= _) drive _ = _
    rw [run_bind_ok hcompleted]
    exact ih hbody
  | later hunequal hselects ih =>
    rw [whenBodies, Render.cases, run_bind, hunequal]
    exact ih hbody
  | otherwise hgiven =>
    rw [blockWithin_eq_nodes] at hbody
    rw [whenBodies, Render.cases, hgiven, optional]
    exact hbody

/-- A case tag leaves a loop only if a block does that it selects. -/
theorem exists_selects {value : Value} {otherwise : Option Block} (hflow : flow ≠ .completed) :
    ∀ {matched : Bool} {whens : List (List Expr × Block)} {state : RenderState},
      cases engine.tools value (optional engine (inclusionsWithin engine levels) otherwise) matched
        (whenBodies engine (inclusionsWithin engine levels) whens) drive state = (.ok flow, after) →
      ∃ body opened, Selects engine drive levels value otherwise matched whens state body opened ∧
        blockWithin engine levels body drive opened = (.ok flow, after)
  | matched, [], state, h => by
    rw [whenBodies, Render.cases] at h
    cases matched with
    | true => exact absurd h (Completes.return_completed.run_ne hflow)
    | false =>
      change optional engine (inclusionsWithin engine levels) otherwise drive state = _ at h
      cases otherwise with
      | none =>
        rw [optional] at h
        exact absurd h (Completes.return_completed.run_ne hflow)
      | some body =>
        rw [optional, ← blockWithin_eq_nodes] at h
        exact ⟨body, state, .otherwise rfl, h⟩
  | matched, (values, body) :: rest, state, h => by
    rw [whenBodies, Render.cases] at h
    obtain ⟨equal, next, hequal, h⟩ := of_run_bind_eq h
    cases equal with
    | false =>
      obtain ⟨selected, opened, hselects, hbody⟩ := exists_selects hflow h
      exact ⟨selected, opened, .later hequal hselects, hbody⟩
    | true =>
      rw [if_pos rfl, ← blockWithin_eq_nodes] at h
      obtain ⟨ended, inside, hbody, h⟩ := of_run_bind_eq h
      cases ended with
      | completed =>
        obtain ⟨selected, opened, hselects, hselected⟩ := exists_selects hflow h
        exact ⟨selected, opened, .behind hequal hbody hselects, hselected⟩
      | breakLoop => exact ⟨body, next, .here hequal, hbody.trans h⟩
      | continueLoop => exact ⟨body, next, .here hequal, hbody.trans h⟩

/-- A loop tag leaves a loop around it only if it has no items and its other block does. -/
theorem loop_eq_ok_iff (hflow : flow ≠ .completed) (name markup : String) (header : LoopHeader) (body : Block)
    (otherwise : Option Block) :
    tag engine inclusions name markup (.loop header body otherwise) drive state = (.ok flow, after) ↔
      ∃ other opened, otherwise = some other ∧ loopWindow engine.tools header drive state = (.ok [], opened) ∧
        nodes engine inclusions other drive opened = (.ok flow, after) := by
  rw [tag, loop_eq_window, run_bind]
  rcases loopWindow engine.tools header drive state with ⟨failure | _ | ⟨item, rest⟩, opened⟩
  · exact ⟨nofun, fun ⟨_, _, _, hwindow, _⟩ ↦ nomatch hwindow⟩
  · change optional engine inclusions otherwise drive opened = _ ↔ _
    cases otherwise with
    | none =>
      rw [optional]
      refine ⟨fun hended ↦ ?_, fun ⟨_, _, hother, _⟩ ↦ nomatch hother⟩
      exact absurd hended (Completes.return_completed.run_ne hflow)
    | some other =>
      rw [optional]
      refine ⟨fun hended ↦ ⟨other, opened, rfl, rfl, hended⟩, ?_⟩
      rintro ⟨_, _, hother, hwindow, hended⟩
      obtain rfl := Option.some.inj hother
      obtain ⟨-, rfl⟩ := Prod.mk.inj hwindow
      exact hended
  · refine ⟨fun hended ↦ ?_, fun ⟨_, _, _, hwindow, _⟩ ↦ nomatch hwindow⟩
    exact absurd hended ((Completes.visitLoop _ _ _).run_ne hflow)

/-- A body that is rendered with a value for a name. -/
def givenThen (name : String) (body : Render Flow) (value : Value) : Render Flow := do
  modifyContext fun context ↦ context.set name value
  body

theorem run_givenThen (name : String) (body : Render Flow) (value : Value) (drive : Drive) (state : RenderState) :
    givenThen name body value drive state = body drive (given name value state) :=
  run_bind_ok (run_modifyContext _ drive state) _

/-- A body that is rendered for several items leaves a loop as it does for one of them. -/
theorem ItemBound.run {name : String} {body : Render Flow} {items : List Value} {opened : RenderState}
    (hflow : flow ≠ .completed) (h : ItemBound drive name body items state opened)
    (hbody : body drive opened = (.ok flow, after)) :
    eachBound (givenThen name body) items drive state = (.ok flow, after) := by
  induction h with
  | here =>
    rw [eachBound, run_bind, run_givenThen, hbody]
    cases flow with
    | completed => exact absurd rfl hflow
    | breakLoop => rfl
    | continueLoop => rfl
  | later hcompleted hbound ih =>
    rw [eachBound, run_bind, run_givenThen, hcompleted]
    exact ih hbody

theorem exists_itemBound {name : String} {body : Render Flow} (hflow : flow ≠ .completed) :
    ∀ {items : List Value} {state : RenderState}, eachBound (givenThen name body) items drive state = (.ok flow, after) →
      ∃ opened, ItemBound drive name body items state opened ∧ body drive opened = (.ok flow, after)
  | [], state, h => by
    rw [eachBound] at h
    exact absurd h (Completes.return_completed.run_ne hflow)
  | item :: rest, state, h => by
    rw [eachBound] at h
    obtain ⟨ended, next, hbody, h⟩ := of_run_bind_eq h
    rw [run_givenThen] at hbody
    cases ended with
    | completed =>
      obtain ⟨opened, hbound, hended⟩ := exists_itemBound hflow h
      exact ⟨opened, .later hbody hbound, hended⟩
    | breakLoop => exact ⟨_, .here, hbody.trans h⟩
    | continueLoop => exact ⟨_, .here, hbody.trans h⟩

/-- The body of an include leaves a loop as it does in one of the states in which it is rendered. -/
theorem Bound.run {binding : Option Binding} {name : String} {value : Option Value} {body : Render Flow}
    {opened : RenderState} (hflow : flow ≠ .completed) (h : Bound drive name body binding value state opened)
    (hbody : body drive opened = (.ok flow, after)) : bound binding name value body drive state = (.ok flow, after) := by
  cases h with
  | nothing =>
    rcases binding with _ | _ | _ <;> exact hbody
  | @once _ value _ hsingle =>
    have hgiven : givenThen name body value drive state = (.ok flow, after) := (run_givenThen ..).trans hbody
    rcases binding with _ | _ | items
    · exact hgiven
    · exact hgiven
    · change (if value.kind = .seq then _ else givenThen name body value) drive state = _
      rw [if_neg (hsingle items rfl)]
      exact hgiven
  | @each items value _ _ hseveral hbound =>
    change (if value.kind = .seq then eachBound (givenThen name body) (value.items?.getD []) else _) drive state = _
    rw [if_pos hseveral]
    exact hbound.run hflow hbody

theorem exists_bound {binding : Option Binding} {name : String} {value : Option Value} {body : Render Flow}
    (hflow : flow ≠ .completed) (h : bound binding name value body drive state = (.ok flow, after)) :
    ∃ opened, Bound drive name body binding value state opened ∧ body drive opened = (.ok flow, after) := by
  cases value with
  | none =>
    refine ⟨state, .nothing, ?_⟩
    rcases binding with _ | _ | _ <;> exact h
  | some value =>
    have honce (hsingle : ∀ items, binding = some (.each items) → value.kind ≠ .seq)
        (hgiven : givenThen name body value drive state = (.ok flow, after)) :
        ∃ opened, Bound drive name body binding (some value) state opened ∧ body drive opened = (.ok flow, after) :=
      ⟨given name value state, .once hsingle, (run_givenThen ..).symm.trans hgiven⟩
    rcases binding with _ | _ | items
    · exact honce nofun h
    · exact honce nofun h
    · change (if value.kind = .seq then eachBound (givenThen name body) (value.items?.getD [])
        else givenThen name body value) drive state = _ at h
      by_cases hseveral : value.kind = .seq
      · rw [if_pos hseveral] at h
        obtain ⟨opened, hbound, hbody⟩ := exists_itemBound hflow h
        exact ⟨opened, .each hseveral hbound, hbody⟩
      · rw [if_neg hseveral] at h
        exact honce (fun _ _ ↦ hseveral) h

end Liquid.Render
