import Liquid.Proofs.Render.Opening

/-!
# Where breaks and continues go

A break or a continue ends what is left of the blocks around it, up to the body of the nearest loop or table. What is left is
not rendered; captures, change detections and includes on the way are closed. Where no loop is active, neither tag does
anything.
-/

namespace Liquid.Render

open Template

variable {engine : Engine} {inclusions : Inclusion → Render Flow} {drive : Drive} {levels : Nat} {state after : RenderState}
  {flow : Flow}

/-! ## Includes -/

/-- What an action keeps that has a result. -/
theorem Keeps.of_ok {α : Type} {inv : RenderState → Prop} {rel : RenderState → RenderState → Prop} {action : Render α}
    {value : α} (h : Keeps inv rel action) (hinv : inv state) (hrun : action drive state = (.ok value, after)) :
    inv after ∧ rel state after := by
  have hkept := h drive state hinv
  rw [hrun] at hkept
  exact ⟨hkept.inv, hkept.related (.value value)⟩

theorem Keeps.arguments {holds : Tag → Prop} (inclusion : Inclusion) :
    Keeps (IncludesOnly engine holds) Restored (Render.arguments engine inclusion) :=
  .bind (.evaluate _) fun name ↦ .bind (.load name) fun _ ↦ .bind (.evaluate _) fun _ ↦ .bind (.evaluate _) fun _ ↦ .pure _

theorem arguments_allTags {holds : Tag → Prop} {inclusion : Inclusion} {part : Included} {ready : RenderState}
    (hincludes : IncludesOnly engine holds state) (h : arguments engine inclusion drive state = (.ok part, ready)) :
    AllTags holds part.block := by
  have hended : (arguments engine inclusion drive state).1 = .ok part := congrArg Prod.fst h
  obtain ⟨name, named, hname, hended⟩ := of_run_bind_eq_ok hended
  obtain ⟨block, loaded, hloaded, hended⟩ := of_run_bind_eq_ok hended
  obtain ⟨value, valued, -, hended⟩ := of_run_bind_eq_ok hended
  obtain ⟨frame, framed, -, hended⟩ := of_run_bind_eq_ok hended
  obtain rfl := Except.ok.inj hended
  have hevaluates : Keeps (IncludesOnly engine holds) Restored
      (evaluate do Eval.textOf (← inclusion.template.eval engine.tools)) := .evaluate _
  have hnamed := (hevaluates.of_ok hincludes hname).1
  exact load_allTags hnamed (congrArg Prod.fst hloaded)

/-- An include that may be entered leaves a loop as its body does, once its scope is closed. -/
theorem inInclude_eq_ok_iff {part : Included} {ready : RenderState} {body : Render Flow} {holds : Tag → Prop}
    (hbody : Keeps (IncludesOnly engine holds) RestoredAround body) (hincludes : IncludesOnly engine holds ready) :
    inInclude part.name part.frame body drive ready = (.ok flow, after) ↔
      ready.context.depth < ready.context.maxDepth ∧
        ∃ inside, body drive (openInclude part ready) = (.ok flow, inside) ∧ after = closeInclude ready.context inside := by
  have hentered : inInclude part.name part.frame body drive ready =
      if ready.context.depth ≥ ready.context.maxDepth then
        (.error (.error (.of (.tooDeep ready.context.maxDepth))), ready)
      else (attempt body >>= leaveInclude ready.context.name) drive (openInclude part ready) :=
    run_inInclude part.name part.frame body drive ready
  rw [hentered]
  by_cases hdeep : ready.context.depth ≥ ready.context.maxDepth
  · rw [if_pos hdeep]
    exact ⟨nofun, fun ⟨hfits, _⟩ ↦ absurd hfits (Nat.not_lt.2 hdeep)⟩
  · rw [if_neg hdeep, run_attempt_bind]
    have hkept := hbody drive (openInclude part ready) hincludes
    have hscopes {ended : Except Failure Flow} {inside : RenderState} (hreturned : Returned ended)
        (hrun : body drive (openInclude part ready) = (ended, inside)) :
        inside.context.scopes = ready.context.scopes.push inside.context.scopes.top := by
      rw [hrun] at hkept
      exact (hkept.related hreturned).scopes_eq_push rfl
    rcases hrun : body drive (openInclude part ready) with ⟨(error | _) | other, inside⟩
    · dsimp only
      rw [run_leaveInclude (hscopes (.error error) hrun)]
      exact ⟨nofun, fun ⟨_, _, hended, _⟩ ↦ nomatch hended⟩
    · exact ⟨nofun, fun ⟨_, _, hended, _⟩ ↦ nomatch hended⟩
    · dsimp only
      rw [run_leaveInclude (hscopes (.value other) hrun)]
      constructor
      · intro hended
        obtain ⟨hother, hafter⟩ := Prod.mk.inj hended
        exact ⟨Nat.lt_of_not_ge hdeep, inside, congrArg (·, inside) hother, hafter.symm⟩
      · rintro ⟨-, _, hended, rfl⟩
        obtain ⟨hother, rfl⟩ := Prod.mk.inj hended
        exact congrArg (·, closeInclude ready.context inside) hother

/-- What is bound within an include restores what is around it. -/
theorem Keeps.bound_part (inclusion : Inclusion) {part : Included} (hpart : AllTags Tag.IsBuiltin part.block) (levels : Nat) :
    Keeps (IncludesOnly engine Tag.IsBuiltin) RestoredAround
      (Render.bound inclusion.binding (boundName part.name) part.value (Render.blockWithin engine levels part.block)) :=
  .bound _ _ _ (.blockWithin (fun _ h ↦ h) levels part.block hpart)

/-! ## Tags leave a loop as the blocks that they open -/

/-- If the block that a tag opens leaves a loop, so does the tag, once it has closed what it opened. -/
theorem Enters.run {action : Tag} {inner : Nat} {body : Block} {opened inside : RenderState}
    {close : RenderState → RenderState} (hflow : flow ≠ .completed)
    (h : Enters engine drive levels action state inner body opened close)
    (hincludes : IncludesOnly engine Tag.IsBuiltin state)
    (hbody : blockWithin engine inner body drive opened = (.ok flow, inside)) (name markup : String) :
    tag engine (inclusionsWithin engine levels) name markup action drive state = (.ok flow, close inside) := by
  cases h with
  | capture => exact (capture_eq_ok_iff ..).2 ⟨inside, (blockWithin_eq_nodes ..) ▸ hbody, rfl⟩
  | ifChanged => exact (ifChanged_eq_ok_iff ..).2 ⟨inside, (blockWithin_eq_nodes ..) ▸ hbody, rfl⟩
  | branch hchooses =>
    rw [tag, hchooses.run, ← blockWithin_eq_nodes]
    exact hbody
  | case hevaluates hselects =>
    rw [tag, run_bind_ok hevaluates]
    exact hselects.run hflow hbody
  | loop hempty => exact (loop_eq_ok_iff hflow ..).2 ⟨_, _, rfl, hempty, (blockWithin_eq_nodes ..) ▸ hbody⟩
  | @inclusion _ inclusion part _ ready _ hloads hfits hbound =>
    have hready := (Keeps.of_ok (.arguments inclusion) hincludes hloads).1
    have hpart := arguments_allTags hincludes hloads
    rw [tag]
    change included engine (blockWithin engine inner) inclusion drive state = _
    rw [included_eq_arguments, run_bind_ok hloads]
    exact (inInclude_eq_ok_iff (.bound_part inclusion hpart inner) hready).2
      ⟨hfits, inside, hbound.run hflow hbody, rfl⟩

theorem run_leaveBody (asked : Flow) (drive : Drive) (state : RenderState) :
    leaveBody asked drive state = (.ok (if state.context.loops > 0 then asked else .completed), state) := by
  unfold leaveBody
  rw [run_bind_ok (run_context drive state)]
  split <;> rfl

/-- A tag leaves a loop only if it asks for that or opens a block that does. -/
theorem exists_enters {name markup : String} {action : Tag} (hflow : flow ≠ .completed)
    (hincludes : IncludesOnly engine Tag.IsBuiltin state)
    (h : tag engine (inclusionsWithin engine levels) name markup action drive state = (.ok flow, after)) :
    (Tag.leaves? action = some flow ∧ 0 < state.context.loops ∧ after = state) ∨
      ∃ inner body opened close inside, Enters engine drive levels action state inner body opened close ∧
        blockWithin engine inner body drive opened = (.ok flow, inside) ∧ after = close inside := by
  have hleft (asked : Flow) (h : leaveBody asked drive state = (.ok flow, after)) :
      asked = flow ∧ 0 < state.context.loops ∧ after = state := by
    rw [run_leaveBody] at h
    obtain ⟨hended, rfl⟩ := Prod.mk.inj h
    by_cases hactive : state.context.loops > 0
    · rw [if_pos hactive] at hended
      exact ⟨Except.ok.inj hended, hactive, rfl⟩
    · rw [if_neg hactive] at hended
      exact absurd (Except.ok.inj hended).symm hflow
  cases action with
  | assign target value =>
    rw [tag] at h
    exact absurd h (Completes.run_ne (.bind fun _ ↦ .bind fun _ ↦ .return_completed) hflow)
  | comment =>
    rw [tag] at h
    exact absurd h (Completes.return_completed.run_ne hflow)
  | cycle group values =>
    rw [tag] at h
    exact absurd h ((Completes.cycle _ group values).run_ne hflow)
  | increment name =>
    rw [tag] at h
    exact absurd h (Completes.run_ne (.bind fun _ ↦ .bind fun _ ↦ .bind fun _ ↦ .return_completed) hflow)
  | decrement name =>
    rw [tag] at h
    exact absurd h (Completes.run_ne (.bind fun _ ↦ .bind fun _ ↦ .bind fun _ ↦ .return_completed) hflow)
  | table header body =>
    rw [tag] at h
    exact absurd h ((Completes.table _ header _).run_ne hflow)
  | custom registration body =>
    rw [tag] at h
    exact absurd h ((Completes.custom engine registration name markup _).run_ne hflow)
  | breakLoop =>
    rw [tag] at h
    obtain ⟨rfl, hactive, hsame⟩ := hleft _ h
    exact .inl ⟨rfl, hactive, hsame⟩
  | continueLoop =>
    rw [tag] at h
    obtain ⟨rfl, hactive, hsame⟩ := hleft _ h
    exact .inl ⟨rfl, hactive, hsame⟩
  | capture target body =>
    obtain ⟨inside, hbody, rfl⟩ := (capture_eq_ok_iff ..).1 h
    exact .inr ⟨levels, body, _, _, inside, .capture, (blockWithin_eq_nodes ..).symm ▸ hbody, rfl⟩
  | ifChanged body =>
    obtain ⟨inside, hbody, rfl⟩ := (ifChanged_eq_ok_iff ..).1 h
    exact .inr ⟨levels, body, _, _, inside, .ifChanged, (blockWithin_eq_nodes ..).symm ▸ hbody, rfl⟩
  | branch negated conditions otherwise =>
    rw [tag] at h
    obtain ⟨body, chosen, hchooses, hbody⟩ := exists_chooses hflow h
    exact .inr ⟨levels, body, chosen, id, after, .branch hchooses, (blockWithin_eq_nodes ..).symm ▸ hbody, rfl⟩
  | case subject whens otherwise =>
    rw [tag] at h
    obtain ⟨value, evaluated, hevaluates, h⟩ := of_run_bind_eq h
    obtain ⟨body, opened, hselects, hbody⟩ := exists_selects hflow h
    exact .inr ⟨levels, body, opened, id, after, .case hevaluates hselects, hbody, rfl⟩
  | loop header body otherwise =>
    obtain ⟨other, opened, rfl, hempty, hbody⟩ := (loop_eq_ok_iff hflow ..).1 h
    exact .inr ⟨levels, other, opened, id, after, .loop hempty, (blockWithin_eq_nodes ..).symm ▸ hbody, rfl⟩
  | «include» inclusion =>
    rw [tag] at h
    cases levels with
    | zero =>
      change included engine (fun _ ↦ do fail (.tooDeep (← context).maxDepth)) inclusion drive state = _ at h
      rw [included_eq_arguments] at h
      obtain ⟨part, ready, hloads, h⟩ := of_run_bind_eq h
      have hready := (Keeps.of_ok (.arguments inclusion) hincludes hloads).1
      have hrefused : Keeps (IncludesOnly engine Tag.IsBuiltin) Restored
          (do fail (.tooDeep (← context).maxDepth) : Render Flow) := .bind .context fun _ ↦ .fail _
      obtain ⟨-, inside, hbody, -⟩ := (inInclude_eq_ok_iff (.bound _ _ _ hrefused) hready).1 h
      obtain ⟨opened, -, hended⟩ := exists_bound hflow hbody
      cases hended
    | succ levels =>
      change included engine (blockWithin engine levels) inclusion drive state = _ at h
      rw [included_eq_arguments] at h
      obtain ⟨part, ready, hloads, h⟩ := of_run_bind_eq h
      have hready := (Keeps.of_ok (.arguments inclusion) hincludes hloads).1
      have hpart := arguments_allTags hincludes hloads
      obtain ⟨hfits, inside, hbody, rfl⟩ := (inInclude_eq_ok_iff (.bound_part inclusion hpart levels) hready).1 h
      obtain ⟨opened, hbound, hended⟩ := exists_bound hflow hbody
      exact .inr ⟨levels, part.block, opened, _, inside, .inclusion hloads hfits hbound, hended, rfl⟩

/-! ## The same loops stay active -/

/-- Between two states as many loops stay active, and in the second one too includes lead to built-in tags only. -/
structure SameLoops (engine : Engine) (before after : RenderState) : Prop where
  includes : IncludesOnly engine Tag.IsBuiltin after
  loops : after.context.loops = before.context.loops

theorem SameLoops.trans {first second third : RenderState} (earlier : SameLoops engine first second)
    (later : SameLoops engine second third) : SameLoops engine first third :=
  ⟨later.includes, later.loops.trans earlier.loops⟩

theorem Keeps.sameLoops {α : Type} {action : Render α} {value : α}
    (h : Keeps (IncludesOnly engine Tag.IsBuiltin) RestoredAround action) (hincludes : IncludesOnly engine Tag.IsBuiltin state)
    (hrun : action drive state = (.ok value, after)) : SameLoops engine state after := by
  obtain ⟨hafter, haround⟩ := h.of_ok hincludes hrun
  exact ⟨hafter, haround.loops⟩

theorem Keeps.blockWithin_around {body : Block} (hbody : AllTags Tag.IsBuiltin body) (levels : Nat) :
    Keeps (IncludesOnly engine Tag.IsBuiltin) RestoredAround (Render.blockWithin engine levels body) :=
  (Keeps.blockWithin (fun _ h ↦ h) levels body hbody).mono Restored.toRestoredAround

theorem Keeps.node_within {first : Node} (hfirst : AllTagsOfNode Tag.IsBuiltin first) (levels : Nat) :
    Keeps (IncludesOnly engine Tag.IsBuiltin) RestoredAround (Render.node engine (inclusionsWithin engine levels) first) := by
  cases levels with
  | zero =>
    exact ((Keeps.compositional (fun _ h ↦ h) fun _ _ ↦ .bind .context fun _ ↦ .fail _).node first hfirst).mono
      Restored.toRestoredAround
  | succ levels =>
    exact ((Keeps.compositional (fun _ h ↦ h) (.blockWithin (fun _ h ↦ h) levels)).node first hfirst).mono
      Restored.toRestoredAround

theorem Keeps.loopWindow (tools : Toolbox) (header : LoopHeader) :
    Keeps (IncludesOnly engine Tag.IsBuiltin) RestoredAround (Render.loopWindow tools header) :=
  .bind (.evaluate _) fun _ ↦ .bind (.loopOffset tools header) fun _ ↦ .bind (.evaluate _) fun _ ↦
    .bind (.setRegister (by decide) fun _ ↦ _) fun _ ↦ .pure _

theorem Chooses.sameLoops {tools : Toolbox} {otherwise : Option Block} {negated : Bool}
    {conditions : List (Condition × Block)} {body : Block} {chosen : RenderState}
    (h : Chooses tools drive otherwise negated conditions state body chosen)
    (hconditions : AllTagsOfBranches Tag.IsBuiltin conditions) (hotherwise : AllTagsOfOption Tag.IsBuiltin otherwise)
    (hincludes : IncludesOnly engine Tag.IsBuiltin state) :
    AllTags Tag.IsBuiltin body ∧ SameLoops engine state chosen := by
  induction h with
  | here hdecided => exact ⟨hconditions.1, Keeps.sameLoops (.evaluate _) hincludes hdecided⟩
  | later hdecided _ _ ih =>
    have hnext : SameLoops engine _ _ := Keeps.sameLoops (.evaluate _) hincludes hdecided
    obtain ⟨hbody, hchosen⟩ := ih hconditions.2 hnext.includes
    exact ⟨hbody, hnext.trans hchosen⟩
  | otherwise hgiven =>
    subst hgiven
    exact ⟨hotherwise, hincludes, rfl⟩

theorem Selects.sameLoops {value : Value} {otherwise : Option Block} {matched : Bool} {whens : List (List Expr × Block)}
    {body : Block} {opened : RenderState} (h : Selects engine drive levels value otherwise matched whens state body opened)
    (hwhens : AllTagsOfWhens Tag.IsBuiltin whens) (hotherwise : AllTagsOfOption Tag.IsBuiltin otherwise)
    (hincludes : IncludesOnly engine Tag.IsBuiltin state) :
    AllTags Tag.IsBuiltin body ∧ SameLoops engine state opened := by
  induction h with
  | here hequal => exact ⟨hwhens.1, Keeps.sameLoops (.evaluate _) hincludes hequal⟩
  | behind hequal hcompleted _ ih =>
    have hchosen : SameLoops engine _ _ := Keeps.sameLoops (.evaluate _) hincludes hequal
    have hnext : SameLoops engine _ _ := (Keeps.blockWithin_around hwhens.1 levels).sameLoops hchosen.includes hcompleted
    obtain ⟨hbody, hopened⟩ := ih hwhens.2 hnext.includes
    exact ⟨hbody, hchosen.trans (hnext.trans hopened)⟩
  | later hunequal _ ih =>
    have hnext : SameLoops engine _ _ := Keeps.sameLoops (.evaluate _) hincludes hunequal
    obtain ⟨hbody, hopened⟩ := ih hwhens.2 hnext.includes
    exact ⟨hbody, hnext.trans hopened⟩
  | otherwise hgiven =>
    subst hgiven
    exact ⟨hotherwise, hincludes, rfl⟩

theorem ItemBound.sameLoops {name : String} {body : Render Flow} {items : List Value} {opened : RenderState}
    (hbody : Keeps (IncludesOnly engine Tag.IsBuiltin) RestoredAround body)
    (h : ItemBound drive name body items state opened) (hincludes : IncludesOnly engine Tag.IsBuiltin state) :
    SameLoops engine state opened := by
  induction h with
  | here => exact ⟨hincludes, rfl⟩
  | @later item _ state _ _ hcompleted _ ih =>
    have hgiven : SameLoops engine state (given name item state) := ⟨hincludes, rfl⟩
    have hnext : SameLoops engine (given name item state) _ := hbody.sameLoops hgiven.includes hcompleted
    exact hgiven.trans (hnext.trans (ih hnext.includes))

theorem Bound.sameLoops {binding : Option Binding} {name : String} {value : Option Value} {body : Render Flow}
    {opened : RenderState} (hbody : Keeps (IncludesOnly engine Tag.IsBuiltin) RestoredAround body)
    (h : Bound drive name body binding value state opened) (hincludes : IncludesOnly engine Tag.IsBuiltin state) :
    SameLoops engine state opened := by
  cases h with
  | nothing => exact ⟨hincludes, rfl⟩
  | once => exact ⟨hincludes, rfl⟩
  | each _ hbound => exact hbound.sameLoops hbody hincludes

/-- The block that a built-in tag opens has built-in tags only, and as many loops are active in it as around the tag. -/
theorem Enters.sameLoops {action : Tag} {inner : Nat} {body : Block} {opened : RenderState}
    {close : RenderState → RenderState} (h : Enters engine drive levels action state inner body opened close)
    (haction : AllTagsOfTag Tag.IsBuiltin action) (hincludes : IncludesOnly engine Tag.IsBuiltin state) :
    AllTags Tag.IsBuiltin body ∧ SameLoops engine state opened := by
  cases h with
  | capture => exact ⟨haction.2, hincludes, rfl⟩
  | ifChanged => exact ⟨haction.2, hincludes, rfl⟩
  | branch hchooses => exact hchooses.sameLoops haction.2.1 haction.2.2 hincludes
  | case hevaluates hselects =>
    have hevaluated : SameLoops engine _ _ := Keeps.sameLoops (.evaluate _) hincludes hevaluates
    obtain ⟨hbody, hopened⟩ := hselects.sameLoops haction.2.1 haction.2.2 hevaluated.includes
    exact ⟨hbody, hevaluated.trans hopened⟩
  | loop hempty => exact ⟨haction.2.2, (Keeps.loopWindow _ _).sameLoops hincludes hempty⟩
  | @inclusion _ inclusion part _ ready _ hloads hfits hbound =>
    have hpart := arguments_allTags hincludes hloads
    have hready : SameLoops engine state ready :=
      ((Keeps.arguments inclusion).mono Restored.toRestoredAround).sameLoops hincludes hloads
    have hentered : SameLoops engine ready (openInclude part ready) := ⟨hready.includes, rfl⟩
    have hopened := hbound.sameLoops (Keeps.blockWithin_around hpart inner) hentered.includes
    exact ⟨hpart, hready.trans (hentered.trans hopened)⟩

/-! ## What a tag opens is smaller -/

theorem Chooses.sizeOf_lt {tools : Toolbox} {otherwise : Option Block} {negated : Bool}
    {conditions : List (Condition × Block)} {body : Block} {chosen : RenderState}
    (h : Chooses tools drive otherwise negated conditions state body chosen) :
    sizeOf body < sizeOf conditions + sizeOf otherwise := by
  induction h with
  | here =>
    simp only [List.cons.sizeOf_spec, Prod.mk.sizeOf_spec]
    omega
  | later _ _ _ ih =>
    simp only [List.cons.sizeOf_spec, Prod.mk.sizeOf_spec]
    omega
  | otherwise hgiven =>
    rw [hgiven, Option.some.sizeOf_spec]
    omega

theorem Selects.sizeOf_lt {value : Value} {otherwise : Option Block} {matched : Bool} {whens : List (List Expr × Block)}
    {body : Block} {opened : RenderState} (h : Selects engine drive levels value otherwise matched whens state body opened) :
    sizeOf body < sizeOf whens + sizeOf otherwise := by
  induction h with
  | here =>
    simp only [List.cons.sizeOf_spec, Prod.mk.sizeOf_spec]
    omega
  | behind _ _ _ ih =>
    simp only [List.cons.sizeOf_spec, Prod.mk.sizeOf_spec]
    omega
  | later _ _ ih =>
    simp only [List.cons.sizeOf_spec, Prod.mk.sizeOf_spec]
    omega
  | otherwise hgiven =>
    rw [hgiven, Option.some.sizeOf_spec]
    omega

/-- In the block that a tag opens fewer includes may nest, or it is a part of the tag. -/
theorem Enters.smaller {action : Tag} {inner : Nat} {body : Block} {opened : RenderState}
    {close : RenderState → RenderState} (h : Enters engine drive levels action state inner body opened close) :
    inner < levels ∨ inner = levels ∧ sizeOf body < sizeOf action := by
  cases h with
  | inclusion => exact .inl (Nat.lt_succ_self _)
  | capture => exact .inr ⟨rfl, by rw [Tag.capture.sizeOf_spec]; omega⟩
  | ifChanged => exact .inr ⟨rfl, by rw [Tag.ifChanged.sizeOf_spec]; omega⟩
  | branch hchooses =>
    have hsize := hchooses.sizeOf_lt
    exact .inr ⟨rfl, by rw [Tag.branch.sizeOf_spec]; omega⟩
  | case _ hselects =>
    have hsize := hselects.sizeOf_lt
    exact .inr ⟨rfl, by rw [Tag.case.sizeOf_spec]; omega⟩
  | loop => exact .inr ⟨rfl, by rw [Tag.loop.sizeOf_spec, Option.some.sizeOf_spec]; omega⟩

/-! ## A block leaves a loop just where a break or a continue is reached -/

/-- Rendering a block within a loop, a break or a continue is reached that leaves the block in a state, once all that is open
between them has been closed. -/
inductive Leaves (engine : Engine) (drive : Drive) (flow : Flow) : Nat → Block → RenderState → RenderState → Prop
  | signal {levels : Nat} {name markup : String} {span : Span} {action : Tag} {rest : Block} {state : RenderState}
      (ready : Ready name state) (asks : Tag.leaves? action = some flow) :
      Leaves engine drive flow levels (.tag name markup span action :: rest) state state
  | behind {levels : Nat} {first : Node} {rest : Block} {state next after : RenderState}
      (uncancelled : state.shared.counts.cancelled ≠ some true)
      (completed : node engine (inclusionsWithin engine levels) first drive state = (.ok .completed, next))
      (leaves : Leaves engine drive flow levels rest next after) :
      Leaves engine drive flow levels (first :: rest) state after
  | within {levels inner : Nat} {name markup : String} {span : Span} {action : Tag} {body rest : Block}
      {state opened after : RenderState} {close : RenderState → RenderState} (ready : Ready name state)
      (enters : Enters engine drive levels action state inner body opened close)
      (leaves : Leaves engine drive flow inner body opened after) :
      Leaves engine drive flow levels (.tag name markup span action :: rest) state (close after)

theorem Leaves.flow_ne {body : Block} (h : Leaves engine drive flow levels body state after) : flow ≠ .completed := by
  induction h with
  | @signal _ _ _ _ action _ _ _ hasks =>
    rintro rfl
    cases action <;> cases hasks
  | behind _ _ _ ih => exact ih
  | within _ _ _ ih => exact ih

/-- If the first tag of a block leaves a loop, what is behind it is not rendered. -/
theorem run_nodes_tag {name markup : String} {span : Span} {action : Tag} {rest : Block} (hflow : flow ≠ .completed)
    (hready : Ready name state) (h : tag engine inclusions name markup action drive state = (.ok flow, after)) :
    nodes engine inclusions (.tag name markup span action :: rest) drive state = (.ok flow, after) := by
  have hnode := (guarded_eq_ok_iff hflow span _).2 h
  rw [← run_node_tag hready.enabled] at hnode
  rw [run_nodes_cons, if_neg hready.uncancelled, hnode]
  cases flow with
  | completed => exact absurd rfl hflow
  | breakLoop => rfl
  | continueLoop => rfl

theorem run_tag_of_leaves? {name markup : String} {action : Tag} (hasks : Tag.leaves? action = some flow)
    (hactive : 0 < state.context.loops) : tag engine inclusions name markup action drive state = (.ok flow, state) := by
  cases action with
  | breakLoop =>
    obtain rfl := Option.some.inj hasks
    rw [tag, run_leaveBody, if_pos hactive]
  | continueLoop =>
    obtain rfl := Option.some.inj hasks
    rw [tag, run_leaveBody, if_pos hactive]
  | _ => cases hasks

/-- If rendering a block within a loop reaches a break or a continue that leaves it, what is left of it is not rendered. -/
theorem Leaves.run {body : Block} (h : Leaves engine drive flow levels body state after)
    (hbody : AllTags Tag.IsBuiltin body) (hincludes : IncludesOnly engine Tag.IsBuiltin state)
    (hactive : 0 < state.context.loops) : blockWithin engine levels body drive state = (.ok flow, after) := by
  have hflow := h.flow_ne
  induction h with
  | signal hready hasks =>
    rw [run_blockWithin]
    exact run_nodes_tag hflow hready (run_tag_of_leaves? hasks hactive)
  | behind huncancelled hcompleted _ ih =>
    have hnext := (Keeps.node_within hbody.1 _).sameLoops hincludes hcompleted
    rw [run_blockWithin, run_nodes_cons, if_neg huncancelled, hcompleted]
    dsimp only
    rw [← run_blockWithin]
    exact ih hbody.2 hnext.includes (hnext.loops ▸ hactive)
  | within hready henters _ ih =>
    obtain ⟨hinner, hopened⟩ := henters.sameLoops hbody.1 hincludes
    have hinside := ih hinner hopened.includes (hopened.loops ▸ hactive)
    rw [run_blockWithin]
    exact run_nodes_tag hflow hready (henters.run hflow hincludes hinside _ _)

/-- A block leaves a loop only if one is active and rendering the block reaches a break or a continue. -/
theorem leaves_of_run (hflow : flow ≠ .completed) : ∀ (levels : Nat) (body : Block) {state after : RenderState},
    AllTags Tag.IsBuiltin body → IncludesOnly engine Tag.IsBuiltin state →
      blockWithin engine levels body drive state = (.ok flow, after) →
        0 < state.context.loops ∧ Leaves engine drive flow levels body state after
  | levels, [], state, after, _, _, h => by
    rw [run_blockWithin, nodes] at h
    exact absurd h (Completes.return_completed.run_ne hflow)
  | levels, first :: rest, state, after, hbody, hincludes, h => by
    rw [run_blockWithin] at h
    obtain ⟨hcancelled, hnode | ⟨next, hcompleted, hrest⟩⟩ := of_run_nodes_cons h
    · obtain ⟨name, markup, span, action, hfirst, henabled, htag⟩ := node_eq_ok hflow hnode
      have hsize : sizeOf action < sizeOf first := by
        rw [hfirst, Node.tag.sizeOf_spec]
        omega
      rw [hfirst] at hbody ⊢
      obtain ⟨hasks, hactive, rfl⟩ | ⟨inner, block, opened, close, inside, henters, hinside, rfl⟩ :=
        exists_enters hflow hincludes htag
      · exact ⟨hactive, .signal ⟨hcancelled, henabled⟩ hasks⟩
      · obtain ⟨hblock, hopened⟩ := henters.sameLoops hbody.1 hincludes
        have hsmaller := henters.smaller
        obtain ⟨hactive, hleaves⟩ := leaves_of_run hflow inner block hblock hopened.includes hinside
        exact ⟨hopened.loops ▸ hactive, .within ⟨hcancelled, henabled⟩ henters hleaves⟩
    · rw [← run_blockWithin] at hrest
      have hnext := (Keeps.node_within hbody.1 levels).sameLoops hincludes hcompleted
      obtain ⟨hactive, hleaves⟩ := leaves_of_run hflow levels rest hbody.2 hnext.includes hrest
      exact ⟨hnext.loops ▸ hactive, .behind hcancelled hcompleted hleaves⟩
termination_by levels body => (levels, sizeOf body)
decreasing_by
  · obtain hinner | ⟨rfl, hblock⟩ := hsmaller
    · exact Prod.Lex.left _ _ hinner
    · exact Prod.Lex.right _ (by rw [List.cons.sizeOf_spec]; omega)
  · exact Prod.Lex.right _ (by rw [List.cons.sizeOf_spec]; omega)

/-! ## Outside of loops -/

/-- Where no loop is active, a block that has a result is completed. -/
theorem completed_of_no_loop {body : Block} (hloops : state.context.loops = 0) (hbody : AllTags Tag.IsBuiltin body)
    (hincludes : IncludesOnly engine Tag.IsBuiltin state)
    (hended : (blockWithin engine levels body drive state).1 = .ok flow) : flow = .completed := by
  refine Decidable.byContradiction fun hflow ↦ ?_
  have hrun : blockWithin engine levels body drive state = (.ok flow, (blockWithin engine levels body drive state).2) :=
    Prod.ext hended rfl
  have hactive := (leaves_of_run hflow levels body hbody hincludes hrun).1
  exact Nat.lt_irrefl 0 (hloops ▸ hactive)

/-- Where no loop is active, a break or a continue does what a comment does. -/
theorem run_node_of_no_loop (hloops : state.context.loops = 0) {action : Tag} (hleaves : (Tag.leaves? action).isSome)
    (name markup : String) (span : Span) :
    node engine inclusions (.tag name markup span action) drive state =
      node engine inclusions (.tag name markup span .comment) drive state := by
  have hidle (asked : Flow) : leaveBody asked drive state = (.ok .completed, state) := by
    rw [run_leaveBody, hloops]
    rfl
  have htag : tag engine inclusions name markup action drive state =
      tag engine inclusions name markup .comment drive state := by
    cases action with
    | breakLoop =>
      rw [tag, tag, hidle]
      rfl
    | continueLoop =>
      rw [tag, tag, hidle]
      rfl
    | _ => cases hleaves
  cases henabled : state.context.isDisabled name with
  | false =>
    rw [run_node_tag henabled, run_node_tag henabled]
    unfold guarded
    rw [run_attempt_bind, run_attempt_bind, htag]
  | true =>
    rw [node, node, run_bind_ok (run_context drive state), run_bind_ok (run_context drive state), henabled]
    rfl

/-- Where no loop is active, a comment stands for a break or a continue. -/
theorem run_nodes_of_no_loop (hloops : state.context.loops = 0) {action : Tag} (hleaves : (Tag.leaves? action).isSome)
    (name markup : String) (span : Span) (rest : Block) :
    nodes engine inclusions (.tag name markup span action :: rest) drive state =
      nodes engine inclusions (.tag name markup span .comment :: rest) drive state := by
  rw [run_nodes_cons, run_nodes_cons, run_node_of_no_loop hloops hleaves]

/-- What follows a comment is rendered as if there were none. -/
theorem run_nodes_comment {name : String} (hready : Ready name state) (markup : String) (span : Span) (rest : Block) :
    nodes engine inclusions (.tag name markup span .comment :: rest) drive state =
      nodes engine inclusions rest drive state := by
  have hcomment : node engine inclusions (.tag name markup span .comment) drive state = (.ok .completed, state) := by
    rw [run_node_tag hready.enabled, tag]
    rfl
  rw [run_nodes_cons, if_neg hready.uncancelled, hcomment]

end Liquid.Render
