import Liquid.Proofs.Render.Coupling
import Liquid.Proofs.Template.Removal

/-!
# Trees in lockstep

Two coupled renders stay coupled through every construct of the language if they do through its parts. So a tree and the
tree without the removed tags keep them coupled as soon as includes and the tags of the host do.
-/

namespace Liquid.Render

open Template

variable {coupling : Coupling} {level : Nat} {tools : Toolbox}

namespace Paired

/-! ## Outputs, captures and branches -/

theorem output (hagrees : tools.Agrees coupling.toViewpoint) (markup : Markup) (span : Span) :
    Paired coupling level Eq (Render.output tools markup span) (Render.output tools markup span) := by
  unfold Render.output
  refine .bind_eq (.evaluate (hagrees.compositional.markup markup)) fun value ↦ .context_bind (fun _ ↦ rfl) fun context ↦
    .ite ?_ (.writeValue value)
  refine (located _ span).bind fun error error' herror ↦ ?_
  obtain ⟨rfl, hkind⟩ := herror
  refine .bind_eq (.record (coupling.raises_of_ne ?_)) fun _ ↦ .writeValue value
  rw [hkind]
  exact nofun

theorem counter (name : String) : Paired coupling level Eq (Render.counter name) (Render.counter name) := by
  unfold Render.counter
  exact .context_bind (fun _ ↦ rfl) fun _ ↦ .same _

theorem cycle (hagrees : tools.Agrees coupling.toViewpoint) (group : Option Expr) (values : List Expr) :
    Paired coupling level Eq (Render.cycle tools group values) (Render.cycle tools group values) := by
  unfold Render.cycle
  refine .ite (.same _) ?_
  refine .bind_eq (.evaluate (hagrees.compositional.cycleKey group values)) fun key ↦ .context_bind ?_ fun context ↦ ?_
  · intro context
    dsimp only
    rw [context.places_unmarked (by decide)]
  · dsimp only
    refine .bind_eq (.modifyContext (.setRegister (by decide) fun _ ↦ rfl)) fun _ ↦ ?_
    split
    · exact .same _
    · exact .bind_eq (.evaluate (hagrees.compositional.expr _)) fun value ↦ .writeValue value

theorem captured {body body' : Render Flow} (h : Paired coupling level Eq body body') :
    Paired coupling level Eq (Render.captured body) (Render.captured body') := by
  unfold Render.captured
  refine .bind_eq (.modifyOutput _) fun _ ↦ h.attempt_bind fun ended hraised ↦ ?_
  exact .bind_eq .endCapture fun text ↦ .bind_eq (.settle hraised) fun flow ↦ .same (text, flow)

theorem ifChanged (text : String) :
    Paired coupling level Eq (Render.ifChanged text) (Render.ifChanged text) := by
  have hnoted : Paired coupling level Eq
      (Render.modifyContext fun context ↦ context.setRegister Registers.changeKey (.text text))
      (Render.modifyContext fun context ↦ context.setRegister Registers.changeKey (.text text)) :=
    .modifyContext (.setRegister (by decide) fun _ ↦ rfl)
  unfold Render.ifChanged
  refine .context_bind (fun context ↦ ?_) fun context ↦ .ite (.bind_eq (.write _) fun _ ↦ hnoted) hnoted
  rw [context.text?_unmarked (by decide)]

theorem leaveBody (flow : Flow) : Paired coupling level Eq (Render.leaveBody flow) (Render.leaveBody flow) := by
  unfold Render.leaveBody
  exact .context_bind (fun _ ↦ rfl) fun _ ↦ .ite (.same _) (.same _)

/-! ## Loops -/

theorem eachItem {visit visit' : Nat → Value → Render Flow}
    (h : ∀ index item, Paired coupling level Eq (visit index item) (visit' index item)) :
    ∀ index items, Paired coupling level Eq (Render.eachItem visit index items) (Render.eachItem visit' index items)
  | index, [] => by
    rw [Render.eachItem, Render.eachItem]
    exact .same _
  | index, item :: rest => by
    rw [Render.eachItem, Render.eachItem]
    refine .bind_eq (h index item) fun flow ↦ ?_
    cases flow with
    | breakLoop => exact .same _
    | completed => exact eachItem h (index + 1) rest
    | continueLoop => exact eachItem h (index + 1) rest

/-- The scope and the loop that both renders open are closed by both. -/
theorem inLoop_bind (objectName : String) (object : Value) {visits visits' : Render Unit}
    {next next' : Except Error Unit → Render Flow} (h : Paired coupling level Eq visits visits')
    (hnext : ∀ ended, (∀ error, ended = .error error → coupling.raises error.kind) →
      Paired coupling level Eq (next ended) (next' ended)) :
    Paired coupling level Eq (Render.inLoop objectName object visits >>= next)
      (Render.inLoop objectName object visits' >>= next') := by
  have hopens : Context.IsPlain fun context ↦ ((context.push []).enterLoop).set objectName object :=
    ⟨fun _ ↦ rfl, fun _ ↦ rfl⟩
  unfold Render.inLoop
  simp only [bind_assoc, pure_bind]
  refine .bind_eq (.modifyContext hopens) fun _ ↦ h.attempt_bind fun ended hraised ↦ ?_
  exact .bind_eq (.modifyContext .leaveLoop) fun _ ↦ .bind_eq .popScope fun _ ↦ hnext ended hraised

theorem visitLoop (header : LoopHeader) (items : List Value) {body body' : Render Flow}
    (h : Paired coupling level Eq body body') :
    Paired coupling level Eq (Render.visitLoop header items body) (Render.visitLoop header items body') := by
  unfold Render.visitLoop
  refine .bind_eq (.evaluate (.counting fun _ ↦ rfl)) fun parent ↦ .bind_eq (.newObject _) fun made ↦
    .inLoop_bind _ _ (.eachItem (fun index item ↦ ?_) 0 items) fun ended hraised ↦ ?_
  · exact .bind_eq (.advance _ index) fun _ ↦ .bind_eq (.modifyContext (.set header.item item)) fun _ ↦ h
  · exact .bind_eq (.settle hraised) fun _ ↦ .same _

theorem loopOffset (hagrees : tools.Agrees coupling.toViewpoint) (header : LoopHeader) :
    Paired coupling level Eq (Render.loopOffset tools header) (Render.loopOffset tools header) := by
  unfold Render.loopOffset
  split
  · refine .context_bind (fun context ↦ ?_) fun _ ↦ .same _
    rw [context.places_unmarked (by decide)]
  · exact .evaluate (hagrees.compositional.offsetArgument _)
  · exact .same _

theorem loop (hagrees : tools.Agrees coupling.toViewpoint) (header : LoopHeader)
    {body body' otherwise otherwise' : Render Flow} (hbody : Paired coupling level Eq body body')
    (hotherwise : Paired coupling level Eq otherwise otherwise') :
    Paired coupling level Eq (Render.loop tools header body otherwise) (Render.loop tools header body' otherwise') := by
  unfold Render.loop
  refine .bind_eq (.evaluate (hagrees.compositional.expr _)) fun collection ↦ .bind_eq (.loopOffset hagrees header)
    fun offset ↦ .bind_eq (.evaluate (hagrees.compositional.loopArgument _)) fun limit ↦ ?_
  refine .bind_eq (.modifyContext (.setRegister (by decide) fun context ↦ ?_)) fun _ ↦
    .ite hotherwise (.visitLoop header _ hbody)
  rw [context.places_unmarked (by decide)]

theorem table (hagrees : tools.Agrees coupling.toViewpoint) (header : TableHeader) {body body' : Render Flow}
    (h : Paired coupling level Eq body body') :
    Paired coupling level Eq (Render.table tools header body) (Render.table tools header body') := by
  unfold Render.table
  refine .bind_eq (.evaluate (hagrees.compositional.expr _)) fun collection ↦
    .bind_eq (.evaluate (hagrees.compositional.offsetArgument _)) fun offset ↦
    .bind_eq (.evaluate (hagrees.compositional.loopArgument _)) fun limit ↦
    .bind_eq (.evaluate (hagrees.compositional.loopArgument _)) fun columns ↦
    .bind_eq (.newObject _) fun made ↦ .bind_eq (.write _) fun _ ↦ ?_
  refine .inLoop_bind _ _ (.eachItem (fun index item ↦ ?_) 0 _) fun ended hraised ↦
    .bind_eq (.write _) fun _ ↦ .bind_eq (.settle hraised) fun _ ↦ .same _
  refine .bind_eq (.advance _ index) fun _ ↦ .bind_eq (.modifyContext (.set header.item item)) fun _ ↦
    .bind_eq (.write _) fun _ ↦ h.attempt_bind fun ended hraised ↦ .bind_eq (.write _) fun _ ↦ ?_
  exact .ite (.bind_eq (.write _) fun _ ↦ .settle hraised) (.settle hraised)

/-! ## Includes -/

theorem eachBound {bind bind' : Value → Render Flow} (h : ∀ item, Paired coupling level Eq (bind item) (bind' item)) :
    ∀ items, Paired coupling level Eq (Render.eachBound bind items) (Render.eachBound bind' items)
  | [] => by
    rw [Render.eachBound, Render.eachBound]
    exact .same _
  | item :: rest => by
    rw [Render.eachBound, Render.eachBound]
    refine .bind_eq (h item) fun flow ↦ ?_
    cases flow with
    | completed => exact eachBound h rest
    | breakLoop => exact .same _
    | continueLoop => exact .same _

theorem bound (binding : Option Binding) (name : String) (value : Option Value) {body body' : Render Flow}
    (h : Paired coupling level Eq body body') :
    Paired coupling level Eq (Render.bound binding name value body) (Render.bound binding name value body') := by
  have hbind (value : Value) : Paired coupling level Eq
      (do
        Render.modifyContext fun context ↦ context.set name value
        body)
      (do
        Render.modifyContext fun context ↦ context.set name value
        body') :=
    .bind_eq (.modifyContext (.set name value)) fun _ ↦ h
  unfold Render.bound
  split
  · exact .ite (.eachBound hbind _) (hbind _)
  · exact hbind _
  · exact h

/-- Behind an include both renders are one level up again. -/
theorem leaveInclude (outer : String) {ended : Except Error Flow}
    (hraised : ∀ error, ended = .error error → coupling.raises error.kind) {left right : RenderState} (drive : Drive)
    (hcoupled : Coupled coupling (level + 1) left right) :
    Met coupling level Eq (Render.leaveInclude outer ended drive left) (Render.leaveInclude outer ended drive right) := by
  have hscopes : right.context.scopes = left.context.scopes := by
    have h := congrArg Context.scopes hcoupled.unmarked
    exact h
  have hleft := (hcoupled.change (.rename outer)).higher
  rw [run_leaveInclude_pop, run_leaveInclude_pop, hscopes]
  cases left.context.scopes.pop? with
  | none => exact .error (coupling.raises_of_ne nofun) hleft
  | some popped =>
    have hclosed := hleft.change (.setScopes popped.2)
    cases ended with
    | ok flow => exact .value rfl hclosed
    | error error => exact .error (hraised error rfl) hclosed

/-- Both renders enter an include, one level down, or neither does. -/
theorem inInclude (name : String) (frame : Entries String Value) {body body' : Render Flow}
    (h : ∀ left right, coupling.rel level left right → left.depth < left.maxDepth →
      Paired coupling (level + 1) Eq body body') :
    Paired coupling level Eq (Render.inInclude name frame body) (Render.inInclude name frame body') := by
  intro drive left right hdrive hcoupled
  have hdepth : right.context.depth = left.context.depth := by
    have h := congrArg Context.depth hcoupled.unmarked
    exact h
  have hmaxDepth : right.context.maxDepth = left.context.maxDepth := by
    have h := congrArg Context.maxDepth hcoupled.unmarked
    exact h
  have hname : right.context.name = left.context.name := by
    have h := congrArg Context.name hcoupled.unmarked
    exact h
  rw [run_inInclude, run_inInclude, hmaxDepth, hname]
  by_cases hdeep : left.context.depth ≥ left.context.maxDepth
  · rw [if_pos hdeep, if_pos (hdepth ▸ hdeep)]
    exact .error (coupling.raises_of_ne nofun) hcoupled
  · have hshallow : left.context.depth < left.context.maxDepth := Nat.lt_of_not_le hdeep
    have hopens : Context.IsPlain fun context ↦ { context.push frame with name := name } :=
      ⟨fun _ ↦ rfl, fun _ ↦ rfl⟩
    have hentered : Coupled coupling (level + 1)
        { left with context := { left.context.push frame with name := name, depth := left.context.depth + 1 } }
        { right with context := { right.context.push frame with name := name, depth := right.context.depth + 1 } } :=
      (hcoupled.change hopens).deeper hshallow
    have hmet := h _ _ hcoupled.marks hshallow drive _ _ hdrive hentered
    rw [if_neg hdeep, if_neg (hdepth ▸ hdeep), run_attempt_bind, run_attempt_bind]
    rcases hleft : body drive { left with context :=
      { left.context.push frame with name := name, depth := left.context.depth + 1 } } with ⟨leftEnd, leftAfter⟩
    rcases hright : body' drive { right with context :=
      { right.context.push frame with name := name, depth := right.context.depth + 1 } } with ⟨rightEnd, rightAfter⟩
    rw [hleft, hright] at hmet
    cases hmet with
    | value hgiven hafter =>
      rw [hgiven]
      exact leaveInclude left.context.name (fun _ herror ↦ by cases herror) drive hafter
    | error hraised hafter =>
      refine leaveInclude left.context.name (fun error herror ↦ ?_) drive hafter
      obtain rfl := Except.error.inj herror
      exact hraised
    | suspended hafter => exact .suspended hafter

/-- Both renders refuse what is nested too deep. -/
theorem tooDeep : Paired coupling level Eq (do Render.fail (.tooDeep (← Render.context).maxDepth) : Render Flow)
    (do Render.fail (.tooDeep (← Render.context).maxDepth)) :=
  .context_bind (fun _ ↦ rfl) fun _ ↦ .fail fun hkind : ErrorKind.recursionLimit = .disabledTag ↦ by cases hkind

/-- Two includes stay coupled if what they load does. -/
theorem included {engine other : Engine} {trees : Block → Block → Prop} {deeper deeper' : Block → Render Flow}
    (htools : other.tools = engine.tools) (hagrees : engine.tools.Agrees coupling.toViewpoint)
    (hload : ∀ name, Paired coupling level trees (Render.load engine name) (Render.load other name))
    (hdeeper : ∀ block block', trees block block' → ∀ left right, coupling.rel level left right →
      left.depth < left.maxDepth → Paired coupling (level + 1) Eq (deeper block) (deeper' block'))
    (inclusion : Inclusion) :
    Paired coupling level Eq (Render.included engine deeper inclusion) (Render.included other deeper' inclusion) := by
  unfold Render.included
  rw [htools]
  refine .bind_eq (.evaluate (hagrees.compositional.templateName _)) fun name ↦
    (hload name).bind fun block block' htrees ↦ .bind_eq (.evaluate (hagrees.compositional.boundValue _ _)) fun value ↦
    .bind_eq (.evaluate (hagrees.compositional.attributeFrame _ _)) fun frame ↦ ?_
  exact .inInclude name frame fun left right hrel hshallow ↦
    .bound _ _ value (hdeeper block block' htrees left right hrel hshallow)

/-! ## Tags that are refused -/

/-- A tag that is not removed is refused by both renders or by neither. -/
theorem refused {name : String} (hkept : name ∉ coupling.removed) (span : Span) {action action' : Render Flow}
    (h : Paired coupling level Eq action action') :
    Paired coupling level Eq
      (do if (← Render.context).isDisabled name then Render.guarded span (Render.fail (.disabledTag name)) else action)
      (do if (← Render.context).isDisabled name then Render.guarded span (Render.fail (.disabledTag name)) else action') := by
  intro drive left right hdrive hcoupled
  obtain ⟨hsame, hraises⟩ := coupling.refuses hcoupled.marks hkept
  have hdisabled : right.context.isDisabled name = left.context.isDisabled name := hsame
  rw [run_bind_ok (run_context drive left), run_bind_ok (run_context drive right), hdisabled]
  by_cases hrefused : left.context.isDisabled name = true
  · rw [if_pos hrefused, if_pos hrefused]
    exact guarded span (.raise (hraises hrefused)) drive left right hdrive hcoupled
  · rw [if_neg hrefused, if_neg hrefused]
    exact h drive left right hdrive hcoupled

/-- A tag that is removed changes nothing for what follows it: the first render only records that it was refused. -/
theorem lost {name : String} (hremoved : name ∈ coupling.removed) (span : Span) {action rest rest' : Render Flow}
    (h : Paired coupling level Eq rest rest') :
    Paired coupling level Eq
      (do
        Render.checkCancelled
        match ← (do
          if (← Render.context).isDisabled name then Render.guarded span (Render.fail (.disabledTag name))
          else action) with
        | .completed => rest
        | flow => return flow)
      rest' := by
  intro drive left right hdrive hcoupled
  obtain ⟨hdisabled, hmode, hloses⟩ := coupling.loses hcoupled.marks hremoved
  have hgoes : Render.checkCancelled drive left = (.ok (), left) := by
    rw [run_checkCancelled, if_neg (coupling.uncancelled hcoupled.shared.met hremoved)]
  have hrefused : left.context.isDisabled name = true := hdisabled
  rw [run_bind_ok hgoes, run_bind, run_bind_ok (run_context drive left), if_pos hrefused,
    run_guarded_fail_suppress rfl span drive hmode]
  refine h drive _ right hdrive ⟨?_, hcoupled.output, hcoupled.shared, ?_⟩
  · exact coupling.alike_lose hcoupled.alike hremoved _
  · exact hloses rfl

end Paired

/-! ## Trees -/

/-- What keeps two renders of trees coupled: includes, and the tags of the host. -/
structure Leads (coupling : Coupling) (level : Nat) (engine other : Engine) (holds : Tag → Prop)
    (inclusions inclusions' : Inclusion → Render Flow) : Prop where
  tools : other.tools = engine.tools
  agrees : engine.tools.Agrees coupling.toViewpoint
  includes : ∀ inclusion, Paired coupling level Eq (inclusions inclusion) (inclusions' inclusion)
  runs : ∀ registration block name markup {body body' : Render Flow}, holds (.custom registration block) →
    Paired coupling level Eq body body' →
      Paired coupling level Eq (custom engine registration name markup body) (custom other registration name markup body')

namespace Leads

variable {engine other : Engine} {holds : Tag → Prop} {inclusions inclusions' : Inclusion → Render Flow}

/-- Both renders go on behind a node if its flow does not leave the block. -/
theorem inOrder {first first' rest rest' : Render Flow} (hfirst : Paired coupling level Eq first first')
    (hrest : Paired coupling level Eq rest rest') :
    Paired coupling level Eq
      (do
        checkCancelled
        match ← first with
        | .completed => rest
        | flow => return flow)
      (do
        checkCancelled
        match ← first' with
        | .completed => rest'
        | flow => return flow) := by
  refine .bind_eq .checkCancelled fun _ ↦ .bind_eq hfirst fun flow ↦ ?_
  cases flow with
  | completed => exact hrest
  | breakLoop => exact .same _
  | continueLoop => exact .same _

mutual

/-- A tree and the tree without the removed tags keep two renders coupled. -/
theorem nodes (rules : Leads coupling level engine other holds inclusions inclusions') :
    ∀ body, AllTags holds body →
      Paired coupling level Eq (Render.nodes engine inclusions body)
        (Render.nodes other inclusions' (without coupling.removed body))
  | [], _ => by
    rw [without, Render.nodes, Render.nodes]
    exact .same _
  | .text content :: rest, h => by
    rw [AllTags] at h
    rw [without, Render.nodes, Render.nodes, Render.node, Render.node]
    exact inOrder (.bind_eq (.write content) fun _ ↦ .same _) (rules.nodes rest h.2)
  | .output markup span :: rest, h => by
    rw [AllTags] at h
    rw [without, Render.nodes, Render.nodes, Render.node, Render.node, rules.tools]
    exact inOrder (.guarded span (.output rules.agrees markup span)) (rules.nodes rest h.2)
  | .tag name markup span action :: rest, h => by
    rw [AllTags, AllTagsOfNode] at h
    rw [without, Render.nodes, Render.node]
    by_cases hremoved : name ∈ coupling.removed
    · rw [if_pos hremoved]
      exact .lost hremoved span (rules.nodes rest h.2)
    · rw [if_neg hremoved, Render.nodes, Render.node]
      exact inOrder (.refused hremoved span (.guarded span (rules.tag name markup action h.1))) (rules.nodes rest h.2)

/-- What a tag does keeps two renders coupled. -/
theorem tag (rules : Leads coupling level engine other holds inclusions inclusions') (name markup : String) :
    ∀ action, AllTagsOfTag holds action →
      Paired coupling level Eq (Render.tag engine inclusions name markup action)
        (Render.tag other inclusions' name markup (withoutTag coupling.removed action))
  | .assign target value, _ => by
    rw [withoutTag, Render.tag, Render.tag, rules.tools]
    exact .bind_eq (.evaluate (rules.agrees.compositional.markup value)) fun _ ↦
      .bind_eq (.modifyContext (.assign _ _)) fun _ ↦ .same _
  | .capture target body, h => by
    rw [AllTagsOfTag] at h
    rw [withoutTag, Render.tag, Render.tag]
    exact .bind_eq (.captured (rules.nodes body h.2)) fun _ ↦ .bind_eq (.modifyContext (.assign _ _)) fun _ ↦ .same _
  | .case subject whens otherwise, h => by
    rw [AllTagsOfTag] at h
    rw [withoutTag, Render.tag, Render.tag, rules.tools]
    exact .bind_eq (.evaluate (rules.agrees.compositional.expr subject)) fun value ↦
      rules.cases value (rules.optional otherwise h.2.2) false whens h.2.1
  | .comment, _ => by
    rw [withoutTag, Render.tag, Render.tag]
    exact .same _
  | .cycle group values, _ => by
    rw [withoutTag, Render.tag, Render.tag, rules.tools]
    exact .cycle rules.agrees group values
  | .increment name, _ => by
    rw [withoutTag, Render.tag, Render.tag]
    exact .bind_eq (.counter name) fun _ ↦ .bind_eq (.write _) fun _ ↦ .bind_eq (.modifyContext (.assign _ _)) fun _ ↦ .same _
  | .decrement name, _ => by
    rw [withoutTag, Render.tag, Render.tag]
    exact .bind_eq (.counter name) fun _ ↦ .bind_eq (.write _) fun _ ↦ .bind_eq (.modifyContext (.assign _ _)) fun _ ↦ .same _
  | .loop header body otherwise, h => by
    rw [AllTagsOfTag] at h
    rw [withoutTag, Render.tag, Render.tag, rules.tools]
    exact .loop rules.agrees header (rules.nodes body h.2.1) (rules.optional otherwise h.2.2)
  | .breakLoop, _ => by
    rw [withoutTag, Render.tag, Render.tag]
    exact .leaveBody .breakLoop
  | .continueLoop, _ => by
    rw [withoutTag, Render.tag, Render.tag]
    exact .leaveBody .continueLoop
  | .branch negated conditions otherwise, h => by
    rw [AllTagsOfTag] at h
    rw [withoutTag, Render.tag, Render.tag, rules.tools]
    exact rules.branches (rules.optional otherwise h.2.2) negated conditions h.2.1
  | .ifChanged body, h => by
    rw [AllTagsOfTag] at h
    rw [withoutTag, Render.tag, Render.tag]
    exact .bind_eq (.captured (rules.nodes body h.2)) fun _ ↦ .bind_eq (.ifChanged _) fun _ ↦ .same _
  | .include inclusion, _ => by
    rw [withoutTag, Render.tag, Render.tag]
    exact rules.includes inclusion
  | .table header body, h => by
    rw [AllTagsOfTag] at h
    rw [withoutTag, Render.tag, Render.tag, rules.tools]
    exact .table rules.agrees header (rules.nodes body h.2)
  | .custom registration body, h => by
    rw [AllTagsOfTag] at h
    rw [withoutTag, Render.tag, Render.tag]
    exact rules.runs registration body name markup h.1 (rules.optional body h.2)

/-- A block that may be missing keeps two renders coupled. -/
theorem optional (rules : Leads coupling level engine other holds inclusions inclusions') :
    ∀ body, AllTagsOfOption holds body →
      Paired coupling level Eq (Render.optional engine inclusions body)
        (Render.optional other inclusions' (withoutOption coupling.removed body))
  | none, _ => by
    rw [withoutOption, Render.optional, Render.optional]
    exact .same _
  | some body, h => by
    rw [AllTagsOfOption] at h
    rw [withoutOption, Render.optional, Render.optional]
    exact rules.nodes body h

/-- Both renders choose the same branch. -/
theorem branches (rules : Leads coupling level engine other holds inclusions inclusions') {otherwise otherwise' : Render Flow}
    (hotherwise : Paired coupling level Eq otherwise otherwise') :
    ∀ negated conditions, AllTagsOfBranches holds conditions →
      Paired coupling level Eq
        (Render.branches engine.tools otherwise negated (branchBodies engine inclusions conditions))
        (Render.branches engine.tools otherwise' negated
          (branchBodies other inclusions' (withoutBranches coupling.removed conditions)))
  | negated, [], _ => by
    rw [withoutBranches, branchBodies, branchBodies, Render.branches, Render.branches]
    exact hotherwise
  | negated, (condition, body) :: rest, h => by
    rw [AllTagsOfBranches] at h
    rw [withoutBranches, branchBodies, branchBodies, Render.branches, Render.branches]
    exact .bind_eq (.evaluate (rules.agrees.compositional.condition condition)) fun _ ↦
      .ite (rules.nodes body h.1) (rules.branches hotherwise false rest h.2)

/-- Both renders choose the same blocks behind values. -/
theorem cases (rules : Leads coupling level engine other holds inclusions inclusions') (subject : Value)
    {otherwise otherwise' : Render Flow} (hotherwise : Paired coupling level Eq otherwise otherwise') :
    ∀ matched whens, AllTagsOfWhens holds whens →
      Paired coupling level Eq
        (Render.cases engine.tools subject otherwise matched (whenBodies engine inclusions whens))
        (Render.cases engine.tools subject otherwise' matched
          (whenBodies other inclusions' (withoutWhens coupling.removed whens)))
  | matched, [], _ => by
    rw [withoutWhens, whenBodies, whenBodies, Render.cases, Render.cases]
    exact .ite (.same _) hotherwise
  | matched, (values, body) :: rest, h => by
    rw [AllTagsOfWhens] at h
    rw [withoutWhens, whenBodies, whenBodies, Render.cases, Render.cases]
    refine .bind_eq (.evaluate (rules.agrees.compositional.anyEqual subject values)) fun _ ↦
      .ite (.bind_eq (rules.nodes body h.1) fun flow ↦ ?_) (rules.cases subject hotherwise matched rest h.2)
    cases flow with
    | completed => exact rules.cases subject hotherwise true rest h.2
    | breakLoop => exact .same _
    | continueLoop => exact .same _

end

end Leads

end Liquid.Render
