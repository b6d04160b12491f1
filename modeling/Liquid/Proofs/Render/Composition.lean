import Liquid.Proofs.Template.Tags
import Liquid.Render.Tree

/-!
# Properties of renders that every construct passes on

A tree is rendered by one action that is put together from the actions of its parts. A property of actions that the
action of each construct has as soon as its parts have it holds of the action of every tree.
-/

namespace Liquid.Render

open Template

/-- Each construct of the language passes a property of actions on from its parts to the whole. Only tags with the
given property have to. -/
structure Compositional (engine : Engine) (inclusions : Inclusion → Render Flow) (holds : Tag → Prop)
    (good : Render Flow → Prop) : Prop where
  nothing : good (return .completed)
  writes : ∀ content, good (do write content; return .completed)
  prints : ∀ markup span, good (output engine.tools markup span)
  guards : ∀ span action, good action → good (guarded span action)
  refuses : ∀ name span action, good action →
    good (do if (← context).isDisabled name then guarded span (fail (.disabledTag name)) else action)
  inOrder : ∀ first rest, good first → good rest →
    good (do
      checkCancelled
      match ← first with
      | .completed => rest
      | flow => return flow)
  assigns : ∀ target (value : Markup), good (do
    let value ← evaluate (value.eval engine.tools)
    modifyContext fun context ↦ context.assign target value
    return .completed)
  captures : ∀ target body, holds (.capture target body) → good (nodes engine inclusions body) →
    good (do
      let (text, flow) ← captured (nodes engine inclusions body)
      modifyContext fun context ↦ context.assign target (.string text)
      return flow)
  selects : ∀ (subject : Expr) whens otherwise, (∀ branch ∈ whens, good branch.2) → good otherwise →
    good (do
      let subject ← evaluate (subject.eval engine.tools)
      cases engine.tools subject otherwise false whens)
  cycles : ∀ group values, good (cycle engine.tools group values)
  increments : ∀ name, good (do
    let current ← counter name
    write (toString current.toInt)
    modifyContext fun context ↦ context.assign name (.int (current + 1))
    return .completed)
  decrements : ∀ name, good (do
    let current := (← counter name) - 1
    write (toString current.toInt)
    modifyContext fun context ↦ context.assign name (.int current)
    return .completed)
  repeats : ∀ header body otherwise, good body → good otherwise → good (loop engine.tools header body otherwise)
  leaves : ∀ flow, good (leaveBody flow)
  decides : ∀ negated conditions otherwise, (∀ branch ∈ conditions, good branch.2) → good otherwise →
    good (branches engine.tools otherwise negated conditions)
  detects : ∀ body, good body → good (do
    let (text, flow) ← captured body
    ifChanged text
    return flow)
  includes : ∀ inclusion, good (inclusions inclusion)
  tabulates : ∀ header body, good body → good (table engine.tools header body)
  runs : ∀ registration name markup body, holds (.custom registration body) →
    good (optional engine inclusions body) →
      good (custom engine registration name markup (optional engine inclusions body))

namespace Compositional

variable {engine : Engine} {inclusions : Inclusion → Render Flow} {holds : Tag → Prop} {good : Render Flow → Prop}

mutual

/-- The action of a block has a compositional property. -/
theorem nodes (rules : Compositional engine inclusions holds good) :
    ∀ body, AllTags holds body → good (Render.nodes engine inclusions body)
  | [], _ => by
    rw [Render.nodes]
    exact rules.nothing
  | first :: rest, h => by
    rw [AllTags] at h
    rw [Render.nodes]
    exact rules.inOrder _ _ (rules.node first h.1) (rules.nodes rest h.2)

/-- The action of a node has a compositional property. -/
theorem node (rules : Compositional engine inclusions holds good) :
    ∀ node, AllTagsOfNode holds node → good (Render.node engine inclusions node)
  | .text content, _ => by
    rw [Render.node]
    exact rules.writes content
  | .output markup span, _ => by
    rw [Render.node]
    exact rules.guards span _ (rules.prints markup span)
  | .tag name markup span action, h => by
    rw [AllTagsOfNode] at h
    rw [Render.node]
    exact rules.refuses name span _ (rules.guards span _ (rules.tag name markup action h))

/-- What a tag does has a compositional property. -/
theorem tag (rules : Compositional engine inclusions holds good) (name markup : String) :
    ∀ action, AllTagsOfTag holds action → good (Render.tag engine inclusions name markup action)
  | .assign target value, _ => by
    rw [Render.tag]
    exact rules.assigns target value
  | .capture target body, h => by
    rw [AllTagsOfTag] at h
    rw [Render.tag]
    exact rules.captures target body h.1 (rules.nodes body h.2)
  | .case subject whens otherwise, h => by
    rw [AllTagsOfTag] at h
    rw [Render.tag]
    exact rules.selects subject _ _ (rules.whenBodies whens h.2.1) (rules.optional otherwise h.2.2)
  | .comment, _ => by
    rw [Render.tag]
    exact rules.nothing
  | .cycle group values, _ => by
    rw [Render.tag]
    exact rules.cycles group values
  | .increment name, _ => by
    rw [Render.tag]
    exact rules.increments name
  | .decrement name, _ => by
    rw [Render.tag]
    exact rules.decrements name
  | .loop header body otherwise, h => by
    rw [AllTagsOfTag] at h
    rw [Render.tag]
    exact rules.repeats header _ _ (rules.nodes body h.2.1) (rules.optional otherwise h.2.2)
  | .breakLoop, _ => by
    rw [Render.tag]
    exact rules.leaves .breakLoop
  | .continueLoop, _ => by
    rw [Render.tag]
    exact rules.leaves .continueLoop
  | .branch negated conditions otherwise, h => by
    rw [AllTagsOfTag] at h
    rw [Render.tag]
    exact rules.decides negated _ _ (rules.branchBodies conditions h.2.1) (rules.optional otherwise h.2.2)
  | .ifChanged body, h => by
    rw [AllTagsOfTag] at h
    rw [Render.tag]
    exact rules.detects _ (rules.nodes body h.2)
  | .include inclusion, _ => by
    rw [Render.tag]
    exact rules.includes inclusion
  | .table header body, h => by
    rw [AllTagsOfTag] at h
    rw [Render.tag]
    exact rules.tabulates header _ (rules.nodes body h.2)
  | .custom registration body, h => by
    rw [AllTagsOfTag] at h
    rw [Render.tag]
    exact rules.runs registration name markup body h.1 (rules.optional body h.2)

/-- The action of a block that may be missing has a compositional property. -/
theorem optional (rules : Compositional engine inclusions holds good) :
    ∀ body, AllTagsOfOption holds body → good (Render.optional engine inclusions body)
  | none, _ => by
    rw [Render.optional]
    exact rules.nothing
  | some body, h => by
    rw [AllTagsOfOption] at h
    rw [Render.optional]
    exact rules.nodes body h

/-- The actions of branches have a compositional property. -/
theorem branchBodies (rules : Compositional engine inclusions holds good) :
    ∀ conditions, AllTagsOfBranches holds conditions →
      ∀ branch ∈ Render.branchBodies engine inclusions conditions, good branch.2
  | [], _ => by simp [Render.branchBodies]
  | (condition, body) :: rest, h => by
    rw [AllTagsOfBranches] at h
    rw [Render.branchBodies]
    exact List.forall_mem_cons.2 ⟨rules.nodes body h.1, rules.branchBodies rest h.2⟩

/-- The actions of the blocks behind values have a compositional property. -/
theorem whenBodies (rules : Compositional engine inclusions holds good) :
    ∀ whens, AllTagsOfWhens holds whens → ∀ branch ∈ Render.whenBodies engine inclusions whens, good branch.2
  | [], _ => by simp [Render.whenBodies]
  | (values, body) :: rest, h => by
    rw [AllTagsOfWhens] at h
    rw [Render.whenBodies]
    exact List.forall_mem_cons.2 ⟨rules.nodes body h.1, rules.whenBodies rest h.2⟩

end

end Compositional

end Liquid.Render
