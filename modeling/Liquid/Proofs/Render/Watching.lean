import Liquid.Render.Tree

/-!
# Renders that are watched

A watch is something that is done wherever a node is about to be rendered, in the place of the question whether the render
has been cancelled. A render whose watch asks just that is the render itself. Other watches see at which nodes a render
arrives, in whatever block, loop or included template they are.
-/

namespace Liquid.Render

variable {engine : Engine} {inclusions : Inclusion → Render Flow}

mutual

/-- Renders nodes one after the other until a flow leaves them, with a watch at each of them. -/
def watchedNodes (engine : Engine) (watch : Node → Render Unit) (inclusions : Inclusion → Render Flow) :
    List Node → Render Flow
  | [] => return .completed
  | first :: rest => do
    watch first
    match ← watchedNode engine watch inclusions first with
    | .completed => watchedNodes engine watch inclusions rest
    | flow => return flow

/-- Renders a node with a watch at the nodes of its blocks. -/
def watchedNode (engine : Engine) (watch : Node → Render Unit) (inclusions : Inclusion → Render Flow) :
    Node → Render Flow
  | .text content => node engine inclusions (.text content)
  | .output markup span => node engine inclusions (.output markup span)
  | .tag name markup span action => do
    if (← context).isDisabled name then guarded span (fail (.disabledTag name))
    else guarded span (watchedTag engine watch inclusions name markup action)

/-- Does what a tag does with a watch at the nodes of its blocks. -/
def watchedTag (engine : Engine) (watch : Node → Render Unit) (inclusions : Inclusion → Render Flow)
    (name markup : String) : Tag → Render Flow
  | .assign target value => tag engine inclusions name markup (.assign target value)
  | .capture target body => do
    let (text, flow) ← captured (watchedNodes engine watch inclusions body)
    modifyContext fun context ↦ context.assign target (.string text)
    return flow
  | .case subject whens otherwise => do
    let subject ← evaluate (subject.eval engine.tools)
    cases engine.tools subject (watchedOptional engine watch inclusions otherwise) false
      (watchedWhens engine watch inclusions whens)
  | .comment => tag engine inclusions name markup .comment
  | .cycle group values => tag engine inclusions name markup (.cycle group values)
  | .increment counter => tag engine inclusions name markup (.increment counter)
  | .decrement counter => tag engine inclusions name markup (.decrement counter)
  | .loop header body otherwise =>
    loop engine.tools header (watchedNodes engine watch inclusions body)
      (watchedOptional engine watch inclusions otherwise)
  | .breakLoop => tag engine inclusions name markup .breakLoop
  | .continueLoop => tag engine inclusions name markup .continueLoop
  | .branch negated conditions otherwise =>
    branches engine.tools (watchedOptional engine watch inclusions otherwise) negated
      (watchedBranches engine watch inclusions conditions)
  | .ifChanged body => do
    let (text, flow) ← captured (watchedNodes engine watch inclusions body)
    ifChanged text
    return flow
  | .include inclusion => tag engine inclusions name markup (.include inclusion)
  | .table header body => table engine.tools header (watchedNodes engine watch inclusions body)
  | .custom registration body =>
    custom engine registration name markup (watchedOptional engine watch inclusions body)

/-- Renders a block that may be missing with a watch at its nodes. -/
def watchedOptional (engine : Engine) (watch : Node → Render Unit) (inclusions : Inclusion → Render Flow) :
    Option (List Node) → Render Flow
  | none => return .completed
  | some body => watchedNodes engine watch inclusions body

/-- Conditions with what renders their blocks with a watch. -/
def watchedBranches (engine : Engine) (watch : Node → Render Unit) (inclusions : Inclusion → Render Flow) :
    List (Condition × List Node) → List (Condition × Render Flow)
  | [] => []
  | (condition, body) :: rest =>
    (condition, watchedNodes engine watch inclusions body) :: watchedBranches engine watch inclusions rest

/-- Values with what renders their blocks with a watch. -/
def watchedWhens (engine : Engine) (watch : Node → Render Unit) (inclusions : Inclusion → Render Flow) :
    List (List Expr × List Node) → List (List Expr × Render Flow)
  | [] => []
  | (values, body) :: rest =>
    (values, watchedNodes engine watch inclusions body) :: watchedWhens engine watch inclusions rest

end

/-- Renders a block with a watch at its nodes and at those of included templates, which may nest the given number of
times. -/
def watchedBlockWithin (engine : Engine) (watch : Node → Render Unit) : (remaining : Nat) → Block → Render Flow
  | 0, body => watchedNodes engine watch (included engine fun _ ↦ do fail (.tooDeep (← context).maxDepth)) body
  | remaining + 1, body =>
    watchedNodes engine watch (included engine fun block ↦ watchedBlockWithin engine watch remaining block) body

/-- Renders a block with a watch at every node. -/
def watchedBlock (engine : Engine) (watch : Node → Render Unit) (body : Block) : Render Flow := do
  let context ← context
  watchedBlockWithin engine watch (context.maxDepth - context.depth) body

/-! ## The watch of the renderer itself -/

mutual

theorem watchedNodes_checkCancelled :
    ∀ body, watchedNodes engine (fun _ ↦ checkCancelled) inclusions body = nodes engine inclusions body
  | [] => by rw [watchedNodes, nodes]
  | first :: rest => by
    have hfirst := watchedNode_checkCancelled first
    have hrest := watchedNodes_checkCancelled rest
    have hsame := congr (congrArg (fun (first rest : Render Flow) ↦ do
      checkCancelled
      match ← first with
      | .completed => rest
      | flow => return flow) hfirst) hrest
    rw [watchedNodes, nodes]
    exact hsame

theorem watchedNode_checkCancelled :
    ∀ node, watchedNode engine (fun _ ↦ checkCancelled) inclusions node = Render.node engine inclusions node
  | .text content => by rw [watchedNode]
  | .output markup span => by rw [watchedNode]
  | .tag name markup span action => by rw [watchedNode, Render.node, watchedTag_checkCancelled name markup action]

theorem watchedTag_checkCancelled (name markup : String) :
    ∀ action, watchedTag engine (fun _ ↦ checkCancelled) inclusions name markup action =
      tag engine inclusions name markup action
  | .assign target value => by rw [watchedTag]
  | .capture target body => by rw [watchedTag, tag, watchedNodes_checkCancelled body]
  | .case subject whens otherwise => by
    rw [watchedTag, tag, watchedOptional_checkCancelled otherwise, watchedWhens_checkCancelled whens]
  | .comment => by rw [watchedTag]
  | .cycle group values => by rw [watchedTag]
  | .increment counter => by rw [watchedTag]
  | .decrement counter => by rw [watchedTag]
  | .loop header body otherwise => by
    rw [watchedTag, tag, watchedNodes_checkCancelled body, watchedOptional_checkCancelled otherwise]
  | .breakLoop => by rw [watchedTag]
  | .continueLoop => by rw [watchedTag]
  | .branch negated conditions otherwise => by
    rw [watchedTag, tag, watchedOptional_checkCancelled otherwise, watchedBranches_checkCancelled conditions]
  | .ifChanged body => by rw [watchedTag, tag, watchedNodes_checkCancelled body]
  | .include inclusion => by rw [watchedTag]
  | .table header body => by rw [watchedTag, tag, watchedNodes_checkCancelled body]
  | .custom registration body => by rw [watchedTag, tag, watchedOptional_checkCancelled body]

theorem watchedOptional_checkCancelled :
    ∀ body, watchedOptional engine (fun _ ↦ checkCancelled) inclusions body = optional engine inclusions body
  | none => by rw [watchedOptional, optional]
  | some body => by rw [watchedOptional, optional, watchedNodes_checkCancelled body]

theorem watchedBranches_checkCancelled :
    ∀ conditions, watchedBranches engine (fun _ ↦ checkCancelled) inclusions conditions =
      branchBodies engine inclusions conditions
  | [] => by rw [watchedBranches, branchBodies]
  | (condition, body) :: rest => by
    rw [watchedBranches, branchBodies, watchedNodes_checkCancelled body, watchedBranches_checkCancelled rest]

theorem watchedWhens_checkCancelled :
    ∀ whens, watchedWhens engine (fun _ ↦ checkCancelled) inclusions whens = whenBodies engine inclusions whens
  | [] => by rw [watchedWhens, whenBodies]
  | (values, body) :: rest => by
    rw [watchedWhens, whenBodies, watchedNodes_checkCancelled body, watchedWhens_checkCancelled rest]

end

theorem watchedBlockWithin_checkCancelled (engine : Engine) :
    ∀ remaining, watchedBlockWithin engine (fun _ ↦ checkCancelled) remaining = blockWithin engine remaining
  | 0 => by
    funext body
    rw [watchedBlockWithin, blockWithin, watchedNodes_checkCancelled body]
  | remaining + 1 => by
    funext body
    rw [watchedBlockWithin, blockWithin, watchedNodes_checkCancelled body, watchedBlockWithin_checkCancelled engine remaining]

/-- A render that asks at every node whether it has been cancelled is the render itself. -/
theorem watchedBlock_checkCancelled (engine : Engine) (body : Block) :
    watchedBlock engine (fun _ ↦ checkCancelled) body = block engine body := by
  simp only [watchedBlock, block, watchedBlockWithin_checkCancelled]

end Liquid.Render
