import Liquid.Proofs.Render.Abreast
import Liquid.Proofs.Session.Caching
import Liquid.Proofs.Session.Recursion

/-!
# After a cancellation nothing more begins

A render asks before each node whether it has been cancelled. No node begins in a render that has been cancelled, and if one
was still to come the render fails, in every error mode and however deep in loops, captures and includes the node is.
Filters may cancel a render at any point; as long as they do not take a cancellation back, nothing else does.
-/

namespace Liquid

open Render Template

/-- Both renders do the same until the first one fails because it has been cancelled; nothing takes a cancellation back. -/
def Contrast.cancellation : Contrast where
  together left right := left = right
  hopeless failure := ∃ error : Error, failure = .error error ∧ error.kind = .cancelled
  spoiled _ := False
  token before after := before = some true → after = some true
  token_refl _ := id
  token_trans earlier later h := later (earlier h)
  spoiled_suffix := False.elim
  hopeless_locate := by
    rintro error place ⟨_, ⟨⟩, hkind⟩
    exact ⟨_, rfl, hkind⟩
  hopeless_record := by
    rintro error ⟨_, ⟨⟩, hkind⟩
    exact .inl (by rw [hkind]; rfl)
  together_record _ h := .inr (by rw [h])
  together_recordMissing _ h := by rw [h]
  together_strict h := .inl (by rw [h])

theorem Context.Abreast.eq_of_cancellation {left right : Context} (h : left.Abreast .cancellation right) :
    right = left :=
  h.eq_of_aside h.together

theorem Render.Abreast.eq_of_cancellation {left right : RenderState} (h : Abreast .cancellation left right) :
    right = left := by
  have hcontext := h.context.eq_of_cancellation
  have hmain (state : RenderState) : state = { state.main with context := state.context } := rfl
  rw [hmain right, h.main, hcontext]
  rfl

/-- Whether a filter leaves a render cancelled that has been cancelled. -/
def Filter.KeepsCancelled (filter : Filter) : Prop :=
  ∀ arguments context counts, counts.cancelled = some true →
    (filter.run arguments context counts).2.cancelled = some true

theorem Filter.KeepsCancelled.suits {filter : Filter} (h : filter.KeepsCancelled) : filter.Suits .cancellation where
  run_eq _ _ _ _ habreast := by rw [habreast.eq_of_cancellation]
  token := h

namespace Render

variable {engine : Engine} {holds : Tag → Prop} {watch : Node → Render Unit}

/-- A watch that does nothing as long as the render has not been cancelled. -/
def IsLate (watch : Node → Render Unit) : Prop :=
  ∀ node drive state, state.shared.counts.cancelled ≠ some true → watch node drive state = (.ok (), state)

/-- Where a late watch could see something, the render fails because it has been cancelled. -/
theorem IsLate.alongside (h : IsLate watch) (node : Node) :
    Alongside .cancellation engine holds Restored checkCancelled (watch node) where
  keeps := .checkCancelled
  token drive state _ := by
    rw [run_checkCancelled]
    exact id
  ends drive left right _ habreast := by
    rw [habreast.eq_of_cancellation, run_checkCancelled]
    by_cases hcancelled : left.shared.counts.cancelled = some true
    · rw [if_pos hcancelled]
      exact .lost (.inl ⟨_, rfl, _, rfl, rfl⟩)
    · rw [if_neg hcancelled, h node drive left hcancelled]
      exact .abreast ⟨rfl, rfl⟩

/-- Behind the question whether the render has been cancelled, a late watch never sees anything. -/
theorem IsLate.checkCancelled_bind (h : IsLate watch) :
    (fun node ↦ do checkCancelled; watch node) = fun _ ↦ checkCancelled := by
  funext node drive state
  rw [run_bind, run_checkCancelled]
  by_cases hcancelled : state.shared.counts.cancelled = some true
  · rw [if_pos hcancelled]
  · rw [if_neg hcancelled]
    exact h node drive state hcancelled

/-- A block with nodes does not begin in a render that has been cancelled. -/
theorem nodes_of_cancelled {inclusions : Inclusion → Render Flow} {body : Block} (hbody : body ≠ []) (drive : Drive)
    {state : RenderState} (hcancelled : state.shared.counts.cancelled = some true) :
    nodes engine inclusions body drive state = (.error (.error (.of .cancelled)), state) := by
  cases body with
  | nil => exact (hbody rfl).elim
  | cons first rest => rw [nodes, run_bind, run_checkCancelled, if_pos hcancelled]

theorem block_of_cancelled {body : Block} (hbody : body ≠ []) (drive : Drive) {state : RenderState}
    (hcancelled : state.shared.counts.cancelled = some true) :
    block engine body drive state = (.error (.error (.of .cancelled)), state) := by
  unfold block
  rw [run_bind_ok (run_context drive state)]
  cases state.context.maxDepth - state.context.depth with
  | zero => exact nodes_of_cancelled hbody drive hcancelled
  | succ remaining => exact nodes_of_cancelled hbody drive hcancelled

/-- A node leaves a render cancelled that has been cancelled before it or within it. -/
theorem node_keepsCancelled (hsuit : engine.tools.Suit .cancellation) (remaining : Nat) {node : Node}
    (hnode : AllTagsOfNode Tag.IsBuiltin node) (drive : Drive) {state : RenderState}
    (hincludes : IncludesOnly engine Tag.IsBuiltin state) (hcancelled : state.shared.counts.cancelled = some true) :
    (Render.node engine (included engine (blockWithin engine remaining)) node drive state).2.shared.counts.cancelled =
      some true := by
  have hdeeper (block : Block) (hblock : AllTags Tag.IsBuiltin block) :
      Alongside .cancellation engine Tag.IsBuiltin Restored (blockWithin engine remaining block)
        (blockWithin engine remaining block) := by
    have hwatched := Alongside.blockWithin hsuit (fun _ h ↦ h) (fun _ ↦ .checkCancelled) remaining block hblock
    rwa [watchedBlockWithin_checkCancelled] at hwatched
  have rules : Accompanies .cancellation engine Tag.IsBuiltin (fun _ ↦ checkCancelled)
      (included engine (blockWithin engine remaining)) (included engine (blockWithin engine remaining)) :=
    ⟨hsuit, fun _ h ↦ h, fun _ ↦ .checkCancelled, .included hsuit hdeeper⟩
  exact (rules.node node hnode).token drive state hincludes hcancelled

end Render

namespace Session

/-- No node begins in a render that has been cancelled: what is done there behind the question whether it has been does
nothing. If there is a node at which that could have been seen, the render fails because it has been cancelled. What has been
cancelled stays so in whatever node the render is, and a render that is cancelled from the start fails at its first node. -/
theorem render_after_cancellation (session : Session) (number : Nat) (template : Template) (drive : Drive)
    (inputs : Value) (options : RenderOptions) (htemplate : session.template? number = some template)
    (hfilters : session.environment.filters.All Filter.KeepsCancelled)
    (hlocal : options.filters.All Filter.KeepsCancelled) (hroot : AllTags Tag.IsBuiltin template.root)
    (hincludes : IncludesOnly (session.environment.engine options.filters) Tag.IsBuiltin
      (session.renderState template inputs options)) :
    let engine := session.environment.engine options.filters
    let start := session.renderState template inputs options
    let run := session.rendering template drive inputs options
    let result := (render drive number inputs options session).1
    (∀ watch, IsLate watch →
      watchedBlock engine (fun node ↦ do checkCancelled; watch node) template.root drive start = run) ∧
    (∀ watch, IsLate watch → watchedBlock engine watch template.root drive start = run ∨
      ∃ error, result = .error error ∧ error.kind = .cancelled) ∧
    (∀ remaining node drive state, AllTagsOfNode Tag.IsBuiltin node → IncludesOnly engine Tag.IsBuiltin state →
      state.shared.counts.cancelled = some true →
        (Render.node engine (included engine (blockWithin engine remaining)) node drive state).2.shared.counts.cancelled =
          some true) ∧
    (options.cancelled = some true → template.root ≠ [] → result = .error (.of .cancelled)) := by
  intro engine start run result
  have hsuit : engine.tools.Suit .cancellation := ⟨hlocal.mono fun _ h ↦ h.suits, hfilters.mono fun _ h ↦ h.suits⟩
  have hresult : result = outcome run := render_eq_outcome htemplate drive inputs options
  refine ⟨fun watch hlate ↦ ?_, fun watch hlate ↦ ?_, fun remaining node drive state hnode hreached hcancelled ↦ ?_,
    fun hcancelled hnodes ↦ ?_⟩
  · rw [hlate.checkCancelled_bind, watchedBlock_checkCancelled]
    rfl
  · have halongside := Alongside.block hsuit (fun _ h ↦ h) hlate.alongside hroot
    have hends : EndAbreast .cancellation run (watchedBlock engine watch template.root drive start) :=
      halongside.ends drive start start hincludes ⟨rfl, rfl⟩
    obtain (⟨failure, hfailed, error, rfl, hkind⟩ | hspoiled) | ⟨hended, habreast⟩ := hends.lost_or_abreast
    · exact .inr ⟨error, hresult.trans (outcome_of_error hfailed), hkind⟩
    · exact hspoiled.elim
    · exact .inl (Prod.ext hended habreast.eq_of_cancellation)
  · exact node_keepsCancelled hsuit remaining hnode drive hreached hcancelled
  · have hfailed : run = (.error (.error (.of .cancelled)), start) := block_of_cancelled hnodes drive hcancelled
    rw [hresult, hfailed]
    rfl

/-- A filter that cancels the render. -/
def stopping : Filter := .atOnce [.one .value] fun (value, ()) ↦ do
  Query.cancel
  return value

/-- A page with a loop over one and two that cancels the render at its first item, and a text behind the loop. -/
def stoppedPage : Template where
  name := "page"
  source := "\x7b% for x in (1..2) %\x7da\x7b\x7b x | stop \x7d\x7d\x7b% endfor %\x7db"
  root :=
    [.tag "for" "x in (1..2)" ⟨.first, .first⟩
      (.loop ⟨"x", .range (.literal (.int 1)) (.literal (.int 2)), "x-(1..2)", false, none, none⟩
        [.text "a", .output ⟨"x", .path [.member "x"], [.mk "stop" [] []]⟩ ⟨.first, .first⟩] none), .text "b"]
  assigned := []
  isThreadSafe := false

/-- A session with the page, in which errors are suppressed. -/
def stoppedSession : Session :=
  { start { Environment.empty with errorMode := .suppress, filters := FilterSet.ofList [("stop", stopping)] } 0 with
    templates := [stoppedPage] }

/-- Options with which a render can be cancelled. -/
def stoppableOptions : RenderOptions := { RenderOptions.none with cancelled := some false }

/-- A watch that writes something in a render that has been cancelled. -/
def alarm (_node : Node) : Render Unit := do
  if (← get).shared.counts.cancelled = some true then write "!"

theorem alarm_isLate : IsLate alarm := by
  intro node drive state hcancelled
  unfold alarm
  rw [run_bind_ok (run_get drive state), if_neg hcancelled]
  rfl

theorem render_after_cancellation_stopped :
    ∃ error, (render .blocking 0 .nil stoppableOptions stoppedSession).1 = .error error ∧ error.kind = .cancelled := by
  have hfilters : stoppedSession.environment.filters.All Filter.KeepsCancelled := by
    refine .ofList fun entry hentry ↦ ?_
    obtain rfl := List.mem_singleton.1 hentry
    rintro ⟨value, ⟨⟩⟩ context counts hcancelled
    change counts.cancelled.map (fun _ ↦ true) = some true
    rw [hcancelled, Option.map_some]
  have hroot : AllTags Tag.IsBuiltin stoppedPage.root := ⟨⟨trivial, ⟨trivial, trivial, trivial⟩, trivial⟩, trivial, trivial⟩
  have hincludes : IncludesOnly (stoppedSession.environment.engine stoppableOptions.filters) Tag.IsBuiltin
      (stoppedSession.renderState stoppedPage .nil stoppableOptions) :=
    includesOnly_of_no_tags rfl (fun _ _ hkept ↦ by cases hkept) stoppedPage .nil stoppableOptions
  obtain ⟨-, hlate, -, -⟩ := render_after_cancellation stoppedSession 0 stoppedPage .blocking .nil stoppableOptions rfl
    hfilters (fun _ hentry ↦ by cases hentry) hroot hincludes
  refine (hlate alarm alarm_isLate).resolve_left fun hsame ↦ ?_
  have hwritten : (watchedBlock (stoppedSession.environment.engine stoppableOptions.filters) alarm stoppedPage.root .blocking
      (stoppedSession.renderState stoppedPage .nil stoppableOptions)).2.output ≠
        (stoppedSession.rendering stoppedPage .blocking .nil stoppableOptions).2.output := by
    decide +kernel
  exact hwritten (congrArg (fun run ↦ run.2.output) hsame)

end Session

end Liquid
