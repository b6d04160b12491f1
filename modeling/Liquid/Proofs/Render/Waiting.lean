import Liquid.Proofs.Render.Closure

/-!
# Renders that must not wait

An action can be driven in two ways: so that it waits as often as it has to, or so that it gives up where it would have to
wait. Both go the same way up to the first place where it has to wait. So if there is none they are the same, and if there is
one the second gives up, whatever has been done before, and no error mode and no construct around it can prevent that.
-/

namespace Liquid.Render

variable {α β : Type} {engine : Engine} {state : RenderState}

/-- A run that waits as often as it has to, next to one that must not wait: it ends, and either it did not have to wait and
both are the same, or it had to and the other one gave up. -/
inductive Beside {α : Type} (state : RenderState) : (patient hasty : Except Failure α × RenderState) → Prop where
  | together {run : Except Failure α × RenderState} (ends : run.1 ≠ .error .suspended)
      (unwaited : run.2.shared.suspensions = state.shared.suspensions) : Beside state run run
  | behind {patient hasty : Except Failure α × RenderState} (ends : patient.1 ≠ .error .suspended)
      (waited : state.shared.suspensions < patient.2.shared.suspensions) (gaveUp : hasty.1 = .error .suspended)
      (unwaited : hasty.2.shared.suspensions = state.shared.suspensions) : Beside state patient hasty

/-- Driven so that it must not wait, an action does the same up to where it would have to wait. -/
def KeepsPace (α : Type) (action : Render α) : Prop :=
  ∀ state, Beside state (action .cooperative state) (action .blocking state)

namespace Beside

variable {patient hasty : Except Failure α × RenderState}

theorem ends (h : Beside state patient hasty) : patient.1 ≠ .error .suspended := by
  cases h with
  | together hends => exact hends
  | behind hends => exact hends

theorem waited_le (h : Beside state patient hasty) : state.shared.suspensions ≤ patient.2.shared.suspensions := by
  cases h with
  | together _ hunwaited => exact Nat.le_of_eq hunwaited.symm
  | behind _ hwaited => exact Nat.le_of_lt hwaited

theorem hasty_unwaited (h : Beside state patient hasty) : hasty.2.shared.suspensions = state.shared.suspensions := by
  cases h with
  | together _ hunwaited => exact hunwaited
  | behind _ _ _ hunwaited => exact hunwaited

/-- What comes before a run, and does not wait, does not matter. -/
theorem since {before : RenderState} (h : Beside state patient hasty)
    (hsame : state.shared.suspensions = before.shared.suspensions) : Beside before patient hasty := by
  cases h with
  | together hends hunwaited => exact .together hends (hunwaited.trans hsame)
  | behind hends hwaited hgaveUp hunwaited =>
    rw [hsame] at hwaited hunwaited
    exact .behind hends hwaited hgaveUp hunwaited

end Beside

namespace KeepsPace

/-- An action that does not look at how it is driven and does not wait. -/
theorem of_undriven {action : Render α}
    (h : ∀ state, ∃ (ended : Except Error α) (after : RenderState),
      (∀ drive, action drive state = (ended.mapError Failure.error, after)) ∧
        after.shared.suspensions = state.shared.suspensions) : KeepsPace α action := by
  intro state
  obtain ⟨ended, after, hrun, hunwaited⟩ := h state
  rw [hrun, hrun]
  refine .together ?_ hunwaited
  cases ended <;> exact nofun

theorem quiet {action : Render α} (h : IsQuiet action) : KeepsPace α action := by
  refine of_undriven fun state ↦ ?_
  obtain ⟨ended, after, hrun, -, hunwaited⟩ := h state
  exact ⟨ended, after, hrun, hunwaited⟩

theorem change {change : RenderState → RenderState}
    (h : ∀ state, (change state).shared.suspensions = state.shared.suspensions) : KeepsPace PUnit (modify change) :=
  of_undriven fun state ↦ ⟨.ok ⟨⟩, change state, fun _ ↦ rfl, h state⟩

theorem ofExcept (result : Except Fault α) : KeepsPace α (Render.ofExcept result) := by
  refine of_undriven fun state ↦ ⟨result.mapError Error.of, state, fun drive ↦ ?_, rfl⟩
  rw [run_ofExcept]
  cases result <;> rfl

/-- A failure that is no giving up stays one when it is passed on. -/
theorem failed_ne {failure : Failure} (h : (.error failure : Except Failure α) ≠ .error .suspended) :
    (.error failure : Except Failure β) ≠ .error .suspended :=
  fun hsuspended ↦ h (congrArg _ (Except.error.inj hsuspended))

/-- What comes after a wait does not undo it. -/
theorem bind {action : Render α} {next : α → Render β} (h : KeepsPace α action)
    (hnext : ∀ value, KeepsPace β (next value)) : KeepsPace β (action >>= next) := by
  intro state
  have hfirst := h state
  rw [run_bind, run_bind]
  generalize action .cooperative state = patient at hfirst
  generalize action .blocking state = hasty at hfirst
  cases hfirst with
  | together hends hunwaited =>
    rcases patient with ⟨failure | value, after⟩
    · exact .together (failed_ne hends) hunwaited
    · exact (hnext value after).since hunwaited
  | behind hends hwaited hgaveUp hunwaited =>
    obtain ⟨_, hastyAfter⟩ := hasty
    obtain rfl : _ = Except.error Failure.suspended := hgaveUp
    rcases patient with ⟨failure | value, after⟩
    · exact .behind (failed_ne hends) hwaited rfl hunwaited
    · have hlater := hnext value after
      exact .behind hlater.ends (Nat.lt_of_lt_of_le hwaited hlater.waited_le) rfl hunwaited

/-- An attempt does not hide that something gave up. -/
theorem attempt {action : Render α} (h : KeepsPace α action) : KeepsPace (Except Error α) (Render.attempt action) := by
  intro state
  have hrun := h state
  rw [run_attempt, run_attempt]
  generalize action .cooperative state = patient at hrun
  generalize action .blocking state = hasty at hrun
  cases hrun with
  | together hends hunwaited =>
    rcases patient with ⟨(error | _) | value, after⟩
    · exact .together nofun hunwaited
    · exact absurd rfl hends
    · exact .together nofun hunwaited
  | behind hends hwaited hgaveUp hunwaited =>
    obtain ⟨_, hastyAfter⟩ := hasty
    obtain rfl : _ = Except.error Failure.suspended := hgaveUp
    rcases patient with ⟨(error | _) | value, after⟩
    · exact .behind nofun hwaited rfl hunwaited
    · exact absurd rfl hends
    · exact .behind nofun hwaited rfl hunwaited

/-- What is done at once does not wait, however the render is driven. -/
theorem atOnce {action : Render α} (h : KeepsPace α action) : KeepsPace α (Render.atOnce action) := by
  intro state
  have hunwaited := (h state).hasty_unwaited
  change Beside state (Render.atOnce action .blocking state) (Render.atOnce action .blocking state)
  refine .together ?_ ?_
  all_goals
    unfold Render.atOnce
    rcases hrun : action .blocking state with ⟨(error | _) | value, after⟩
    all_goals rw [hrun] at hunwaited
  · exact nofun
  · exact nofun
  · exact nofun
  · exact hunwaited
  · exact hunwaited
  · exact hunwaited

theorem wait (times : Nat) : KeepsPace Unit (evaluate (Eval.wait times)) := by
  intro state
  cases times with
  | zero => exact .together nofun rfl
  | succ times => exact .behind nofun (Nat.lt_add_of_pos_right (Nat.succ_pos times)) rfl rfl

theorem fetch (source : Source) (name : String) : KeepsPace String (Render.fetch source name) := by
  have hread : KeepsPace String (do
      evaluate (Eval.wait (source.waits name))
      Render.ofExcept (source.fetch name)) := (wait _).bind fun _ ↦ ofExcept _
  intro state
  rw [run_fetch, run_fetch]
  exact (hread { state with reads := if source.isLogged then name :: state.reads else state.reads }).since rfl

theorem parse (engine : Engine) (name text : String) : KeepsPace Block (Render.parse engine name text) := by
  unfold Render.parse
  cases Template.parse engine.grammar name text with
  | error error => exact quiet (.raise error)
  | ok block => exact quiet (.pure block)

theorem loadCached (engine : Engine) (source : Source) (name : String) :
    KeepsPace Block (Render.loadCached engine source name) := by
  unfold Render.loadCached
  refine (ofExcept _).bind fun path ↦ (quiet .get).bind fun state ↦ ?_
  split
  · exact quiet (.pure _)
  · refine (fetch source name).bind fun text ↦ (parse engine name text).bind fun block ↦ ?_
    have hkept : KeepsPace PUnit (modify fun state : RenderState ↦
        { state with includes := state.includes.put path block }) := change fun _ ↦ rfl
    exact hkept.bind fun _ ↦ quiet (.pure block)

theorem load (engine : Engine) (name : String) : KeepsPace Block (Render.load engine name) := by
  unfold Render.load
  refine ((quiet .get).bind fun _ ↦ quiet (.pure _)).bind fun context ↦ ?_
  split
  · exact (fetch _ name).bind fun text ↦ parse engine name text
  · split
    · exact loadCached engine _ name
    · exact quiet (.raise _)

theorem isClosed (engine : Engine) : IsClosed engine KeepsPace where
  quiet := quiet
  bind := bind
  attempt := attempt
  atOnce := atOnce
  wait := wait
  load := load engine

end KeepsPace

end Liquid.Render
