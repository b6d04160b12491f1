import Liquid.Environment
import Liquid.Proofs.Evaluation.Agreement

/-!
# What evaluations do not look at

The error mode says what happens to errors that an evaluation has raised already, and registers are for tags. An evaluation
whose filters ignore both gives the same result whatever they are. The built-in filters ignore both.
-/

namespace Liquid

/-- A context without what built-in filters do not look at. -/
def Context.core (context : Context) : Context := { context with errorMode := .suppress, registers := [] }

/-! ## Filters -/

namespace Filter

/-- Whether a filter ignores the error mode and the registers. -/
def IsBlind (filter : Filter) : Prop :=
  ∀ arguments context, filter.run arguments context = filter.run arguments context.core

/-- Whether a filter is one of the built-in ones. -/
def IsBuiltin (filter : Filter) : Prop := filter ∈ builtins.map Prod.snd

end Filter

/-- The standard environment has no filters but the built-in ones. -/
theorem Environment.standard_filters_isBuiltin : standard.filters.All Filter.IsBuiltin :=
  .ofList fun _ hentry ↦ List.mem_map_of_mem hentry

/-- Whether all filters ignore the error mode and the registers. -/
def Toolbox.IsBlind (tools : Toolbox) : Prop :=
  tools.localFilters.All Filter.IsBlind ∧ tools.filters.All Filter.IsBlind

/-! ## Evaluations -/

/-- Contexts that differ in nothing but the error mode and the registers are alike. -/
def Viewpoint.blind : Viewpoint where
  alike left right := right.core = left.core
  meets _ := True
  raises _ := True
  bare_eq halike := by
    have hbare := congrArg Context.bare halike
    exact hbare
  meets_tallies _ _ := trivial
  raises_of_ne _ := trivial

theorem Filter.IsBlind.agrees {filter : Filter} (h : filter.IsBlind) : filter.Agrees .blind := by
  intro arguments left right counts halike _
  rw [h arguments right, show right.core = left.core from halike, ← h arguments left]
  exact ⟨rfl, trivial⟩

theorem Toolbox.IsBlind.agrees {tools : Toolbox} (h : tools.IsBlind) : tools.Agrees .blind :=
  ⟨h.1.mono fun _ hfilter ↦ hfilter.agrees, h.2.mono fun _ hfilter ↦ hfilter.agrees⟩

/-- An evaluation that agrees gives the same result and leaves the same behind, whatever the error mode and the registers
are. -/
theorem Eval.Agrees.eq_of_core_eq {α : Type} {computation : Eval α} (h : computation.Agrees .blind) (drive : Drive)
    {left right : Context} (hcore : right.core = left.core) (shared : Shared) :
    computation drive right shared = computation drive left shared := by
  obtain ⟨hresult, -, hlevel, times, hwaited, hwaited'⟩ := h drive hcore ⟨rfl, trivial, rfl⟩
  refine Prod.ext hresult ?_
  have hcounts := hlevel.counts
  have hnext := hlevel.nextObject
  have hsuspensions := hwaited'.trans hwaited.symm
  generalize (computation drive right shared).2 = rightAfter at *
  generalize (computation drive left shared).2 = leftAfter at *
  cases rightAfter
  cases leftAfter
  simp_all

/-! ## Filters that ignore what was refused -/

/-- Something that cancels no render that cannot be cancelled. -/
def Uncancelling {α : Type} (action : ExceptT Fault (StateM Counts) α) : Prop :=
  ∀ counts, counts.cancelled = none → (action counts).2.cancelled = none

namespace Uncancelling

variable {α β : Type}

theorem pure (value : α) : Uncancelling (Pure.pure value) := fun _ hcounts ↦ hcounts

theorem get : Uncancelling (MonadState.get : ExceptT Fault (StateM Counts) Counts) := fun _ hcounts ↦ hcounts

theorem bind {action : ExceptT Fault (StateM Counts) α} {next : α → ExceptT Fault (StateM Counts) β}
    (h : Uncancelling action) (hnext : ∀ value, Uncancelling (next value)) : Uncancelling (action >>= next) := by
  intro counts hcounts
  have hafter := h counts hcounts
  change (ExceptT.bindCont next (action counts).1 (action counts).2).2.cancelled = none
  rcases hrun : action counts with ⟨fault | value, after⟩
  · rw [hrun] at hafter
    exact hafter
  · rw [hrun] at hafter
    exact hnext value after hafter

end Uncancelling

namespace Filter

end Filter

end Liquid
