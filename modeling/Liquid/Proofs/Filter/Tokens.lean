import Liquid.Proofs.Evaluation.Blindness

/-!
# Filters and cancellation

A render without a token cannot be cancelled, and a filter that cancels the render does nothing to it. The built-in filters
leave it without a token.
-/

namespace Liquid

/-- What a filter does once it has its arguments and its context. -/
abbrev FilterRun (α : Type) := ExceptT Fault (StateM Counts) α

/-- Where a render cannot be cancelled, it still cannot behind this. -/
def FilterRun.BringsNoToken {α : Type} (action : FilterRun α) : Prop :=
  ∀ counts, counts.cancelled = none → (action counts).2.cancelled = none

namespace FilterRun.BringsNoToken

variable {α β : Type}

theorem pure (value : α) : BringsNoToken (Pure.pure value) := fun _ ↦ id

theorem get : BringsNoToken MonadState.get := fun _ ↦ id

theorem ofExcept (result : Except Fault α) : BringsNoToken (liftM result) := fun _ ↦ id

theorem counting (action : Context → StateM Tallies α) (context : Context) :
    BringsNoToken (Query.counting action context) :=
  fun _ ↦ id

theorem cancel (context : Context) : BringsNoToken (Query.cancel context) := by
  intro counts hnone
  change counts.cancelled.map (fun _ ↦ true) = none
  rw [hnone, Option.map_none]

theorem bind {action : FilterRun α} {next : α → FilterRun β} (h : BringsNoToken action)
    (hnext : ∀ value, BringsNoToken (next value)) : BringsNoToken (action >>= next) := by
  intro counts hnone
  have hfirst := h counts hnone
  change (ExceptT.bindCont next (action counts).1 (action counts).2).2.cancelled = none
  rcases hrun : action counts with ⟨fault | value, after⟩
  · rw [hrun] at hfirst
    exact hfirst
  · rw [hrun] at hfirst
    exact hnext value after hfirst

end FilterRun.BringsNoToken

namespace Filter

/-- Where a render cannot be cancelled, it still cannot behind the filter. -/
def BringsNoToken (filter : Filter) : Prop := ∀ arguments context, FilterRun.BringsNoToken (filter.run arguments context)

theorem join_bringsNoToken : join.BringsNoToken := by
  rintro ⟨value, separator, ⟨⟩⟩ context
  refine .bind .get fun counts ↦ ?_
  dsimp only
  split
  · exact .pure _
  · split <;> exact .pure _

theorem sort_bringsNoToken : sort.BringsNoToken := by
  rintro ⟨value, key, ⟨⟩⟩ context
  simp only [sort, atOnce]
  cases value.items? with
  | none => exact .pure _
  | some items => exact .bind (.counting _ context) fun _ ↦ .pure _

theorem map_bringsNoToken : map.BringsNoToken := by
  rintro ⟨value, key, ⟨⟩⟩ context
  simp only [map, atOnce]
  cases value.items? with
  | none => exact .bind (.counting _ context) fun _ ↦ .pure _
  | some items => exact .bind (.counting _ context) fun _ ↦ .pure _

theorem slice_bringsNoToken : slice.BringsNoToken := by
  rintro ⟨value, start, length, ⟨⟩⟩ context
  simp only [slice, atOnce]
  split
  · exact .pure _
  · exact .bind .get fun _ ↦ .pure _

theorem arithmetic_bringsNoToken (verb : String) (operation : Number → Number → Except Fault Number) :
    (arithmetic verb operation).BringsNoToken := by
  rintro ⟨value, argument, ⟨⟩⟩ context
  exact .bind .get fun _ ↦ .bind (.ofExcept _) fun _ ↦ .bind (.ofExcept _) fun _ ↦ .bind (.ofExcept _) fun _ ↦ .pure _

theorem IsBuiltin.bringsNoToken {filter : Filter} (h : filter.IsBuiltin) : filter.BringsNoToken := by
  have hbuiltins : ∀ filter ∈ builtins.map Prod.snd, filter.BringsNoToken := by
    unfold builtins
    simp only [List.map_cons, List.map_nil, List.forall_mem_cons, List.not_mem_nil, false_implies, implies_true,
      and_true, join_bringsNoToken, sort_bringsNoToken, map_bringsNoToken, slice_bringsNoToken, arithmetic_bringsNoToken,
      true_and]
    repeat' apply And.intro
    -- rounding and absolute values look at the tallies and may fail; what is left only computes
    all_goals first
      | exact fun _ _ _ ↦ id
      | exact fun _ _ ↦ .bind .get fun _ ↦ .bind (.ofExcept _) fun _ ↦ .pure _
  exact hbuiltins filter h

end Filter

end Liquid
