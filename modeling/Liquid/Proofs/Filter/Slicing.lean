import Liquid.Proofs.Filter.Ranges

/-!
# Slices

A slice takes the elements from a place on, at most as many as its length says and none behind the end. The place is counted
from the end if it is negative. Both numbers may be any integers of 64 bits: as long as the elements can be counted with 64 bits
and a sign, neither of the two sums that a machine computes overflows, and the bounds that it cuts at are in order and not behind
the end.
-/

namespace Liquid.Filter

variable {α : Type} {items part : List α} {count : Nat} {start length : Int64}

/-- The place that a slice of counted elements begins at. -/
def slicePlace (count : Nat) (start : Int64) : Int := if start.toInt < 0 then count + start.toInt else start.toInt

/-- Whether a slice takes nothing because its place is outside or its length is negative. -/
def SlicesNothing (count : Nat) (start length : Int64) : Prop :=
  slicePlace count start < 0 ∨ count < slicePlace count start ∨ length.toInt < 0

instance : Decidable (SlicesNothing count start length) := inferInstanceAs (Decidable (_ ∨ _ ∨ _))

/-- Elements from a place on, as many as asked for and there are. -/
structure IsSlice (items : List α) (start length : Int64) (part : List α) : Prop where
  eq_nil : SlicesNothing items.length start length → part = []
  length_eq : ¬SlicesNothing items.length start length →
    (part.length : Int) = min length.toInt (items.length - slicePlace items.length start)
  getElem?_eq : ∀ index < part.length, part[index]? = items[(slicePlace items.length start).toNat + index]?

theorem slice?_eq (start length : Int64) (items : List α) :
    slice? start.toInt length.toInt items =
      if SlicesNothing items.length start length then none
      else some ((items.drop (slicePlace items.length start).toNat).take length.toInt.toNat) := rfl

theorem isSlice_slice? (start length : Int64) (items : List α) :
    IsSlice items start length ((slice? start.toInt length.toInt items).getD []) := by
  rw [slice?_eq]
  split
  · next hnothing => exact ⟨fun _ ↦ rfl, fun h ↦ absurd hnothing h, fun _ h ↦ absurd h (Nat.not_lt_zero _)⟩
  · next hsome =>
    refine ⟨fun h ↦ absurd h hsome, fun _ ↦ ?_, fun index hindex ↦ ?_⟩
    · rw [SlicesNothing] at hsome
      rw [Option.getD_some, List.length_take, List.length_drop]
      omega
    · rw [Option.getD_some, List.length_take] at hindex
      rw [Option.getD_some, List.getElem?_take, if_pos (by omega), List.getElem?_drop]

/-- There is one slice of each list. -/
theorem IsSlice.eq_slice? (h : IsSlice items start length part) :
    part = (slice? start.toInt length.toInt items).getD [] := by
  have hslice := isSlice_slice? start length items
  by_cases hnothing : SlicesNothing items.length start length
  · rw [h.eq_nil hnothing, hslice.eq_nil hnothing]
  · have hlength : part.length = ((slice? start.toInt length.toInt items).getD []).length := by
      have hpart := h.length_eq hnothing
      rw [← hslice.length_eq hnothing] at hpart
      exact Int.ofNat_inj.1 hpart
    refine List.ext_getElem? fun index ↦ ?_
    by_cases hindex : index < part.length
    · rw [h.getElem?_eq index hindex, hslice.getElem?_eq index (hlength ▸ hindex)]
    · rw [List.getElem?_eq_none (by omega), List.getElem?_eq_none (by omega)]

/-! ## The numbers on the way -/

/-- The place of a slice, in 64 bits with a sign. -/
def checkedPlace? (count : Nat) (start : Int64) : Option Int64 :=
  if start.toInt < 0 then integer? ((Int64.ofNat count).toInt + start.toInt) else some start

/-- The bounds of a slice, with every sum on the way in 64 bits; there are none if the slice takes nothing. -/
def checkedBounds? (count : Nat) (start length : Int64) : Option (Option (Nat × Nat)) :=
  (checkedPlace? count start).bind fun place ↦
    if place.toInt < 0 ∨ count < place.toInt.toNat ∨ length.toInt < 0 then some none
    else (count? (place.toInt.toNat + length.toInt.toNat : Nat)).map fun stop ↦ some (place.toInt.toNat, min stop count)

/-- The elements between two bounds, which have to be in order and not behind the end. -/
def cut? (items : List α) (first stop : Nat) : Option (List α) :=
  if first ≤ stop ∧ stop ≤ items.length then some ((items.take stop).drop first) else none

/-- The elements between the bounds of a slice. -/
def checkedSlice? (items : List α) (start length : Int64) : Option (List α) :=
  (checkedBounds? items.length start length).bind fun bounds ↦
    match bounds with
    | some (first, stop) => cut? items first stop
    | none => some []

/-- The place is computed without overflow. -/
theorem exists_checkedPlace? (hcount : (count : Int) ≤ maxInteger) (start : Int64) :
    ∃ place, checkedPlace? count start = some place ∧ place.toInt = slicePlace count start := by
  have hstart := toInt_bounds start
  unfold minInteger maxInteger at *
  unfold checkedPlace? slicePlace
  split
  · have hcast : (Int64.ofNat count).toInt = count := Int64.toInt_ofNat_of_lt (by omega)
    rw [hcast]
    have hfits := integer?_eq_some (n := count + start.toInt) (by unfold minInteger; omega) (by unfold maxInteger; omega)
    exact ⟨_, hfits, toInt_of_integer? hfits⟩
  · exact ⟨start, rfl, rfl⟩

/-- The bounds are computed without overflow. -/
theorem checkedBounds?_eq (hcount : (count : Int) ≤ maxInteger) (start length : Int64) :
    checkedBounds? count start length = some (if SlicesNothing count start length then none
      else some ((slicePlace count start).toNat, min ((slicePlace count start).toNat + length.toInt.toNat) count)) := by
  obtain ⟨place, hplace, hvalue⟩ := exists_checkedPlace? hcount start
  have hlength := toInt_bounds length
  have hbounds := toInt_bounds place
  unfold maxInteger at *
  rw [checkedBounds?, hplace, Option.bind_some, hvalue]
  by_cases hnothing : SlicesNothing count start length
  · rw [if_pos hnothing, if_pos (by unfold SlicesNothing at hnothing; omega)]
  · rw [if_neg hnothing]
    unfold SlicesNothing at hnothing
    rw [if_neg (by omega), count?, if_pos (by unfold maxCount; omega)]
    rfl

/-- The bounds are in order and not behind the end. -/
theorem le_of_checkedBounds? (hcount : (count : Int) ≤ maxInteger) {first stop : Nat}
    (h : checkedBounds? count start length = some (some (first, stop))) : first ≤ stop ∧ stop ≤ count := by
  rw [checkedBounds?_eq hcount] at h
  split at h
  · cases h
  · next hsome =>
    unfold SlicesNothing at hsome
    obtain ⟨rfl, rfl⟩ := Prod.mk.inj (Option.some.inj (Option.some.inj h))
    omega

/-- Cutting at the bounds gives the slice. -/
theorem checkedSlice?_eq (hcount : (items.length : Int) ≤ maxInteger) (start length : Int64) :
    checkedSlice? items start length = some ((slice? start.toInt length.toInt items).getD []) := by
  rw [checkedSlice?, slice?_eq]
  have hbounds := checkedBounds?_eq hcount start length
  by_cases hnothing : SlicesNothing items.length start length
  · rw [if_pos hnothing] at hbounds ⊢
    rw [hbounds]
    rfl
  · rw [if_neg hnothing] at hbounds ⊢
    rw [hbounds, Option.bind_some, Option.getD_some]
    refine (if_pos (le_of_checkedBounds? hcount hbounds)).trans ?_
    rw [List.drop_take]
    refine congrArg some (List.take_eq_take_iff.2 ?_)
    rw [List.length_drop]
    omega

/-! ## The filter -/

theorem convert_signed64 (tallies : Tallies) (value : Int64) :
    (ArgumentKind.integer .signed64).convert tallies (.int value) = .ok value.toInt :=
  if_pos (toInt_bounds value)

theorem convert_slice (tallies : Tallies) (start length : Int64) :
    Arguments.convert tallies true [.one (.integer .signed64), .one (.option (.integer .signed64))]
      [.int start, .int length] = .ok (start.toInt, some length.toInt, ()) := by
  have hlength : (ArgumentKind.option (.integer .signed64)).convert tallies (.int length) = .ok (some length.toInt) := by
    rw [ArgumentKind.convert, convert_signed64]
    rfl
  change ((ArgumentKind.integer .signed64).convert tallies (.int start) >>= fun first ↦
    ((ArgumentKind.option (.integer .signed64)).convert tallies (.int length) >>= fun second ↦ _) >>= fun others ↦ _) = _
  rw [convert_signed64, hlength]
  rfl

theorem invoke_slice_string (text : String) (start length : Int64) (drive : Drive) (context : Context) (shared : Shared) :
    slice.invoke "slice" [.string text, .int start, .int length] drive context shared =
      (.ok (.ofText ((slice? start.toInt length.toInt text.toList).getD [])), shared) := by
  rw [run_slice, convert_slice]
  rfl

theorem invoke_slice_seq {context : Context} (hlevel : context.level.includes .liquid22a = true) (items : List Value)
    (start length : Int64) (drive : Drive) (shared : Shared) :
    slice.invoke "slice" [.seq items, .int start, .int length] drive context shared =
      (.ok (.seq ((slice? start.toInt length.toInt items).getD [])), shared) := by
  rw [run_slice, convert_slice]
  dsimp only
  rw [Eval.run_query, slice_run_seq hlevel]
  rfl

/-- A slice of a text, at every level, or of a sequence, where sequences are sliced, has the elements from its place on, as many
as asked for and there are, and none if the place is outside or the length negative. For all integers of 64 bits, a machine
computes the bounds of the slice without overflow, they are in order and not behind the end, and between them lies the slice. -/
theorem slice_in_bounds (start length : Int64) :
    (FilterSet.ofList builtins).get? "slice" = some [slice] ∧
    (∀ text : String, ∃ part, IsSlice text.toList start length part ∧ ∀ drive context shared,
      slice.invoke "slice" [.string text, .int start, .int length] drive context shared = (.ok (.ofText part), shared)) ∧
    (∀ items, ∃ part, IsSlice items start length part ∧ ∀ drive context shared, context.level.includes .liquid22a = true →
      slice.invoke "slice" [.seq items, .int start, .int length] drive context shared = (.ok (.seq part), shared)) ∧
    ∀ {α : Type} (items part : List α), (items.length : Int) ≤ maxInteger → IsSlice items start length part →
      checkedSlice? items start length = some part ∧ ∃ bounds, checkedBounds? items.length start length = some bounds ∧
        ∀ first stop, bounds = some (first, stop) → first ≤ stop ∧ stop ≤ items.length := by
  refine ⟨rfl, fun text ↦ ?_, fun items ↦ ?_, fun items part hcount hpart ↦ ⟨?_, _, checkedBounds?_eq hcount start length, ?_⟩⟩
  · exact ⟨_, isSlice_slice? start length _, invoke_slice_string text start length⟩
  · exact ⟨_, isSlice_slice? start length _, fun drive context shared hlevel ↦
      invoke_slice_seq hlevel items start length drive shared⟩
  · rw [hpart.eq_slice?]
    exact checkedSlice?_eq hcount start length
  · rintro first stop hbounds
    have hsome : checkedBounds? items.length start length = some (some (first, stop)) := by
      rw [checkedBounds?_eq hcount, hbounds]
    exact le_of_checkedBounds? hcount hsome

/-- The last two of three integers, asked for with the largest length, and nothing of them at the smallest place. -/
theorem slice_in_bounds_extreme :
    let items : List Value := [.int 1, .int 2, .int 3]
    let part : List Value := [.int 2, .int 3]
    let largest : Int64 := 9223372036854775807
    slicingContext.level.includes .liquid22a = true ∧ (items.length : Int) ≤ maxInteger ∧ IsSlice items (-2) largest part ∧
      (slice.invoke "slice" [.seq items, .int (-2), .int largest] .blocking slicingContext unshared).1 = .ok (.seq part) ∧
      checkedSlice? items (-2) largest = some part ∧ checkedBounds? items.length (-2) largest = some (some (1, 3)) ∧
      checkedBounds? items.length Int64.minValue largest = some none := by
  intro items part largest
  have hlevel : slicingContext.level.includes .liquid22a = true := rfl
  have hcount : (items.length : Int) ≤ maxInteger := by decide
  have hplace : (slicePlace items.length (-2)).toNat = 1 := by decide
  have hpart : IsSlice items (-2) largest part := by
    refine ⟨fun h ↦ absurd h (by decide), fun _ ↦ by decide, fun index _ ↦ ?_⟩
    rw [hplace]
    change (items.drop 1)[index]? = _
    exact List.getElem?_drop
  have h := slice_in_bounds (-2) largest
  obtain ⟨found, hfound, hinvoke⟩ := h.2.2.1 items
  obtain rfl : part = found := hpart.eq_slice?.trans hfound.eq_slice?.symm
  refine ⟨hlevel, hcount, hpart, ?_, (h.2.2.2 items part hcount hpart).1, by decide, by decide⟩
  rw [hinvoke .blocking slicingContext unshared hlevel]

end Liquid.Filter
