import Liquid.Proofs.Value.Comparison

/-!
# The order that sorting uses

Sorting compares numbers with numbers, texts with texts and moments with moments, and puts nothing behind all else. Within
a kind this is an order. But values of different kinds count as equal, and so does a value of no kind with everything that
is there: two values are out of order with each other although a third one is equal to both.
-/

namespace Liquid.Value

/-- Whether a value is a float. -/
def isFloat : Value → Bool
  | float _ => true
  | _ => false

/-- The order of two values of one kind. -/
inductive Ordered : Value → Value → Ordering → Prop where
  | ints (a b : Int64) : Ordered (int a) (int b) (compare a.toInt b.toInt)
  | texts (a b : String) : Ordered (string a) (string b) (compare a b)
  | moments (a b : Calendar.Moment) : Ordered (moment a) (moment b) (a.compareInstant b)

variable {a b c : Value} {order : Ordering}

theorem exists_int_of_isFloat {number : Number} (h : number.toValue.isFloat = false) : ∃ i, number = .int i := by
  cases number with
  | int i => exact ⟨i, rfl⟩
  | float => cases h

/-- Only values of one kind have an order. -/
theorem ordered_of_compare? (ha : a.isFloat = false) (hb : b.isFloat = false) (h : a.compare? b = some order) :
    Ordered a b order := by
  cases compare?_eq_some_iff.1 h with
  | texts s t => exact .texts s t
  | moments s t => exact .moments s t
  | numbers x y horder =>
    obtain ⟨i, rfl⟩ := exists_int_of_isFloat ha
    obtain ⟨j, rfl⟩ := exists_int_of_isFloat hb
    obtain rfl := Option.some.inj horder
    exact .ints i j

namespace Ordered

theorem isNil_left (h : Ordered a b order) : a.isNil = false := by
  cases h <;> rfl

theorem isNil_right (h : Ordered a b order) : b.isNil = false := by
  cases h <;> rfl

/-- Equal values of one kind compare alike with every third value. -/
theorem compare?_congr (h : Ordered a b .eq) (hc : c.isFloat = false) : a.compare? c = b.compare? c := by
  generalize heq : Ordering.eq = order at h
  cases h with
  | ints i j =>
    cases c with
    | int k => exact congrArg some (Std.TransCmp.congr_left heq.symm)
    | float => cases hc
    | _ => rfl
  | texts i j =>
    cases c with
    | string k => exact congrArg some (Std.TransCmp.congr_left heq.symm)
    | _ => rfl
  | moments i j =>
    cases c with
    | moment k => exact congrArg some (Std.TransCmp.congr_left heq.symm)
    | _ => rfl

/-- Within a kind the order is transitive. -/
theorem trans {order' : Ordering} (h : Ordered a b order) (h' : Ordered b c order') (hle : order.isLE)
    (hle' : order'.isLE) : ∃ whole, a.compare? c = some whole ∧ whole.isLE := by
  cases h with
  | ints i j | texts i j | moments i j =>
    cases h'
    exact ⟨_, rfl, Std.TransCmp.isLE_trans hle hle'⟩

/-- Two values of one kind have an order with the same values. -/
theorem compare?_eq_none_iff (h : Ordered a b order) (hc : c.isFloat = false) :
    a.compare? c = none ↔ b.compare? c = none := by
  cases h with
  | ints i j =>
    cases c with
    | int => exact ⟨nofun, nofun⟩
    | float => cases hc
    | _ => exact Iff.rfl
  | texts i j =>
    cases c with
    | string => exact ⟨nofun, nofun⟩
    | _ => exact Iff.rfl
  | moments i j =>
    cases c with
    | moment => exact ⟨nofun, nofun⟩
    | _ => exact Iff.rfl

end Ordered

/-! ## Sorting -/

theorem sortOrder_eq_gt_iff (ha : a.isFloat = false) (hb : b.isFloat = false) :
    a.sortOrder b = .gt ↔ a.compare? b = some .gt ∨ a.isNil = true ∧ b.isNil = false := by
  unfold sortOrder
  cases h : a.compare? b with
  | some order => simp [(ordered_of_compare? ha hb h).isNil_left]
  | none => cases a.isNil <;> cases b.isNil <;> simp

theorem sortOrder_eq_eq_iff : a.sortOrder b = .eq ↔
    a.compare? b = some .eq ∨ a.compare? b = none ∧ a.isNil = b.isNil := by
  unfold sortOrder
  cases a.compare? b with
  | some order => simp
  | none => cases a.isNil <;> cases b.isNil <;> simp

theorem sortOrder_swap (a b : Value) : a.sortOrder b = (b.sortOrder a).swap := by
  unfold sortOrder
  rw [compare?_swap b a]
  cases b.compare? a with
  | some order => rfl
  | none => cases a.isNil <;> cases b.isNil <;> rfl

/-- Values of one kind are in order around a value of this kind, and around nothing. -/
theorem compare?_of_between (ha : a.isFloat = false) (hb : b.isFloat = false) (hc : c.isFloat = false)
    (hab : a.sortOrder b ≠ .gt) (hbc : b.sortOrder c ≠ .gt) (hac : a.sortOrder c = .gt) :
    a.compare? c = some .gt ∧ a.compare? b = none ∧ b.isNil = false := by
  rw [Ne, sortOrder_eq_gt_iff ha hb, not_or, not_and, Bool.not_eq_false] at hab
  rw [Ne, sortOrder_eq_gt_iff hb hc, not_or, not_and, Bool.not_eq_false] at hbc
  obtain hgreater | ⟨hnil, hthere⟩ := (sortOrder_eq_gt_iff ha hc).1 hac
  · refine ⟨hgreater, ?_, ?_⟩
    · cases hfirst : a.compare? b with
      | none => rfl
      | some first =>
        have hleft := ordered_of_compare? ha hb hfirst
        cases hsecond : b.compare? c with
        | none =>
          rw [(hleft.compare?_eq_none_iff hc).2 hsecond] at hgreater
          cases hgreater
        | some second =>
          have hright := ordered_of_compare? hb hc hsecond
          rw [hfirst] at hab
          rw [hsecond] at hbc
          obtain ⟨whole, hwhole, hle⟩ := hleft.trans hright
            (Ordering.isLE_iff_ne_gt.2 fun hgt ↦ hab.1 (congrArg some hgt))
            (Ordering.isLE_iff_ne_gt.2 fun hgt ↦ hbc.1 (congrArg some hgt))
          rw [hgreater] at hwhole
          obtain rfl := Option.some.inj hwhole
          cases hle
    · have hthere := (ordered_of_compare? ha hc hgreater).isNil_right
      rw [← Bool.not_eq_true]
      exact fun hnil ↦ absurd (hbc.2 hnil) (by rw [hthere]; exact Bool.false_ne_true)
  · exact absurd (hbc.2 (hab.2 hnil)) (by rw [hthere]; exact Bool.false_ne_true)

/-- Values of one kind that are out of order stay so around a value of another kind, or of none. -/
theorem between_of_compare? (ha : a.isFloat = false) (hb : b.isFloat = false) (hc : c.isFloat = false)
    (hac : a.compare? c = some .gt) (hab : a.compare? b = none) (hnil : b.isNil = false) :
    a.sortOrder b ≠ .gt ∧ b.sortOrder c ≠ .gt ∧ a.sortOrder c = .gt := by
  have hkind := ordered_of_compare? ha hc hac
  have hcb := (hkind.compare?_eq_none_iff hb).1 hab
  have hbc : b.compare? c = none := by rw [compare?_swap c b, hcb]; rfl
  have hfirst : a.sortOrder b = .eq := sortOrder_eq_eq_iff.2 (.inr ⟨hab, by rw [hkind.isNil_left, hnil]⟩)
  have hsecond : b.sortOrder c = .eq := sortOrder_eq_eq_iff.2 (.inr ⟨hbc, by rw [hkind.isNil_right, hnil]⟩)
  rw [hfirst, hsecond]
  exact ⟨nofun, nofun, (sortOrder_eq_gt_iff ha hc).2 (.inl hac)⟩

/-- Without an order, or as equals of one kind, values are compared by which of them are nothing. -/
theorem sortOrder_of_forall_eq (ha : a.isFloat = false) (hb : b.isFloat = false)
    (h : ∀ order, a.compare? b = some order → order = .eq) :
    a.sortOrder b = match a.isNil, b.isNil with
      | true, false => .gt
      | false, true => .lt
      | _, _ => .eq := by
  unfold sortOrder
  cases hab : a.compare? b with
  | none => rfl
  | some order =>
    have hkind := ordered_of_compare? ha hb hab
    rw [hkind.isNil_left, hkind.isNil_right]
    exact h order hab

/-- Equal values compare alike with a third one, unless they have no order and one of them has one with the third. -/
theorem compare?_of_sortOrder_ne (ha : a.isFloat = false) (hb : b.isFloat = false) (hc : c.isFloat = false)
    (hab : a.sortOrder b = .eq) (hne : a.sortOrder c ≠ b.sortOrder c) :
    a.compare? b = none ∧ a.isNil = b.isNil ∧
      ∃ order, order ≠ .eq ∧ (a.compare? c = some order ∨ b.compare? c = some order) := by
  obtain hequal | ⟨hnone, hnil⟩ := sortOrder_eq_eq_iff.1 hab
  · have hkind := ordered_of_compare? ha hb hequal
    refine absurd ?_ hne
    rw [sortOrder, sortOrder, hkind.compare?_congr hc, hkind.isNil_left, hkind.isNil_right]
  · refine ⟨hnone, hnil, ?_⟩
    by_contra hnever
    have hleft : ∀ order, a.compare? c = some order → order = .eq :=
      fun order h ↦ by_contra fun horder ↦ hnever ⟨order, horder, .inl h⟩
    have hright : ∀ order, b.compare? c = some order → order = .eq :=
      fun order h ↦ by_contra fun horder ↦ hnever ⟨order, horder, .inr h⟩
    rw [sortOrder_of_forall_eq ha hc hleft, sortOrder_of_forall_eq hb hc hright, hnil] at hne
    exact hne rfl

/-- A third value that has an order with one of two equal values without one tells them apart. -/
theorem sortOrder_ne_of_compare? (ha : a.isFloat = false) (hb : b.isFloat = false) (hc : c.isFloat = false)
    (hab : a.compare? b = none) (hnil : a.isNil = b.isNil) (hne : order ≠ .eq) (hac : a.compare? c = some order) :
    a.sortOrder c ≠ b.sortOrder c := by
  have hkind := ordered_of_compare? ha hc hac
  have hcb := (hkind.compare?_eq_none_iff hb).1 hab
  have hbc : b.compare? c = none := by rw [compare?_swap c b, hcb]; rfl
  have hequal : b.sortOrder c = .eq :=
    sortOrder_eq_eq_iff.2 (.inr ⟨hbc, by rw [← hnil, hkind.isNil_left, hkind.isNil_right]⟩)
  rw [hequal, sortOrder, hac]
  exact hne

/-- The order that sorting uses is reversed with its arguments. Beyond that it is an order only as long as no value stands
beside others: it is transitive unless two values of one kind are out of order around a value of another kind or of none, and
equal values compare alike with every third one unless they have no order and the third one is before or behind one of them. -/
theorem sortOrder_within_kinds (a b c : Value) (ha : a.isFloat = false) (hb : b.isFloat = false)
    (hc : c.isFloat = false) :
    a.sortOrder b = (b.sortOrder a).swap ∧
      ((a.sortOrder b ≠ .gt ∧ b.sortOrder c ≠ .gt ∧ a.sortOrder c = .gt) ↔
        a.compare? c = some .gt ∧ a.compare? b = none ∧ b.isNil = false) ∧
      ((a.sortOrder b = .eq ∧ a.sortOrder c ≠ b.sortOrder c) ↔
        a.compare? b = none ∧ a.isNil = b.isNil ∧
          ∃ order, order ≠ .eq ∧ (a.compare? c = some order ∨ b.compare? c = some order)) := by
  refine ⟨sortOrder_swap a b, ⟨?_, ?_⟩, ?_, ?_⟩
  · rintro ⟨hab, hbc, hac⟩
    exact compare?_of_between ha hb hc hab hbc hac
  · rintro ⟨hac, hab, hnil⟩
    exact between_of_compare? ha hb hc hac hab hnil
  · rintro ⟨hab, hne⟩
    exact compare?_of_sortOrder_ne ha hb hc hab hne
  · rintro ⟨hab, hnil, order, horder, hac | hbc⟩
    · exact ⟨sortOrder_eq_eq_iff.2 (.inr ⟨hab, hnil⟩), sortOrder_ne_of_compare? ha hb hc hab hnil horder hac⟩
    · have hba : b.compare? a = none := by rw [compare?_swap a b, hab]; rfl
      exact ⟨sortOrder_eq_eq_iff.2 (.inr ⟨hab, hnil⟩),
        (sortOrder_ne_of_compare? hb ha hc hba hnil.symm horder hbc).symm⟩

/-- Nothing does not stand between two moments that are in order, whatever their clocks show. -/
theorem sortOrder_within_kinds_moments :
    (moment ⟨5, 0, 3600⟩).isFloat = false ∧ (moment ⟨7, 0, 0⟩).isFloat = false ∧ nil.isFloat = false ∧
      (moment ⟨5, 0, 3600⟩).sortOrder (moment ⟨7, 0, 0⟩) = ((moment ⟨7, 0, 0⟩).sortOrder (moment ⟨5, 0, 3600⟩)).swap ∧
      ¬((moment ⟨5, 0, 3600⟩).sortOrder (moment ⟨7, 0, 0⟩) ≠ .gt ∧ (moment ⟨7, 0, 0⟩).sortOrder nil ≠ .gt ∧
        (moment ⟨5, 0, 3600⟩).sortOrder nil = .gt) := by
  have h := sortOrder_within_kinds (moment ⟨5, 0, 3600⟩) (moment ⟨7, 0, 0⟩) nil rfl rfl rfl
  refine ⟨rfl, rfl, rfl, h.1, fun hbetween ↦ ?_⟩
  cases (h.2.1.1 hbetween).1

/-- A text is equal to two numbers that are out of order, and so equal values compare differently with the lower one. -/
theorem sortOrder_not_transitive :
    (int 2).sortOrder (string "a") = .eq ∧ (string "a").sortOrder (int 1) = .eq ∧
      (int 2).sortOrder (int 1) = .gt :=
  ⟨rfl, rfl, rfl⟩

end Liquid.Value
