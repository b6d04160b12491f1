import Liquid.Operator
import Mathlib.Order.Compare

/-!
# The comparison operators agree with each other

Equality and the orderings of conditions are computed apart from each other, each with rules of its own for numbers, for
texts that write numbers and for nothing. Still they fit together: an order is reversed with its arguments, and two values
that have an order are equal exactly if this order says so. Floats are no exception. What is not a number has no order with
anything, and is equal to nothing.
-/

namespace Liquid

/-! ## Numbers -/

namespace Number

open Float.Model

/-- The order of two floats is reversed with its arguments. -/
theorem unpackedCompare_swap (x y : UnpackedFloat) : y.compare x = (x.compare y).map Ordering.swap := by
  have hsign (s t : UnpackedFloat.Sign) : compare t s = (compare s t).swap := by cases s <;> cases t <;> rfl
  have hsize (m n : Nat) (e f : Int) :
      (compare f e).then (compare n m) = ((compare e f).then (compare m n)).swap := by
    rw [Ordering.swap_then, ← Std.OrientedCmp.eq_swap, ← Std.OrientedCmp.eq_swap]
  cases x with
  | notANumber => cases y <;> rfl
  | infinity s =>
    cases y with
    | infinity t => exact congrArg some (hsign s t)
    | notANumber | zero => cases s <;> rfl
    | finite t => cases s <;> cases t <;> rfl
  | zero s =>
    cases y with
    | infinity t | finite t => cases t <;> rfl
    | notANumber | zero => rfl
  | finite s m e =>
    cases y with
    | infinity t => cases s <;> cases t <;> rfl
    | notANumber | zero => cases s <;> rfl
    | finite t n f =>
      cases s <;> cases t
      · exact congrArg (fun order ↦ some order.swap) (hsize m n e f)
      · rfl
      · rfl
      · exact congrArg some (hsize m n e f)

theorem lt_iff_unpackedCompare (x y : Float) :
    x < y ↔ x.toModel.unpack.compare y.toModel.unpack = some .lt := by
  change decide ((x.toModel.unpack.compare y.toModel.unpack == some .lt) = true) = true ↔ _
  rw [decide_eq_true_iff, beq_iff_eq]

/-- The order of two floats is that of what they unpack to. -/
theorem compareFloat?_eq (x y : Float) : compareFloat? x y = x.toModel.unpack.compare y.toModel.unpack := by
  have hequal : (x == y) = (x.toModel.unpack.compare y.toModel.unpack == some .eq) := rfl
  simp only [compareFloat?, lt_iff_unpackedCompare, hequal]
  rw [unpackedCompare_swap x.toModel.unpack]
  cases x.toModel.unpack.compare y.toModel.unpack with
  | none => rfl
  | some order => cases order <;> rfl

theorem compareFloat?_swap (x y : Float) : compareFloat? y x = (compareFloat? x y).map Ordering.swap := by
  rw [compareFloat?_eq, compareFloat?_eq, unpackedCompare_swap]

/-- Two floats are equal exactly if they are in the order of equals. -/
theorem beq_eq_compareFloat? (x y : Float) : (x == y) = (compareFloat? x y == some .eq) := by
  rw [compareFloat?_eq]
  rfl

theorem compare?_swap (x y : Number) : y.compare? x = (x.compare? y).map Ordering.swap := by
  cases x with
  | int i =>
    cases y with
    | int j => exact congrArg some Std.OrientedCmp.eq_swap
    | float y => exact compareFloat?_swap _ _
  | float x => cases y <;> exact compareFloat?_swap _ _

/-- Two numbers are equal exactly if they are in the order of equals. -/
theorem equal_eq_compare? (x y : Number) : x.equal y = (x.compare? y == some .eq) := by
  cases x with
  | int i =>
    cases y with
    | int j =>
      change (i == j) = (some (compare i.toInt j.toInt) == some .eq)
      rw [Bool.eq_iff_iff, beq_iff_eq, beq_iff_eq, Option.some_inj, Std.LawfulEqCmp.compare_eq_iff_eq, Int64.toInt_inj]
    | float y => exact beq_eq_compareFloat? _ _
  | float x => cases y <;> exact beq_eq_compareFloat? _ _

theorem equal_comm (x y : Number) : x.equal y = y.equal x := by
  rw [equal_eq_compare?, equal_eq_compare?, compare?_swap x y]
  cases x.compare? y with
  | none => rfl
  | some order => cases order <;> rfl

end Number

/-! ## Values -/

namespace Value

/-- Moments are ordered by their seconds, and within a second by their nanoseconds. -/
instance : Std.TransCmp Calendar.Moment.compareInstant :=
  inferInstanceAs
    (Std.TransCmp (compareLex (compareOn Calendar.Moment.seconds) (compareOn Calendar.Moment.nanosecond)))

variable {a b : Value} {x y : Number} {order : Ordering}

/-- A value that is a number is that number. -/
theorem eq_toValue_of_number? (h : a.number? = some x) : a = x.toValue := by
  unfold number? at h
  split at h
  · obtain rfl := Option.some.inj h
    rfl
  · obtain rfl := Option.some.inj h
    rfl
  · cases h

/-- Two values with an order: texts, moments or numbers. -/
inductive Comparable : Value → Value → Ordering → Prop where
  | texts (s t : String) : Comparable (string s) (string t) (compare s t)
  | moments (s t : Calendar.Moment) : Comparable (moment s) (moment t) (s.compareInstant t)
  | numbers {order : Ordering} (x y : Number) (h : x.compare? y = some order) : Comparable x.toValue y.toValue order

theorem compare?_toValue (x y : Number) : x.toValue.compare? y.toValue = x.compare? y := by
  cases x <;> cases y <;> rfl

theorem compare?_eq_some_iff : a.compare? b = some order ↔ Comparable a b order := by
  constructor
  · intro h
    unfold compare? at h
    split at h
    · next s t =>
      obtain rfl := Option.some.inj h
      exact .texts s t
    · next s t =>
      obtain rfl := Option.some.inj h
      exact .moments s t
    · split at h
      · next x y hx hy =>
        rw [eq_toValue_of_number? hx, eq_toValue_of_number? hy]
        exact .numbers x y h
      · cases h
  · intro h
    cases h with
    | texts | moments => rfl
    | numbers x y h => rw [compare?_toValue, h]

theorem Comparable.swap (h : Comparable a b order) : Comparable b a order.swap := by
  cases h with
  | texts s t =>
    rw [← Std.OrientedCmp.eq_swap]
    exact .texts t s
  | moments s t =>
    rw [← Std.OrientedCmp.eq_swap]
    exact .moments t s
  | numbers x y h => exact .numbers y x (by rw [Number.compare?_swap x y, h]; rfl)

theorem compare?_swap (a b : Value) : b.compare? a = (a.compare? b).map Ordering.swap := by
  cases h : a.compare? b with
  | some order => exact compare?_eq_some_iff.2 (compare?_eq_some_iff.1 h).swap
  | none =>
    cases h' : b.compare? a with
    | none => rfl
    | some order =>
      rw [compare?_eq_some_iff.2 (compare?_eq_some_iff.1 h').swap] at h
      cases h

theorem looselyEqual_toValue (level : SyntaxLevel) (x y : Number) :
    x.toValue.looselyEqual level y.toValue = x.equal y := by
  cases x <;> cases y <;> rfl

/-- Values with an order are equal exactly if they are in the order of equals. -/
theorem Comparable.looselyEqual (h : Comparable a b order) (level : SyntaxLevel) :
    a.looselyEqual level b = (order == .eq) := by
  cases h with
  | texts s t =>
    change (s == t) = (compare s t == .eq)
    rw [Bool.eq_iff_iff, beq_iff_eq, beq_iff_eq, Std.LawfulEqCmp.compare_eq_iff_eq]
  | moments s t =>
    change (s.seconds == t.seconds && s.nanosecond == t.nanosecond) =
      ((compare s.seconds t.seconds).then (compare s.nanosecond t.nanosecond) == .eq)
    rw [Bool.eq_iff_iff, Bool.and_eq_true, beq_iff_eq, beq_iff_eq, beq_iff_eq, Ordering.then_eq_eq,
      Std.LawfulEqCmp.compare_eq_iff_eq, Std.LawfulEqCmp.compare_eq_iff_eq]
  | numbers x y h =>
    rw [looselyEqual_toValue, Number.equal_eq_compare?, h]
    rfl

/-- A value that stands for a number is a text that writes it, nothing, or the number itself. -/
theorem toNumber?_eq_some (hnil : a.isNil = false) (h : a.toNumber? = some x) :
    (∃ text, a = string text ∧ Number.ofText? text = some x) ∨ a = x.toValue := by
  unfold toNumber? at h
  split at h
  · next text => exact .inl ⟨text, rfl, h⟩
  · cases hnil
  · cases hnil
  · exact .inr (eq_toValue_of_number? h)

/-- Up to a level a text is equal to a number if it writes one that is equal to it. -/
theorem looselyEqual_text_number (level : SyntaxLevel) (text : String) (y : Number) :
    (string text).looselyEqual level y.toValue = if level.includes .liquid22 then false else numberEqualsText y text := by
  cases y <;> rfl

theorem looselyEqual_number_text (level : SyntaxLevel) (text : String) (y : Number) :
    y.toValue.looselyEqual level (string text) = if level.includes .liquid22 then false else numberEqualsText y text := by
  cases y <;> rfl

theorem numberEqualsText_of_ofText? {text : String} (h : Number.ofText? text = some x) (y : Number) :
    numberEqualsText y text = x.equal y := by
  rw [numberEqualsText, h]

/-- Two values that are compared by the numbers that they stand for, without having an order of their own, are equal as these
numbers: one of them is a text. -/
theorem looselyEqual_of_toNumber? {level : SyntaxLevel} (hlevel : level.includes .liquid22 = false)
    (ha : a.isNil = false) (hb : b.isNil = false) (hcompare : a.compare? b = none) (hx : a.toNumber? = some x)
    (hy : b.toNumber? = some y) (horder : x.compare? y = some order) : a.looselyEqual level b = x.equal y := by
  obtain ⟨s, rfl, hs⟩ | rfl := toNumber?_eq_some ha hx
  · obtain ⟨t, rfl, ht⟩ | rfl := toNumber?_eq_some hb hy
    · cases hcompare
    · rw [looselyEqual_text_number, hlevel, numberEqualsText_of_ofText? hs]
      rfl
  · obtain ⟨t, rfl, ht⟩ | rfl := toNumber?_eq_some hb hy
    · rw [looselyEqual_number_text, hlevel, numberEqualsText_of_ofText? ht, Number.equal_comm]
      rfl
    · rw [compare?_toValue, horder] at hcompare
      cases hcompare

end Value

namespace Operator

open Value

variable {level : SyntaxLevel} {a b : Value} {order : Ordering}

theorem order?_of_isNil (h : a.isNil = true ∨ b.isNil = true) : order? level a b = none :=
  if_pos (by rwa [Bool.or_eq_true])

/-- The order of two values is reversed with its arguments. -/
theorem order?_swap (level : SyntaxLevel) (a b : Value) : order? level b a = (order? level a b).map Ordering.swap := by
  by_cases hnil : a.isNil = true ∨ b.isNil = true
  · rw [order?_of_isNil hnil, order?_of_isNil hnil.symm]
    rfl
  · have hor : (a.isNil || b.isNil) = false := by simpa using hnil
    have hor' : (b.isNil || a.isNil) = false := by rwa [Bool.or_comm]
    simp only [order?, hor, hor', compare?_swap a b, Bool.false_eq_true, if_false]
    cases a.compare? b with
    | some order => rfl
    | none =>
      cases level.includes .liquid22 with
      | true => rfl
      | false =>
        cases hx : a.toNumber? with
        | none => cases b.toNumber? <;> rfl
        | some x =>
          cases hy : b.toNumber? with
          | none => rfl
          | some y => exact Number.compare?_swap x y

/-- Values that have an order are equal exactly if they are in the order of equals. -/
theorem looselyEqual_of_order? (h : order? level a b = some order) : a.looselyEqual level b = (order == .eq) := by
  unfold order? at h
  split at h
  · cases h
  · next hnil =>
    rw [Bool.or_eq_true, not_or, Bool.not_eq_true, Bool.not_eq_true] at hnil
    split at h
    · next hcompare =>
      obtain rfl := Option.some.inj h
      exact (compare?_eq_some_iff.1 hcompare).looselyEqual level
    · next hcompare =>
      split at h
      · cases h
      · next hlevel =>
        rw [Bool.not_eq_true] at hlevel
        split at h
        · next x y hx hy =>
          rw [looselyEqual_of_toNumber? hlevel hnil.1 hnil.2 hcompare hx hy h, Number.equal_eq_compare?, h]
          rfl
        · cases h

/-- The comparison operators agree with each other, whatever the level is and whatever objects have counted. Being smaller is
being larger the other way round; a value that is smaller or as large is smaller, or neither is larger than the other. Of two
values of which one is at least as large as the other, exactly one of three holds: the first is smaller, equal or larger.
Nothing is neither smaller nor larger than anything. -/
theorem comparisons_agree (level : SyntaxLevel) (tallies : Tallies) (a b : Value) :
    less level tallies a b = greater level tallies b a ∧
    lessOrEqual level tallies a b = greaterOrEqual level tallies b a ∧
    (lessOrEqual level tallies a b = true ↔ less level tallies a b = true ∨
      lessOrEqual level tallies a b = true ∧ greaterOrEqual level tallies a b = true) ∧
    (lessOrEqual level tallies a b = true ∨ greaterOrEqual level tallies a b = true →
      [less level tallies a b, equal level tallies a b, greater level tallies a b].count true = 1) ∧
    unequal level tallies a b = !equal level tallies a b ∧
    (a.isNil = true ∨ b.isNil = true →
      ∀ operator ∈ [less, lessOrEqual, greater, greaterOrEqual], operator level tallies a b = false) := by
  refine ⟨?_, ?_, ?_, ?_, rfl, ?_⟩
  · simp only [less, greater, order?_swap level a b]
    cases order? level a b with
    | none => rfl
    | some order => cases order <;> rfl
  · simp only [lessOrEqual, greaterOrEqual, order?_swap level a b]
    cases order? level a b with
    | none => rfl
    | some order => cases order <;> rfl
  · simp only [less, lessOrEqual, greaterOrEqual]
    cases order? level a b with
    | none => decide
    | some order => cases order <;> decide
  · simp only [less, lessOrEqual, equal, greater, greaterOrEqual]
    cases h : order? level a b with
    | none => simp
    | some order =>
      rw [looselyEqual_of_order? h]
      cases order <;> decide
  · intro hnil
    simp [less, lessOrEqual, greater, greaterOrEqual, order?_of_isNil hnil]

end Operator

end Liquid
