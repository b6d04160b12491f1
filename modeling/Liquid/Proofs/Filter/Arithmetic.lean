import Liquid.Environment
import Liquid.Proofs.Value.Ranges
import Mathlib.Algebra.Order.Field.Rat
import Mathlib.Data.Rat.Floor
import Mathlib.Tactic.Linarith

/-!
# Arithmetic on integers

The filters that compute with two integers give the exact integer wherever it fits 64 bits, and a float where it does not; no
result is ever wrapped around. Division by zero is the only failure. The quotient is rounded down, and what is left over has
the sign of the divisor. A machine rounds toward zero: quotient and rest are corrected where something is left over on the
wrong side of zero, and none of the numbers on the way leaves 64 bits.
-/

namespace Liquid

/-! ## Division that rounds down -/

/-- What may be left over when a number is divided by another one: less than the divisor, on its side of zero. -/
def IsRemainder (divisor rest : Int) : Prop :=
  0 ≤ rest ∧ rest < divisor ∨ divisor < rest ∧ rest ≤ 0

/-- A sum of a multiple of the divisor and a remainder tells the quotient rounded down. -/
theorem IsRemainder.floor_eq {a b q r : Int} (h : IsRemainder b r) (hsum : b * q + r = a) : ⌊(a : ℚ) / b⌋ = q := by
  rw [Int.floor_eq_iff]
  obtain ⟨hlow, hhigh⟩ | ⟨hlow, hhigh⟩ := h
  · have hb : (0 : ℚ) < b := by exact_mod_cast (by omega : 0 < b)
    rw [le_div_iff₀ hb, div_lt_iff₀ hb]
    exact ⟨by exact_mod_cast (by linarith : q * b ≤ a), by exact_mod_cast (by linarith : a < (q + 1) * b)⟩
  · have hb : (b : ℚ) < 0 := by exact_mod_cast (by omega : b < 0)
    rw [le_div_iff_of_neg hb, div_lt_iff_of_neg hb]
    exact ⟨by exact_mod_cast (by linarith : a ≤ q * b), by exact_mod_cast (by linarith : (q + 1) * b < a)⟩

theorem isRemainder_fmod (a : Int) {b : Int} (hb : b ≠ 0) : IsRemainder b (a.fmod b) := by
  obtain hneg | hpos := Int.lt_or_gt_of_ne hb
  · have hlow := Int.fmod_nonneg_of_pos (-a) (Int.neg_pos_of_neg hneg)
    have hhigh := Int.fmod_lt_of_pos (-a) (Int.neg_pos_of_neg hneg)
    rw [Int.neg_fmod_neg] at hlow hhigh
    exact .inr ⟨by omega, by omega⟩
  · exact .inl ⟨Int.fmod_nonneg_of_pos a hpos, Int.fmod_lt_of_pos a hpos⟩

theorem floor_div_eq_fdiv (a : Int) {b : Int} (hb : b ≠ 0) : ⌊(a : ℚ) / b⌋ = a.fdiv b :=
  (isRemainder_fmod a hb).floor_eq (Int.mul_fdiv_add_fmod a b)

/-- A remainder that goes with a quotient is what division leaves over. -/
theorem IsRemainder.eq_fmod {a b q r : Int} (h : IsRemainder b r) (hsum : b * q + r = a) :
    q = a.fdiv b ∧ r = a.fmod b := by
  have hb : b ≠ 0 := by
    rintro rfl
    unfold IsRemainder at h
    omega
  have hquotient : q = a.fdiv b := (h.floor_eq hsum).symm.trans (floor_div_eq_fdiv a hb)
  have hwhole := Int.mul_fdiv_add_fmod a b
  rw [← hquotient] at hwhole
  exact ⟨hquotient, by omega⟩

/-- What is left over by division toward zero has the sign of the dividend. -/
theorem tmod_bounds (a : Int) {b : Int} (hb : b ≠ 0) :
    (a.tmod b).natAbs < b.natAbs ∧ (0 ≤ a → 0 ≤ a.tmod b) ∧ (a < 0 → a.tmod b ≤ 0) := by
  refine ⟨?_, Int.tmod_nonneg b, fun hneg ↦ ?_⟩
  · rw [Int.natAbs_tmod]
    exact Nat.mod_lt _ (by omega)
  · have hopposite := Int.tmod_nonneg b (a := -a) (by omega)
    rw [Int.neg_tmod] at hopposite
    omega

/-- Where something is left over on the other side of zero, the quotient is one smaller and the rest is moved by the divisor;
elsewhere rounding down is rounding toward zero. -/
theorem fdiv_fmod_eq (a : Int) {b : Int} (hb : b ≠ 0) :
    if a.tmod b ≠ 0 ∧ (a.tmod b < 0 ↔ 0 < b) then a.tdiv b - 1 = a.fdiv b ∧ a.tmod b + b = a.fmod b
    else a.tdiv b = a.fdiv b ∧ a.tmod b = a.fmod b := by
  have hwhole := Int.mul_tdiv_add_tmod a b
  have hbounds := (tmod_bounds a hb).1
  split
  · next hcorrect =>
    refine IsRemainder.eq_fmod ?_ (by rw [Int.mul_sub, Int.mul_one]; omega)
    unfold IsRemainder
    omega
  · next hright =>
    refine IsRemainder.eq_fmod ?_ hwhole
    unfold IsRemainder
    omega

/-! ## Division on a machine -/

namespace Number

/-- The quotient rounded toward zero, where it is an integer of 64 bits. -/
def quotient? (a b : Int64) : Option Int64 :=
  if b.toInt = 0 then none else integer? (a.toInt.tdiv b.toInt)

/-- What this quotient leaves over. Where there is no quotient, the division that would leave it fails. -/
def rest? (a b : Int64) : Option Int64 := do
  let _ ← quotient? a b
  integer? (a.toInt.tmod b.toInt)

/-- What division toward zero leaves over, also where the quotient is wrapped around. -/
def wrappingRest? (a b : Int64) : Option Int64 := if b.toInt = 0 then none else some (a % b)

/-- Whether a rest lies on the other side of zero than the divisor, if a number of the given sign left it. -/
def isMisplaced (rest : Int64) (negative : Bool) (divisor : Int64) : Bool :=
  rest != 0 && negative != decide (divisor.toInt < 0)

/-- The quotient rounded down, where it is an integer of 64 bits, computed with every number on the way in 64 bits. -/
def floorQuotient? (a b : Int64) : Option (Option Int64) :=
  match quotient? a b with
  | none => some none
  | some quotient => do
    if isMisplaced (← rest? a b) (a.toInt < 0) b then return some (← integer? (quotient.toInt - 1))
    else return some quotient

/-- What division leaves over with the sign of the divisor, computed with every number on the way in 64 bits. -/
def floorRest? (a b : Int64) : Option Int64 := do
  let rest ← wrappingRest? a b
  if isMisplaced rest (rest.toInt < 0) b then integer? (rest.toInt + b.toInt) else return rest

variable {a b : Int64}

theorem ne_zero_iff (rest : Int64) : (rest != 0) = true ↔ rest.toInt ≠ 0 := by
  rw [bne_iff_ne, Ne, ← Int64.toInt_inj]
  rfl

theorem isMisplaced_iff {rest : Int64} {negative : Bool} :
    isMisplaced rest negative b = true ↔ rest.toInt ≠ 0 ∧ (negative = true ↔ 0 ≤ b.toInt) := by
  rw [isMisplaced, Bool.and_eq_true, ne_zero_iff, bne_iff_ne]
  cases negative <;> simp

/-- Beside a quotient there is a rest. -/
theorem exists_rest? (hb : b.toInt ≠ 0) {quotient : Int64} (hquotient : integer? (a.toInt.tdiv b.toInt) = some quotient) :
    ∃ rest, rest? a b = some rest ∧ rest.toInt = a.toInt.tmod b.toInt := by
  have hbounds := tmod_bounds a.toInt hb
  have hlimits := toInt_bounds b
  unfold minInteger maxInteger at hlimits
  have hfits := integer?_eq_some (n := a.toInt.tmod b.toInt) (by unfold minInteger; omega) (by unfold maxInteger; omega)
  refine ⟨_, ?_, toInt_of_integer? hfits⟩
  rw [rest?, quotient?, if_neg hb, hquotient]
  exact hfits

/-- Where something is left over, the divisor is at least two, and the quotient is far from the ends of 64 bits. -/
theorem tdiv_bounds_of_tmod_ne_zero (hrest : a.toInt.tmod b.toInt ≠ 0) :
    minInteger < a.toInt.tdiv b.toInt ∧ a.toInt.tdiv b.toInt ≤ maxInteger := by
  have hlimits := toInt_bounds a
  have hdivisor : b.toInt.natAbs ≠ 1 := by
    intro hone
    have hmod := Int.natAbs_tmod a.toInt b.toInt
    rw [hone, Nat.mod_one] at hmod
    omega
  have hsize : (a.toInt.tdiv b.toInt).natAbs ≤ a.toInt.natAbs / 2 := by
    rw [Int.natAbs_tdiv]
    obtain hzero | hlarge : b.toInt.natAbs = 0 ∨ 2 ≤ b.toInt.natAbs := by omega
    · rw [hzero]
      exact (Nat.div_zero _).le.trans (Nat.zero_le _)
    · exact Nat.div_le_div_left hlarge (by decide)
  unfold minInteger maxInteger at *
  omega

/-- The quotient rounded down is computed without overflow, and none of the divisions on the way fails. -/
theorem floorQuotient?_eq (hb : b.toInt ≠ 0) : floorQuotient? a b = some (integer? (a.toInt.fdiv b.toInt)) := by
  have hcorrect := fdiv_fmod_eq a.toInt hb
  have hsign := tmod_bounds a.toInt hb
  have hquotient : quotient? a b = integer? (a.toInt.tdiv b.toInt) := if_neg hb
  unfold floorQuotient?
  by_cases hmisplaced : a.toInt.tmod b.toInt ≠ 0 ∧ (a.toInt.tmod b.toInt < 0 ↔ 0 < b.toInt)
  · -- Something is left over, and so the quotient can be made one smaller.
    have hbounds := tdiv_bounds_of_tmod_ne_zero hmisplaced.1
    obtain ⟨quotient, hq⟩ : ∃ quotient, integer? (a.toInt.tdiv b.toInt) = some quotient :=
      ⟨_, integer?_eq_some hbounds.1.le hbounds.2⟩
    obtain ⟨rest, hrest, hvalue⟩ := exists_rest? hb hq
    have hgoes : isMisplaced rest (a.toInt < 0) b = true := by
      rw [isMisplaced_iff, hvalue, decide_eq_true_iff]
      omega
    rw [if_pos hmisplaced] at hcorrect
    have hfits := integer?_eq_some (n := a.toInt.tdiv b.toInt - 1) (by omega) (by omega)
    rw [hquotient, hq, hrest, ← hcorrect.1, hfits]
    change (if isMisplaced rest (a.toInt < 0) b then (integer? (quotient.toInt - 1) >>= fun q ↦ some (some q))
      else some (some quotient)) = _
    rw [if_pos hgoes, toInt_of_integer? hq, hfits]
    rfl
  · -- Only the smallest integer divided by minus one has no quotient here, and then nothing is left over.
    rw [if_neg hmisplaced] at hcorrect
    rw [hquotient, ← hcorrect.1]
    cases hq : integer? (a.toInt.tdiv b.toInt) with
    | none => rfl
    | some quotient =>
      obtain ⟨rest, hrest, hvalue⟩ := exists_rest? hb hq
      have hstays : ¬ isMisplaced rest (a.toInt < 0) b = true := by
        rw [isMisplaced_iff, hvalue, decide_eq_true_iff]
        omega
      rw [hrest]
      exact if_neg hstays

theorem floorRest?_eq (hb : b.toInt ≠ 0) : ∃ rest, floorRest? a b = some rest ∧ rest.toInt = a.toInt.fmod b.toInt := by
  have hcorrect := fdiv_fmod_eq a.toInt hb
  have hbounds := (tmod_bounds a.toInt hb).1
  have hlimits := toInt_bounds b
  unfold minInteger maxInteger at hlimits
  have hrest : (a % b).toInt = a.toInt.tmod b.toInt := Int64.toInt_mod a b
  unfold floorRest? wrappingRest?
  rw [if_neg hb]
  change ∃ rest, (if isMisplaced (a % b) ((a % b).toInt < 0) b then integer? ((a % b).toInt + b.toInt) else some (a % b)) =
    some rest ∧ _
  by_cases hmisplaced : isMisplaced (a % b) ((a % b).toInt < 0) b = true
  · rw [if_pos hmisplaced]
    rw [isMisplaced_iff, hrest, decide_eq_true_iff] at hmisplaced
    rw [if_pos ⟨hmisplaced.1, by omega⟩] at hcorrect
    have hfits := integer?_eq_some (n := a.toInt.tmod b.toInt + b.toInt) (by unfold minInteger; omega)
      (by unfold maxInteger; omega)
    rw [hrest]
    exact ⟨_, hfits, by rw [toInt_of_integer? hfits, hcorrect.2]⟩
  · rw [if_neg hmisplaced]
    rw [isMisplaced_iff, hrest, decide_eq_true_iff] at hmisplaced
    rw [if_neg (by omega)] at hcorrect
    exact ⟨_, rfl, by rw [hrest, hcorrect.2]⟩

end Number

/-! ## The filters -/

/-- The integer itself if 64 bits hold it, a float otherwise. -/
inductive Value.IsExactly (n : Int) : Value → Prop where
  | int {i : Int64} (h : i.toInt = n) : IsExactly n (int i)
  | float (x : Float) (h : ∀ i : Int64, i.toInt ≠ n) : IsExactly n (float x)

theorem Number.exactly_isExactly (n : Int) (otherwise : Float) : (exactly n otherwise).toValue.IsExactly n := by
  unfold exactly
  cases h : integer? n with
  | some i => exact .int (toInt_of_integer? h)
  | none =>
    refine .float otherwise fun i hi ↦ ?_
    have hbounds := toInt_bounds i
    rw [hi] at hbounds
    cases (integer?_eq_some hbounds.1 hbounds.2).symm.trans h

namespace Filter

/-- What the one built-in filter of a name does to two integers, wherever it is called: it counts nothing. -/
def Yields (name : String) (a b : Int64) (outcome : Except Fault Value) : Prop :=
  ∃ verb operation, (FilterSet.ofList builtins).get? name = some [arithmetic verb operation] ∧
    ∀ context counts, (arithmetic verb operation).run (.int a, .int b, ()) context counts = (outcome, counts)

/-- A filter that computes with numbers does to two integers what its operation does to them. -/
theorem yields_of_operation {name verb : String} {operation : Number → Number → Except Fault Number} {a b : Int64}
    {outcome : Except Fault Number} (hfilter : (FilterSet.ofList builtins).get? name = some [arithmetic verb operation])
    (h : operation (.int a) (.int b) = outcome) : Yields name a b (outcome.map Number.toValue) := by
  refine ⟨verb, operation, hfilter, fun context counts ↦ ?_⟩
  change (operation (.int a) (.int b) >>= fun result ↦ return result.toValue : Query Value) context counts = _
  rw [h]
  cases outcome <;> rfl

/-- The filters that add, subtract and multiply give the exact integer where 64 bits hold it, and a float otherwise. Those that
divide fail exactly if the divisor is zero. Else the quotient is the exact one rounded down, where 64 bits hold it, and a
float otherwise, and what is left over is an integer that is zero or has the sign of the divisor, and is smaller than it. All
this is what a machine computes whose numbers have 64 bits, without ever leaving them. -/
theorem integer_arithmetic (a b : Int64) :
    (∃ sum difference product, Yields "plus" a b (.ok sum) ∧ sum.IsExactly (a.toInt + b.toInt) ∧
      Yields "minus" a b (.ok difference) ∧ difference.IsExactly (a.toInt - b.toInt) ∧
      Yields "times" a b (.ok product) ∧ product.IsExactly (a.toInt * b.toInt)) ∧
    (b.toInt = 0 → ∃ fault : Fault, fault.kind = .invalidOperation ∧
      Yields "divided_by" a b (.error fault) ∧ Yields "modulo" a b (.error fault)) ∧
    (b.toInt ≠ 0 → ∃ (quotient : Value) (rest : Int64),
      Yields "divided_by" a b (.ok quotient) ∧ quotient.IsExactly ⌊(a.toInt : ℚ) / b.toInt⌋ ∧
      Yields "modulo" a b (.ok (.int rest)) ∧ a.toInt = b.toInt * ⌊(a.toInt : ℚ) / b.toInt⌋ + rest.toInt ∧
      (rest.toInt = 0 ∨ rest.toInt.sign = b.toInt.sign) ∧ rest.toInt.natAbs < b.toInt.natAbs ∧
      Number.floorQuotient? a b = some (integer? ⌊(a.toInt : ℚ) / b.toInt⌋) ∧ Number.floorRest? a b = some rest) := by
  refine ⟨⟨_, _, _, ⟨_, _, rfl, fun _ _ ↦ rfl⟩, Number.exactly_isExactly _ _, ⟨_, _, rfl, fun _ _ ↦ rfl⟩,
    Number.exactly_isExactly _ _, ⟨_, _, rfl, fun _ _ ↦ rfl⟩, Number.exactly_isExactly _ _⟩, ?_, ?_⟩
  · intro hb
    have hdivide : Number.divide (.int a) (.int b) = .error .dividedByZero := if_pos hb
    have hremainder : Number.remainder (.int a) (.int b) = .error .dividedByZero := if_pos hb
    exact ⟨.dividedByZero, rfl, yields_of_operation rfl hdivide, yields_of_operation rfl hremainder⟩
  · intro hb
    have hdivide : Number.divide (.int a) (.int b) = .ok (Number.exactly (a.toInt.fdiv b.toInt) _) := if_neg hb
    have hremainder : Number.remainder (.int a) (.int b) = .ok (Number.exactly (a.toInt.fmod b.toInt) _) := if_neg hb
    obtain ⟨rest, hrest, hvalue⟩ := Number.floorRest?_eq (a := a) hb
    have hfits : integer? (a.toInt.fmod b.toInt) = some rest := by
      have hbounds := toInt_bounds rest
      rw [hvalue] at hbounds
      rw [integer?_eq_some hbounds.1 hbounds.2, ← hvalue, Int64.ofInt_toInt]
    rw [Number.exactly, hfits] at hremainder
    have hside := isRemainder_fmod a.toInt hb
    rw [← hvalue, IsRemainder] at hside
    rw [floor_div_eq_fdiv a.toInt hb]
    refine ⟨_, rest, yields_of_operation rfl hdivide, Number.exactly_isExactly _ _, yields_of_operation rfl hremainder,
      ?_, ?_, by omega, Number.floorQuotient?_eq hb, hrest⟩
    · rw [hvalue, Int.mul_fdiv_add_fmod]
    · obtain hzero | hleft := eq_or_ne rest.toInt 0
      · exact .inl hzero
      · obtain hneg | hpos := Int.lt_or_gt_of_ne hleft
        · exact .inr (by rw [Int.sign_eq_neg_one_of_neg hneg, Int.sign_eq_neg_one_of_neg (by omega)])
        · exact .inr (by rw [Int.sign_eq_one_of_pos hpos, Int.sign_eq_one_of_pos (by omega)])

end Filter

end Liquid
