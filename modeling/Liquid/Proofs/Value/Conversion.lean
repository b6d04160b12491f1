import Liquid.Value.Argument
import Mathlib.Algebra.Order.Field.Rat
import Mathlib.Data.Rat.Cast.Lemmas
import Mathlib.Tactic.NormNum

/-!
# Integers as arguments

A value stands for a rational number if it is a finite number or a text that writes one. Where a parameter asks for an
integer, the value has to stand for an integer of the kind that it asks for. A float is first brought into the integers of 64
bits, so that a float beyond them counts as the first or the last of them; all other integers are converted exactly or
refused.
-/

namespace Liquid

namespace Number

open Float.Model Float.Model.UnpackedFloat

/-- The rational number that a float is, if it is finite. -/
def rationalOfFloat? (x : Float) : Option ℚ :=
  match x.toModel.unpack with
  | .zero _ => some 0
  | .finite sign mantissa exponent _ => some (sign.apply mantissa * 2 ^ exponent)
  | .infinity _ | .notANumber => none

/-- The rational number that a number is, if it is finite. -/
def rational? : Number → Option ℚ
  | int value => some value.toInt
  | float value => rationalOfFloat? value

/-- The integer of 64 bits that is nearest to an integer. -/
def nearestInteger (whole : Int) : Int := max minInteger (min whole maxInteger)

theorem nearestInteger_eq_self_iff {whole : Int} :
    nearestInteger whole = whole ↔ minInteger ≤ whole ∧ whole ≤ maxInteger := by
  unfold nearestInteger minInteger maxInteger
  omega

theorem nearestInteger_toInt (value : Int64) : nearestInteger value.toInt = value.toInt :=
  nearestInteger_eq_self_iff.2 ⟨value.minValue_le_toInt, value.toInt_le⟩

theorem toInt_ofIntClamp (whole : Int) : (Int64.ofIntClamp whole).toInt = nearestInteger whole := by
  unfold Int64.ofIntClamp nearestInteger
  have hmin : Int64.minValue.toInt = minInteger := rfl
  have hmax : Int64.maxValue.toInt = maxInteger := rfl
  have hle : minInteger ≤ maxInteger := by decide
  split
  · split
    · rw [Int64.toInt_ofIntLE]
      omega
    · omega
  · omega

/-! ## Floats that are integers -/

theorem mantissa_shift (extended : ExtendedMantissa) (count : Nat) :
    (extended >>> count).mantissa = extended.mantissa / 2 ^ count := by
  induction count with
  | zero => exact (Nat.div_one _).symm
  | succ count ih =>
    calc (extended >>> (count + 1)).mantissa
      _ = (extended >>> count).mantissa / 2 := rfl
      _ = extended.mantissa / 2 ^ (count + 1) := by rw [ih, Nat.div_div_eq_div_mul, Nat.pow_succ]

/-- The integer part of a float is what is left of the mantissa when the exponent has been brought to zero. -/
theorem roundToInt_eq (sign : Sign) (mantissa : Nat) (exponent : Int) :
    roundToInt sign mantissa exponent =
      sign.apply (mantissa * 2 ^ exponent.toNat / 2 ^ (-exponent).toNat : Nat) := by
  have hright : (0 - (exponent - (exponent.toNat : Int))).toNat = (-exponent).toNat := by omega
  simp only [roundToInt, decreaseExponent, shiftToExponent, Int.sub_zero]
  rw [mantissa_shift, hright, Nat.shiftLeft_eq]
  rfl

theorem zpow_two_eq (exponent : Int) : (2 : ℚ) ^ exponent = 2 ^ exponent.toNat / 2 ^ (-exponent).toNat := by
  conv_lhs => rw [← Int.toNat_sub_toNat_neg exponent]
  rw [zpow_sub₀ two_ne_zero, zpow_natCast, zpow_natCast]

/-- An exponent makes an integer of a mantissa exactly if it cuts off zeros only; the integer is what is left then. -/
theorem mantissa_mul_eq_iff (mantissa : Nat) (exponent whole : Int) :
    (mantissa : ℤ) * 2 ^ exponent.toNat = whole * 2 ^ (-exponent).toNat ↔
      2 ^ (-exponent).toNat ∣ mantissa ∧
        (mantissa * 2 ^ exponent.toNat / 2 ^ (-exponent).toNat : Nat) = whole := by
  have hpos : (0 : ℤ) < 2 ^ (-exponent).toNat := by positivity
  constructor
  · intro h
    have hdvd : 2 ^ (-exponent).toNat ∣ mantissa := by
      -- One of the two powers is one: a mantissa is shifted to the left or to the right.
      obtain hleft | hright := Int.le_total 0 exponent
      · rw [Int.toNat_of_nonpos (by omega), pow_zero]
        exact one_dvd mantissa
      · rw [Int.toNat_of_nonpos hright, pow_zero, mul_one] at h
        have hwhole : ((2 ^ (-exponent).toNat : Nat) : ℤ) ∣ mantissa := ⟨whole, by push_cast; rw [h, mul_comm]⟩
        exact Int.natCast_dvd_natCast.1 hwhole
    refine ⟨hdvd, ?_⟩
    push_cast
    rw [h]
    exact Int.mul_ediv_cancel _ hpos.ne'
  · rintro ⟨hdvd, rfl⟩
    have hexact : (2 ^ (-exponent).toNat : Nat) ∣ mantissa * 2 ^ exponent.toNat := hdvd.mul_right _
    rw [← Nat.cast_ofNat, ← Nat.cast_pow, ← Nat.cast_pow, ← Nat.cast_mul, ← Nat.cast_mul, Nat.div_mul_cancel hexact]

theorem apply_mul_eq_iff (sign : Sign) (a b c d : ℤ) : sign.apply a * b = c * d ↔ a * b = sign.apply c * d := by
  cases sign with
  | negative =>
    change -a * b = c * d ↔ a * b = -c * d
    rw [neg_mul, neg_mul, neg_eq_iff_eq_neg]
  | positive => exact Iff.rfl

theorem eq_apply_iff (sign : Sign) (a b : ℤ) : a = sign.apply b ↔ sign.apply a = b := by
  cases sign with
  | negative =>
    change a = -b ↔ -a = b
    omega
  | positive => exact Iff.rfl

/-- A finite float is an integer exactly if its mantissa ends with as many zeros as its exponent cuts off. -/
theorem finite_eq_int_iff (sign : Sign) (mantissa : Nat) (exponent whole : Int) :
    (sign.apply mantissa * 2 ^ exponent : ℚ) = whole ↔
      mantissa % 2 ^ (-exponent).toNat = 0 ∧ roundToInt sign mantissa exponent = whole := by
  have hpos : (0 : ℚ) < 2 ^ (-exponent).toNat := by positivity
  calc (sign.apply mantissa * 2 ^ exponent : ℚ) = whole
    _ ↔ sign.apply mantissa * 2 ^ exponent.toNat = whole * 2 ^ (-exponent).toNat := by
      rw [zpow_two_eq, ← mul_div_assoc, div_eq_iff hpos.ne']
      norm_cast
    _ ↔ (mantissa : ℤ) * 2 ^ exponent.toNat = sign.apply whole * 2 ^ (-exponent).toNat := apply_mul_eq_iff ..
    _ ↔ mantissa % 2 ^ (-exponent).toNat = 0 ∧ roundToInt sign mantissa exponent = whole := by
      rw [mantissa_mul_eq_iff, eq_apply_iff, Nat.dvd_iff_mod_eq_zero, roundToInt_eq]

end Number

namespace IntegerKind

/-- The kinds of integers that a parameter can ask for. -/
def all : List IntegerKind := [signed32, signed64, natural32, natural64, count]

/-- An integer is one of a kind. -/
def Holds (bounds : IntegerKind) (whole : Int) : Prop := bounds.low ≤ whole ∧ whole ≤ bounds.high

instance (bounds : IntegerKind) (whole : Int) : Decidable (bounds.Holds whole) := inferInstanceAs (Decidable (_ ∧ _))

/-- No kind holds integers without the integer of 64 bits that is nearest to them. -/
theorem holds_nearestInteger {bounds : IntegerKind} {whole : Int} (hbounds : bounds ∈ all) (h : bounds.Holds whole) :
    bounds.Holds (Number.nearestInteger whole) := by
  unfold Holds Number.nearestInteger minInteger maxInteger at *
  simp only [all, List.mem_cons, List.not_mem_nil, or_false] at hbounds
  obtain rfl | rfl | rfl | rfl | rfl := hbounds <;>
    simp only [signed32, signed64, natural32, natural64, count, minInteger, maxInteger, maxCount] at h ⊢ <;>
    omega

end IntegerKind

/-! ## Conversion -/

namespace ArgumentKind

variable {tallies : Tallies} {bounds : IntegerKind} {given : Value} {whole : Int}

/-- The rational number that a value stands for, as a number or as a text that writes one. -/
def standsFor? (given : Value) : Option ℚ := (number? given).bind Number.rational?

theorem standsFor?_of_finite {x : Float} {sign : Float.Model.UnpackedFloat.Sign} {mantissa : Nat} {exponent : Int}
    {hpos : 0 < mantissa} (hnumber : number? given = some (.float x))
    (hunpack : x.toModel.unpack = .finite sign mantissa exponent hpos) :
    standsFor? given = some (sign.apply mantissa * 2 ^ exponent : ℚ) := by
  rw [standsFor?, hnumber, Option.bind_some, Number.rational?, Number.rationalOfFloat?, hunpack]

open Float.Model.UnpackedFloat in
/-- A float gives an integer if it is one; beyond the integers of 64 bits it gives the nearest of them. -/
theorem whole?_float_eq_some_iff {x : Float} : whole? (.float x) = some whole ↔
    ∃ exact : ℤ, Number.rationalOfFloat? x = some (exact : ℚ) ∧ Number.nearestInteger exact = whole := by
  have hwhole : whole? (.float x) =
      if Number.isIntegral x then some (Number.nearestInteger (toInt minInteger maxInteger x.toModel.unpack)) else none := by
    rw [← Number.toInt_ofIntClamp]
    rfl
  rw [hwhole, Number.isIntegral, Number.rationalOfFloat?]
  cases x.toModel.unpack with
  | infinity sign | notANumber =>
    change none = some whole ↔ ∃ exact : ℤ, none = some (exact : ℚ) ∧ Number.nearestInteger exact = whole
    simp only [reduceCtorEq, false_and, exists_false]
  | zero sign =>
    change some (Number.nearestInteger 0) = some whole ↔
      ∃ exact : ℤ, some 0 = some (exact : ℚ) ∧ Number.nearestInteger exact = whole
    simp [eq_comm]
  | finite sign mantissa exponent hpos =>
    change (if mantissa % Nat.pow 2 (-exponent).toNat == 0 then
        some (Number.nearestInteger (roundToInt sign mantissa exponent)) else none) = some whole ↔
      ∃ exact : ℤ, some (sign.apply mantissa * 2 ^ exponent : ℚ) = some (exact : ℚ) ∧ Number.nearestInteger exact = whole
    simp only [Option.some.injEq, Number.finite_eq_int_iff, Nat.pow_eq, beq_iff_eq, Option.ite_none_right_eq_some]
    constructor
    · rintro ⟨hwhole, rfl⟩
      exact ⟨_, ⟨hwhole, rfl⟩, rfl⟩
    · rintro ⟨_, ⟨hwhole, rfl⟩, rfl⟩
      exact ⟨hwhole, rfl⟩

theorem whole?_eq_some_iff {number : Number} : whole? number = some whole ↔
    ∃ exact : ℤ, number.rational? = some (exact : ℚ) ∧ Number.nearestInteger exact = whole := by
  cases number with
  | float x => exact whole?_float_eq_some_iff
  | int value => simp [whole?, Number.rational?, Number.nearestInteger_toInt]

theorem convert_integer_eq (tallies : Tallies) (bounds : IntegerKind) (given : Value) :
    (integer bounds).convert tallies given =
      match (number? given).bind whole? with
      | some whole => if bounds.Holds whole then .ok whole else .error (refused given bounds.title)
      | none => .error (refused given bounds.title) := rfl

/-- A value gives the integer of 64 bits that is nearest to the integer that it stands for, if this is one of the kind. -/
theorem convert_integer_eq_ok_iff : (integer bounds).convert tallies given = .ok whole ↔
    bounds.Holds whole ∧ ∃ exact : ℤ, standsFor? given = some (exact : ℚ) ∧ Number.nearestInteger exact = whole := by
  have hwhole : (number? given).bind whole? = some whole ↔
      ∃ exact : ℤ, standsFor? given = some (exact : ℚ) ∧ Number.nearestInteger exact = whole := by
    cases hnumber : number? given with
    | none => simp [standsFor?, hnumber]
    | some number => simp [standsFor?, hnumber, whole?_eq_some_iff]
  rw [convert_integer_eq, ← hwhole]
  cases (number? given).bind whole? with
  | none => simp
  | some found =>
    by_cases hfound : bounds.Holds found
    · simp only [if_pos hfound, Except.ok.injEq, Option.some.injEq]
      exact ⟨fun h ↦ ⟨h ▸ hfound, h⟩, And.right⟩
    · simp only [if_neg hfound, Option.some.injEq, reduceCtorEq, false_iff, not_and]
      rintro hholds rfl
      exact hfound hholds

theorem eq_refused_of_convert_integer {fault : Fault} (h : (integer bounds).convert tallies given = .error fault) :
    fault = refused given bounds.title := by
  rw [convert_integer_eq] at h
  split at h
  · split at h
    · cases h
    · exact (Except.error.inj h).symm
  · exact (Except.error.inj h).symm

/-- A value stands for an integer beyond those of 64 bits, and the nearest of these is one of a kind. -/
def IsClamped (bounds : IntegerKind) (given : Value) : Prop :=
  ∃ exact : ℤ, standsFor? given = some (exact : ℚ) ∧ (exact < minInteger ∨ maxInteger < exact) ∧
    bounds.Holds (Number.nearestInteger exact)

/-- A value is converted to an integer of a kind if it stands for an integer and the nearest one of 64 bits is of the kind, and
is refused otherwise. So it gives exactly the integer that it stands for, and is refused if there is none in the kind, unless
this integer is beyond those of 64 bits and the kind holds the nearest of them: then it gives that one. -/
theorem convert_integer_exact_iff (tallies : Tallies) (bounds : IntegerKind) (hbounds : bounds ∈ IntegerKind.all)
    (given : Value) :
    (∀ whole, (integer bounds).convert tallies given = .ok whole ↔
      bounds.Holds whole ∧ ∃ exact : ℤ, standsFor? given = some (exact : ℚ) ∧ Number.nearestInteger exact = whole) ∧
      (∀ fault, (integer bounds).convert tallies given = .error fault →
        fault = refused given bounds.title ∧ fault.kind = .invalidArguments) ∧
      ((∀ whole : ℤ, (integer bounds).convert tallies given = .ok whole ↔
        bounds.Holds whole ∧ standsFor? given = some (whole : ℚ)) ↔ ¬IsClamped bounds given) := by
  refine ⟨fun whole ↦ convert_integer_eq_ok_iff, fun fault h ↦ ?_, fun hexact ↦ ?_, fun hclamped whole ↦ ?_⟩
  · obtain rfl := eq_refused_of_convert_integer h
    exact ⟨rfl, rfl⟩
  · rintro ⟨exact, hstands, hbeyond, hholds⟩
    obtain ⟨-, hsame⟩ := (hexact _).1 (convert_integer_eq_ok_iff.2 ⟨hholds, exact, hstands, rfl⟩)
    rw [hstands, Option.some.injEq, Int.cast_inj] at hsame
    have hinside := Number.nearestInteger_eq_self_iff.1 hsame.symm
    omega
  · have hself (exact : ℤ) (hstands : standsFor? given = some (exact : ℚ))
        (hholds : bounds.Holds (Number.nearestInteger exact)) : Number.nearestInteger exact = exact := by
      by_contra hne
      rw [Number.nearestInteger_eq_self_iff] at hne
      exact hclamped ⟨exact, hstands, by omega, hholds⟩
    rw [convert_integer_eq_ok_iff]
    refine and_congr_right fun hholds ↦ ⟨?_, fun hstands ↦ ?_⟩
    · rintro ⟨exact, hstands, rfl⟩
      rw [hself exact hstands hholds]
      exact hstands
    · exact ⟨whole, hstands, hself whole hstands (IntegerKind.holds_nearestInteger hbounds hholds)⟩

/-- The last natural number of 32 bits, written with a fraction. -/
theorem convert_integer_exact_iff_written :
    IntegerKind.natural32 ∈ IntegerKind.all ∧
      (integer .natural32).convert [] (.string "4294967295.0") = .ok 4294967295 := by
  have hnumber : number? (.string "4294967295.0") = some (.float (.ofBits 0x41EFFFFFFFE00000)) := rfl
  have hunpack : (Float.ofBits 0x41EFFFFFFFE00000).toModel.unpack =
      .finite .positive 9007199252643840 (-21) (by decide) := rfl
  have hstands : standsFor? (.string "4294967295.0") = some ((4294967295 : ℤ) : ℚ) := by
    rw [standsFor?_of_finite hnumber hunpack, Float.Model.UnpackedFloat.Sign.apply]
    norm_num
  exact ⟨by decide, ((convert_integer_exact_iff [] .natural32 (by decide) _).1 _).2
    ⟨by decide, 4294967295, hstands, by decide⟩⟩

/-- The first integer beyond those of 64 bits is converted to the last one that is not. -/
theorem convert_integer_ne_written :
    standsFor? (.string "9223372036854775808") = some ((9223372036854775808 : ℤ) : ℚ) ∧
      (integer .signed64).convert [] (.string "9223372036854775808") = .ok 9223372036854775807 := by
  have hnumber : number? (.string "9223372036854775808") = some (.float (.ofBits 0x43E0000000000000)) := rfl
  have hunpack : (Float.ofBits 0x43E0000000000000).toModel.unpack =
      .finite .positive 4503599627370496 11 (by decide) := rfl
  refine ⟨?_, rfl⟩
  rw [standsFor?_of_finite hnumber hunpack, Float.Model.UnpackedFloat.Sign.apply]
  norm_num

end ArgumentKind

end Liquid
