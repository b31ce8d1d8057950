import Mathlib
import SlidePress.Decimal.Fixed

/-!
# `SlidePress.Proofs.Decimal.Binary` — doubles in their parts

A double is a sign, a mantissa and an exponent, or one of the values that are none. Its exact value is read from its
bits, and the operations on doubles are described by such parts, which they round and pack into bits again. Here the two
meet: the exact value of a double is that of its parts (`Exact.ofFloat_eq`), and so whether a double is greater than
zero can be read from its exact value (`pos_iff`). Rounding gives no zero from the least exponent on, so neither does a
quotient that is no smaller than the least double, and a decimal of two places is none (`pos_ofScientific`).

## Contents
- `fields`, `ofUnpacked_fields`, `Exact.ofFloat_eq`, `Exact.bounds_of_finite`: bits, parts and exact values.
- `pos_iff`, `pos_iff_not_isNaN`: doubles compared with zero.
- `shiftFor`, `roundWithAccuracy_finite`, `roundWithAccuracy_exact`: what is rounded.
- `pack_finite`, `pos_pack`, `not_pos_pack`, `unpack_pack`: what is packed.
- `pos_pack_div`, `unpack_toFloat`, `pos_ofScientific`: quotients, whole numbers and decimals.
-/

namespace SlidePress.Decimal

open Float.Model Float.Model.UnpackedFloat

/-! ## The exact value -/

/-- Whether a sign is that of a negative number. -/
def isNegative : Sign → Bool
  | .negative => true
  | .positive => false

/-- The exact value of a double in its parts. -/
def Exact.ofUnpacked : UnpackedFloat → Exact
  | .notANumber => .nan
  | .infinity s => .infinite (isNegative s)
  | .zero s => .finite (isNegative s) 0 (-1074)
  | .finite s m e _ => .finite (isNegative s) m e

/-- The bits of a double, from the fields for its sign, its exponent and its fraction. -/
def fields (s : Sign) (exponent : BitVec 11) (fraction : BitVec 52) : BitVec 64 :=
  packComponents .binary64 s exponent fraction

section

variable (s : Sign) (exponent : BitVec 11) (fraction : BitVec 52)

theorem toNat_fields :
    (fields s exponent fraction).toNat =
      s.toBitVec.toNat * 2 ^ 63 + exponent.toNat * 2 ^ 52 + fraction.toNat := by
  show (s.toBitVec ++ exponent ++ fraction).toNat = _
  rw [BitVec.toNat_append, BitVec.toNat_append, ← Nat.shiftLeft_add_eq_or_of_lt exponent.isLt,
    ← Nat.shiftLeft_add_eq_or_of_lt fraction.isLt, Nat.shiftLeft_eq, Nat.shiftLeft_eq]
  omega

theorem toNat_one_append : (1#1 ++ fraction).toNat = leastNormal + fraction.toNat := by
  rw [BitVec.toNat_append, ← Nat.shiftLeft_add_eq_or_of_lt fraction.isLt]
  rfl

/-- **What the fields stand for.** -/
theorem ofUnpacked_fields :
    Exact.ofUnpacked (UnpackedFloat.unpack .binary64 (fields s exponent fraction)) =
      if exponent.toNat = 2047 then (if fraction.toNat = 0 then .infinite (isNegative s) else .nan)
      else if exponent.toNat = 0 then .finite (isNegative s) fraction.toNat (-1074)
      else .finite (isNegative s) (leastNormal + fraction.toNat) ((exponent.toNat : Int) - 1075) := by
  have special : exponent = -1#11 ↔ exponent.toNat = 2047 := by rw [← BitVec.toNat_inj]; rfl
  have subnormal : exponent = 0#11 ↔ exponent.toNat = 0 := by rw [← BitVec.toNat_inj]; rfl
  have none_ : fraction = 0#52 ↔ fraction.toNat = 0 := by rw [← BitVec.toNat_inj]; rfl
  unfold UnpackedFloat.unpack
  simp only [fields, unpackSign_packComponents, unpackExponent_packComponents, unpackMantissa_packComponents,
    Sign.ofBitVec_toBitVec, special, subnormal, none_]
  have bias : (Format.binary64.exponentBias : Int) + (52 : Nat) = 1075 := rfl
  rw [bias]
  by_cases full : exponent.toNat = 2047
  · rw [if_pos full, if_pos full]
    split <;> rfl
  · rw [if_neg full, if_neg full]
    by_cases empty : exponent.toNat = 0
    · rw [if_pos empty, if_pos empty, empty]
      split
      · next zero => rw [zero, Exact.ofUnpacked]
      · rfl
    · rw [if_neg empty, if_neg empty, Exact.ofUnpacked, toNat_one_append]

end

theorem exists_fields (bits : BitVec 64) : ∃ s exponent fraction, bits = fields s exponent fraction :=
  ⟨_, _, _, (@packComponents_unpackSign_unpackExponent_unpackMantissa .binary64 bits).symm⟩

/-- **The exact value of a double** is that of its parts. -/
theorem Exact.ofFloat_eq (x : Float) : Exact.ofFloat x = .ofUnpacked x.toModel.unpack := by
  rw [Exact.ofFloat, Float.toBits, ← UInt64.toNat_toBitVec, Float.Model.unpack]
  obtain ⟨s, exponent, fraction, bits⟩ := exists_fields x.toModel.toBits.toBitVec
  rw [bits, ofUnpacked_fields, toNat_fields, Exact.ofBits]
  have exponentBound := exponent.isLt
  have fractionBound := fraction.isLt
  have signBound := s.toBitVec.isLt
  have high : (s.toBitVec.toNat * 2 ^ 63 + exponent.toNat * 2 ^ 52 + fraction.toNat) / 0x8000000000000000 % 2 =
      s.toBitVec.toNat := by omega
  have sign : decide (s.toBitVec.toNat = 1) = isNegative s := by cases s <;> rfl
  have middle : (s.toBitVec.toNat * 2 ^ 63 + exponent.toNat * 2 ^ 52 + fraction.toNat) / leastNormal % 0x800 =
      exponent.toNat := by
    rw [leastNormal]
    omega
  have low : (s.toBitVec.toNat * 2 ^ 63 + exponent.toNat * 2 ^ 52 + fraction.toNat) % leastNormal =
      fraction.toNat := by
    rw [leastNormal]
    omega
  rw [high, sign, middle, low]

/-- A mantissa has no more than 53 bits, and fewer only at the least exponent. -/
theorem Exact.bounds_of_finite {x : Float} {negative : Bool} {mantissa : Nat} {exponent : Int}
    (h : Exact.ofFloat x = .finite negative mantissa exponent) :
    mantissa < 2 ^ 53 ∧ -1074 ≤ exponent ∧ (mantissa < 2 ^ 52 → exponent = -1074) := by
  have fractionBound : x.toBits.toNat % leastNormal < leastNormal := Nat.mod_lt _ (by decide)
  have exponentBound : x.toBits.toNat / leastNormal % 0x800 < 0x800 := Nat.mod_lt _ (by decide)
  rw [Exact.ofFloat, Exact.ofBits] at h
  generalize x.toBits.toNat % leastNormal = fraction at *
  generalize x.toBits.toNat / leastNormal % 0x800 = field at *
  generalize decide (x.toBits.toNat / 0x8000000000000000 % 2 = 1) = sign at *
  rw [leastNormal] at *
  split at h
  · split at h <;> cases h
  · split at h <;> (cases h; omega)

/-! ## Compared -/

/-- Whether an exact value is greater than zero. -/
def Exact.IsPositive : Exact → Prop
  | .nan => False
  | .infinite negative => negative = false
  | .finite negative mantissa _ => negative = false ∧ 0 < mantissa

theorem lt_iff (x y : Float) : x < y ↔ x.toModel.unpack.lt y.toModel.unpack = true := by
  show Float.lt x y = true ↔ _
  rw [Float.lt, decide_eq_true_iff]
  rfl

theorem le_iff (x y : Float) : x ≤ y ↔ x.toModel.unpack.le y.toModel.unpack = true := by
  show Float.le x y = true ↔ _
  rw [Float.le, decide_eq_true_iff]
  rfl

theorem unpack_zero : (0 : Float).toModel.unpack = .zero .positive := rfl

/-- **A double is greater than zero** if its exact value is. -/
theorem pos_iff (x : Float) : 0 < x ↔ (Exact.ofFloat x).IsPositive := by
  rw [lt_iff, unpack_zero, Exact.ofFloat_eq, UnpackedFloat.lt]
  cases x.toModel.unpack with
  | notANumber => simp [UnpackedFloat.compare, Exact.ofUnpacked, Exact.IsPositive]
  | infinity s => cases s <;> simp [UnpackedFloat.compare, Exact.ofUnpacked, Exact.IsPositive, isNegative]
  | zero s => simp [UnpackedFloat.compare, Exact.ofUnpacked, Exact.IsPositive]
  | finite s m e some_ =>
      cases s <;> simp [UnpackedFloat.compare, Exact.ofUnpacked, Exact.IsPositive, isNegative, some_]

/-- What is not zero or less is greater, unless it is not a number. -/
theorem pos_iff_not_isNaN {x : Float} (h : ¬ x ≤ 0) : 0 < x ↔ x.isNaN = false := by
  have same : x.isNaN = x.toModel.unpack.isNaN := rfl
  rw [pos_iff, Exact.ofFloat_eq, same]
  rw [le_iff, unpack_zero, UnpackedFloat.le] at h
  cases parts : x.toModel.unpack with
  | notANumber => simp [Exact.ofUnpacked, Exact.IsPositive, UnpackedFloat.isNaN]
  | zero s => simp [parts, UnpackedFloat.compare] at h
  | infinity s =>
      cases s with
      | negative => simp [parts, UnpackedFloat.compare] at h
      | positive => simp [Exact.ofUnpacked, Exact.IsPositive, UnpackedFloat.isNaN, isNegative]
  | finite s m e some_ =>
      cases s with
      | negative => simp [parts, UnpackedFloat.compare] at h
      | positive => simp [Exact.ofUnpacked, Exact.IsPositive, UnpackedFloat.isNaN, isNegative, some_]

/-! ## Rounded -/

/-- A double has no more than 53 bits, and none below the least exponent. -/
theorem targetExponent_eq (total : Int) : Format.binary64.targetExponent total = max (total - 53) (-1074) := rfl

/-- How far a mantissa is shifted to have no more than 53 bits. -/
def shiftFor (mantissa : Nat) (exponent : Int) : Nat :=
  (Format.binary64.targetExponent (totalExponent mantissa exponent) - exponent).toNat

theorem shiftFor_eq (mantissa : Nat) (exponent : Int) :
    shiftFor mantissa exponent = (max ((mantissa.log2 : Int) - 52) (-1074 - exponent)).toNat := by
  rw [shiftFor, targetExponent_eq, totalExponent]
  omega

theorem div_shiftFor_lt (mantissa : Nat) (exponent : Int) : mantissa / 2 ^ shiftFor mantissa exponent < 2 ^ 53 := by
  rw [Nat.div_lt_iff_lt_mul (Nat.two_pow_pos _), ← Nat.pow_add]
  refine Nat.lt_of_lt_of_le Nat.lt_log2_self (Nat.pow_le_pow_right (by decide) ?_)
  rw [shiftFor_eq]
  omega

/-- From the least exponent on, a mantissa is not shifted to nothing. -/
theorem div_shiftFor_pos {mantissa : Nat} (some_ : 0 < mantissa) {exponent : Int} (least : -1074 ≤ exponent) :
    0 < mantissa / 2 ^ shiftFor mantissa exponent := by
  refine Nat.div_pos ?_ (Nat.two_pow_pos _)
  refine Nat.le_trans (Nat.pow_le_pow_right (by decide) ?_) (Nat.log2_self_le (Nat.ne_of_gt some_))
  rw [shiftFor_eq]
  omega

theorem mantissa_shiftRight (em : ExtendedMantissa) (shift : Nat) :
    (em >>> shift).mantissa = em.mantissa / 2 ^ shift := by
  induction shift with
  | zero => exact (Nat.div_one _).symm
  | succ shift ih =>
      show (em >>> shift).mantissa >>> 1 = _
      rw [ih, Nat.shiftRight_eq_div_pow, Nat.div_div_eq_div_mul, ← Nat.pow_add]

theorem le_roundToNearestEven (mantissa : Nat) (accuracy : Accuracy) :
    mantissa ≤ accuracy.roundToNearestEven mantissa := by
  rcases accuracy with _ | (_ | _ | _) <;> simp only [Accuracy.roundToNearestEven] <;> omega

theorem mantissa_ofMantissaAndAccuracy (mantissa : Nat) (accuracy : Accuracy) :
    (ExtendedMantissa.ofMantissaAndAccuracy mantissa accuracy).mantissa = mantissa := by
  rcases accuracy with _ | (_ | _ | _) <;> rfl

/-- **Rounding gives no zero** from the least exponent on, and no more than 53 bits. -/
theorem roundWithAccuracy_finite (s : Sign) {mantissa : Nat} (some_ : 0 < mantissa) {exponent : Int}
    (least : -1074 ≤ exponent) (accuracy : Accuracy) :
    ∃ m e h, roundWithAccuracy .binary64 s mantissa exponent accuracy = .finite s m e h ∧ m < 2 ^ 53 ∧ -1074 ≤ e := by
  obtain ⟨rounded, same⟩ : ∃ rounded, (ExtendedMantissa.ofMantissaAndAccuracy mantissa accuracy >>>
      shiftFor mantissa exponent).roundedMantissa = rounded := ⟨_, rfl⟩
  have kept : 0 < rounded := by
    rw [← same]
    refine Nat.lt_of_lt_of_le ?_ (le_roundToNearestEven _ _)
    rw [mantissa_shiftRight, mantissa_ofMantissaAndAccuracy]
    exact div_shiftFor_pos some_ least
  -- rounding up may have made one bit too many, so what is rounded is shifted again
  have least' : -1074 ≤ exponent + shiftFor mantissa exponent := by omega
  have shifted : (ExtendedMantissa.ofMantissaAndAccuracy rounded .exact >>>
      shiftFor rounded (exponent + shiftFor mantissa exponent)).mantissa =
        rounded / 2 ^ shiftFor rounded (exponent + shiftFor mantissa exponent) := by
    rw [mantissa_shiftRight, mantissa_ofMantissaAndAccuracy]
  have final := div_shiftFor_pos kept least'
  rw [← shifted] at final
  subst same
  refine ⟨_, _, final, dif_neg (Nat.ne_of_gt final), ?_, by omega⟩
  rw [shifted]
  exact div_shiftFor_lt _ _

/-- **A mantissa of 53 bits** is kept as it is. -/
theorem roundWithAccuracy_exact (s : Sign) {mantissa : Nat} (some_ : 0 < mantissa) (bits : mantissa.log2 = 52)
    {exponent : Int} (least : -1074 ≤ exponent) :
    roundWithAccuracy .binary64 s mantissa exponent .exact = .finite s mantissa exponent some_ := by
  have shifted (m : Nat) (e : Int) (a : Accuracy) : shiftToTargetExponent .binary64 m e a =
      (ExtendedMantissa.ofMantissaAndAccuracy m a >>> shiftFor m e, e + shiftFor m e) := rfl
  have none_ : shiftFor mantissa exponent = 0 := by
    rw [shiftFor_eq, bits]
    omega
  have unshifted (em : ExtendedMantissa) : em >>> 0 = em := rfl
  have rounded : (ExtendedMantissa.ofMantissaAndAccuracy mantissa .exact).roundedMantissa = mantissa := rfl
  unfold roundWithAccuracy
  simp only [shifted, none_, unshifted, rounded, mantissa_ofMantissaAndAccuracy, Int.natCast_zero, Int.add_zero]
  rw [dif_neg (Nat.ne_of_gt some_)]

/-! ## Packed -/

/-- How a number is packed: as an infinity if its exponent is too large, and without the leading one of its mantissa if
it has 53 bits. -/
theorem pack_finite (s : Sign) (m : Nat) (e : Int) (some_ : 0 < m) :
    UnpackedFloat.pack .binary64 (.finite s m e some_) =
      if 2 ^ 11 ≤ (e + 1075).toNat + 1 then fields s (-1#11) 0#52
      else if m.log2 = 52 then fields s (.ofNat 11 (e + 1075).toNat) (.ofNat 52 m)
      else fields s 0#11 (.ofNat 52 m) := by
  have bias : e + (Format.binary64.exponentBias : Int) + (52 : Nat) = e + 1075 := by
    show e + 1023 + 52 = e + 1075
    omega
  have bits : (m.log2 + 1 = Format.binary64.mantissaBits) = (m.log2 = 52) :=
    propext ⟨fun h => Nat.succ.inj h, fun h => congrArg Nat.succ h⟩
  simp only [UnpackedFloat.pack, bias, bits]
  rfl

/-- **What is a number or an infinity is packed with its sign.** -/
theorem exists_fields_pack (s : Sign) {u : UnpackedFloat}
    (h : u = .infinity s ∨ u = .zero s ∨ ∃ m e some_, u = .finite s m e some_) :
    ∃ exponent fraction, UnpackedFloat.pack .binary64 u = fields s exponent fraction := by
  rcases h with rfl | rfl | ⟨m, e, some_, rfl⟩
  · exact ⟨_, _, rfl⟩
  · exact ⟨_, _, rfl⟩
  · rw [pack_finite]
    split
    · exact ⟨_, _, rfl⟩
    · split <;> exact ⟨_, _, rfl⟩

theorem Exact.ofFloat_pack {u : UnpackedFloat} {s : Sign} {exponent : BitVec 11} {fraction : BitVec 52}
    (h : UnpackedFloat.pack .binary64 u = fields s exponent fraction) :
    Exact.ofFloat ⟨Float.Model.pack u⟩ =
      if exponent.toNat = 2047 then (if fraction.toNat = 0 then .infinite (isNegative s) else .nan)
      else if exponent.toNat = 0 then .finite (isNegative s) fraction.toNat (-1074)
      else .finite (isNegative s) (leastNormal + fraction.toNat) ((exponent.toNat : Int) - 1075) := by
  rw [Exact.ofFloat_eq, ← ofUnpacked_fields, ← h]
  rfl

/-- What is packed with the sign of negative numbers is not greater than zero. -/
theorem not_pos_pack {u : UnpackedFloat}
    (h : u = .infinity .negative ∨ u = .zero .negative ∨ ∃ m e some_, u = .finite .negative m e some_) :
    ¬ 0 < (⟨Float.Model.pack u⟩ : Float) := by
  obtain ⟨exponent, fraction, bits⟩ := exists_fields_pack .negative h
  rw [pos_iff, Exact.ofFloat_pack bits]
  split
  · split <;> simp [Exact.IsPositive, isNegative]
  · split <;> simp [Exact.IsPositive, isNegative]

/-- **What is packed from a positive mantissa** of no more than 53 bits, at the least exponent or above it, is greater
than zero. -/
theorem pos_pack {m : Nat} (some_ : 0 < m) (bits : m < 2 ^ 53) {e : Int} (least : -1074 ≤ e) :
    0 < (⟨Float.Model.pack (.finite .positive m e some_)⟩ : Float) := by
  have packed := pack_finite .positive m e some_
  rw [pos_iff]
  split at packed
  · rw [Exact.ofFloat_pack packed]
    rfl
  · split at packed
    · have exponent : (BitVec.ofNat 11 (e + 1075).toNat).toNat = (e + 1075).toNat := by
        rw [BitVec.toNat_ofNat]
        omega
      rw [Exact.ofFloat_pack packed, exponent, if_neg (by omega), if_neg (by omega)]
      exact ⟨rfl, Nat.lt_of_lt_of_le (by decide) (Nat.le_add_right leastNormal _)⟩
    · next short =>
      have few : m.log2 < 53 := (Nat.log2_lt (Nat.ne_of_gt some_)).mpr bits
      have fewer : m < 2 ^ 52 := (Nat.log2_lt (Nat.ne_of_gt some_)).mp (by omega)
      have fraction : (BitVec.ofNat 52 m).toNat = m := by
        rw [BitVec.toNat_ofNat]
        omega
      rw [Exact.ofFloat_pack packed, fraction]
      exact ⟨rfl, some_⟩

/-- Parts with the exact value of a number that is not zero are that number. -/
theorem eq_finite_of_ofUnpacked {u : UnpackedFloat} {s : Sign} {m : Nat} {e : Int} (some_ : 0 < m)
    (h : Exact.ofUnpacked u = .finite (isNegative s) m e) : u = .finite s m e some_ := by
  cases u with
  | notANumber => cases h
  | infinity s' => cases h
  | zero s' =>
      obtain ⟨-, none_, -⟩ := Exact.finite.inj h
      exact absurd none_.symm (Nat.ne_of_gt some_)
  | finite s' m' e' _ =>
      obtain ⟨sign, rfl, rfl⟩ := Exact.finite.inj h
      cases s <;> cases s' <;> first | rfl | cases sign

/-- **A number with 53 bits** is what it is packed from. -/
theorem unpack_pack {s : Sign} {m : Nat} (some_ : 0 < m) (bits : m.log2 = 52) {e : Int} (least : -1074 ≤ e)
    (most : e ≤ 971) : (Float.Model.pack (.finite s m e some_)).unpack = .finite s m e some_ := by
  obtain ⟨low, high⟩ := (Nat.log2_eq_iff (Nat.ne_of_gt some_)).mp bits
  have exponent : (BitVec.ofNat 11 (e + 1075).toNat).toNat = (e + 1075).toNat := by
    rw [BitVec.toNat_ofNat]
    omega
  have fraction : (BitVec.ofNat 52 m).toNat = m - leastNormal := by
    rw [BitVec.toNat_ofNat, leastNormal]
    omega
  have packed := pack_finite s m e some_
  rw [if_neg (by omega), if_pos bits] at packed
  apply eq_finite_of_ofUnpacked some_
  show Exact.ofUnpacked (UnpackedFloat.unpack .binary64 (UnpackedFloat.pack .binary64 (.finite s m e some_))) = _
  have parts := ofUnpacked_fields s (.ofNat 11 (e + 1075).toNat) (.ofNat 52 m)
  rw [← packed, exponent, fraction, if_neg (by omega), if_neg (by omega)] at parts
  have mantissa : leastNormal + (m - leastNormal) = m := Nat.add_sub_cancel' low
  have place : ((e + 1075).toNat : Int) - 1075 = e := by omega
  rw [mantissa, place] at parts
  exact parts

/-! ## Divided -/

/-- A quotient that is no less than the least double is not rounded to zero. -/
theorem divCore_bounds {m₁ m₂ : Nat} (some₁ : 0 < m₁) (some₂ : 0 < m₂) {e₁ e₂ : Int}
    (large : (m₂.log2 : Int) + 1 ≤ m₁.log2 + (e₁ - e₂) + 1074) (least : -1074 ≤ e₁ - e₂) :
    0 < (divCore .binary64 m₁ e₁ m₂ e₂).1 ∧ -1074 ≤ (divCore .binary64 m₁ e₁ m₂ e₂).2.1 := by
  simp only [divCore, targetExponent_eq, totalExponent]
  constructor
  · refine Nat.div_pos ?_ some₂
    rw [Nat.shiftLeft_eq]
    have enough : m₂.log2 + 1 ≤ m₁.log2 + (e₁ - e₂ - min (e₁ - e₂)
        (max (m₁.log2 + 1 + e₁ - (m₂.log2 + 1 + e₂) - 53) (-1074))).toNat := by omega
    calc m₂ ≤ 2 ^ (m₂.log2 + 1) := Nat.le_of_lt Nat.lt_log2_self
      _ ≤ 2 ^ (m₁.log2 + _) := Nat.pow_le_pow_right (by decide) enough
      _ ≤ m₁ * 2 ^ _ := by
          rw [Nat.pow_add]
          exact Nat.mul_le_mul_right _ (Nat.log2_self_le (Nat.ne_of_gt some₁))
  · omega

/-- **A quotient of positive numbers** that is no less than the least double is greater than zero. -/
theorem pos_pack_div {m₁ m₂ : Nat} (some₁ : 0 < m₁) (some₂ : 0 < m₂) {e₁ e₂ : Int}
    (large : (m₂.log2 : Int) + 1 ≤ m₁.log2 + (e₁ - e₂) + 1074) (least : -1074 ≤ e₁ - e₂) :
    0 < (⟨Float.Model.pack (UnpackedFloat.div .binary64 (.finite .positive m₁ e₁ some₁)
      (.finite .positive m₂ e₂ some₂))⟩ : Float) := by
  obtain ⟨quotient, exponent⟩ := divCore_bounds some₁ some₂ large least
  obtain ⟨m, e, some_, rounded, bits, least'⟩ := roundWithAccuracy_finite .positive quotient exponent
    (divCore .binary64 m₁ e₁ m₂ e₂).2.2
  have parts : UnpackedFloat.div .binary64 (.finite .positive m₁ e₁ some₁) (.finite .positive m₂ e₂ some₂) =
      .finite .positive m e some_ := rounded
  rw [parts]
  exact pos_pack some_ bits least'

theorem log2_shiftLeft {n : Nat} (some_ : 0 < n) (shift : Nat) : (n <<< shift).log2 = n.log2 + shift := by
  have more : 0 < n * 2 ^ shift := Nat.mul_pos some_ (Nat.two_pow_pos shift)
  rw [Nat.shiftLeft_eq, Nat.log2_eq_iff (Nat.ne_of_gt more), Nat.add_right_comm, Nat.pow_add, Nat.pow_add]
  exact ⟨Nat.mul_le_mul_right _ (Nat.log2_self_le (Nat.ne_of_gt some_)),
    Nat.mul_lt_mul_of_pos_right Nat.lt_log2_self (Nat.two_pow_pos shift)⟩

/-- **A whole number below two to the power 53** is a double. -/
theorem unpack_toFloat {n : Nat} (some_ : 0 < n) (small : n < 2 ^ 53) :
    ∃ m e h, n.toUInt64.toFloat.toModel.unpack = .finite .positive m e h ∧ m.log2 = 52 ∧ -52 ≤ e := by
  have few : n.log2 < 53 := (Nat.log2_lt (Nat.ne_of_gt some_)).mpr small
  have word : n.toUInt64.toNat = n := Nat.mod_eq_of_lt (Nat.lt_trans small (by decide))
  have shift : (0 - max ((n.log2 : Int) + 1 + 0 - 53) (-1074)).toNat = 52 - n.log2 := by omega
  have shifted : 0 < n <<< (52 - n.log2) := by
    rw [Nat.shiftLeft_eq]
    exact Nat.mul_pos some_ (Nat.two_pow_pos _)
  have bits : (n <<< (52 - n.log2)).log2 = 52 := by
    rw [log2_shiftLeft some_]
    omega
  have exact_ : UnpackedFloat.ofUInt64 .binary64 n.toUInt64 =
      .finite .positive (n <<< (52 - n.log2)) (0 - (52 - n.log2 : Nat)) shifted := by
    have positive : compare (n : Int) 0 = .gt := Int.compare_eq_gt.mpr (by omega)
    simp only [UnpackedFloat.ofUInt64, word, UnpackedFloat.ofNat, UnpackedFloat.ofInt, UnpackedFloat.normalize,
      positive, Int.toNat_natCast, UnpackedFloat.round, decreaseExponent, targetExponent_eq, totalExponent, shift]
    exact roundWithAccuracy_exact .positive shifted bits (by omega)
  refine ⟨_, 0 - (52 - n.log2 : Nat), shifted, ?_, bits, by omega⟩
  have packed : n.toUInt64.toFloat.toModel = Float.Model.pack (UnpackedFloat.ofUInt64 .binary64 n.toUInt64) := rfl
  rw [packed, exact_, unpack_pack shifted bits (by omega) (by omega)]

/-- **A decimal of two places** that is not zero is greater than zero as a double. -/
theorem pos_ofScientific {n : Nat} (some_ : 0 < n) : 0 < Float.ofScientific n true 2 := by
  have hundred : Float.exactlyRepresentablePowersOfTen[2].toModel.unpack =
      .finite .positive 7036874417766400 (-46) (by decide) := rfl
  by_cases small : n < 2 ^ 53
  · have quotient : Float.ofScientific n true 2 = n.toUInt64.toFloat / Float.exactlyRepresentablePowersOfTen[2] := by
      rw [Float.ofScientific, dif_pos ⟨small, by decide⟩, if_pos rfl]
    have packed : n.toUInt64.toFloat / Float.exactlyRepresentablePowersOfTen[2] =
        ⟨Float.Model.pack (UnpackedFloat.div .binary64 n.toUInt64.toFloat.toModel.unpack
          Float.exactlyRepresentablePowersOfTen[2].toModel.unpack)⟩ := rfl
    obtain ⟨m, e, h, parts, bits, least⟩ := unpack_toFloat some_ small
    have bits' : Nat.log2 7036874417766400 = 52 := by decide
    rw [quotient, packed, parts, hundred]
    exact pos_pack_div h _ (by omega) (by omega)
  · have packed : Float.ofScientific n true 2 =
        ⟨Float.Model.pack (UnpackedFloat.ofScientific .binary64 n (-2))⟩ := by
      rw [Float.ofScientific, dif_neg fun h => small h.1]
      rfl
    have large : 53 ≤ n.log2 := (Nat.le_log2 (Nat.ne_of_gt some_)).mpr (Nat.le_of_not_lt small)
    have bits : Nat.log2 (10 ^ 2) = 6 := by decide
    have quotient : UnpackedFloat.ofScientific .binary64 n (-2) =
        UnpackedFloat.div .binary64 (.finite .positive n 0 some_) (.finite .positive (10 ^ 2) 0 (by decide)) := by
      have positive : (0 : Int) < 2 ^ Format.binary64.exponentBits := by decide
      rw [UnpackedFloat.ofScientific, dif_neg (Nat.ne_of_gt some_), if_neg (by decide), if_neg (by omega),
        if_neg (by decide)]
      rfl
    rw [packed, quotient]
    exact pos_pack_div some_ _ (by omega) (by omega)

end SlidePress.Decimal
