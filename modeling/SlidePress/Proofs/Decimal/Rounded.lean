import SlidePress.Proofs.Decimal.Binary

/-!
# `SlidePress.Proofs.Decimal.Rounded` — what is left of a number rounded to two places

Rounding to two places takes a double to the nearest hundredth, and a half to the even one. So what is left of a
positive number is nothing exactly up to half a hundredth. No double is half a hundredth, since that is no binary
fraction: the one that is written `0.005` is the first above it, and what is rounded from there on is greater than zero
(`pos_roundTo_iff`).
-/

namespace SlidePress.Decimal

open Float.Model Float.Model.UnpackedFloat

/-! ## Hundredths -/

/-- A quotient is rounded to something if it is more than a half. -/
theorem roundRatio_pos_iff {num den : Nat} (some_ : 0 < den) : 0 < roundRatio num den ↔ den < 2 * num := by
  have whole := Nat.div_add_mod num den
  unfold roundRatio
  rcases Nat.eq_zero_or_pos (num / den) with none_ | positive
  · rw [none_, Nat.mul_zero, Nat.zero_add] at whole
    rw [none_, whole]
    dsimp only
    rw [if_pos (Nat.zero_mod 2)]
    split
    · omega
    · split <;> omega
  · have large : den ≤ num := (Nat.div_pos_iff.mp positive).2
    have rounded : 0 < num / den + 1 := Nat.succ_pos _
    simp only [apply_ite (0 < ·), positive, rounded, ite_self, true_iff]
    omega

/-- **There are hundredths in a double** from the first one above half a hundredth on. -/
theorem scaled_pos_iff {m : Nat} {e : Int} (bits : m < 2 ^ 53) (normal : m < 2 ^ 52 → e = -1074) :
    0 < scaled 2 m e ↔ -60 < e ∨ e = -60 ∧ 5764607523034235 ≤ m := by
  show 0 < roundRatio (m * 2 ^ e.toNat * 10 ^ 2) (2 ^ (-e).toNat) ↔ _
  rw [roundRatio_pos_iff (Nat.two_pow_pos _)]
  rcases Int.lt_trichotomy e (-60) with below | rfl | above
  · -- two hundred times a mantissa has no more than 61 bits
    have none_ : e.toNat = 0 := by omega
    have large : 2 ^ 61 ≤ 2 ^ (-e).toNat := Nat.pow_le_pow_right (by decide) (by omega)
    rw [none_]
    omega
  · have power : (-(-60 : Int)).toNat = 60 := rfl
    have none_ : (-60 : Int).toNat = 0 := rfl
    rw [power, none_]
    omega
  · have large : 2 ^ 52 ≤ m := by
      by_contra small
      have least := normal (Nat.lt_of_not_le small)
      omega
    have scale : 2 ^ (-e).toNat ≤ 2 ^ 59 := Nat.pow_le_pow_right (by decide) (by omega)
    have kept : m * 1 ≤ m * 2 ^ e.toNat := Nat.mul_le_mul_left m (Nat.two_pow_pos _)
    omega

/-! ## Compared -/

theorem unpack_halfHundredth :
    (0.005 : Float).toModel.unpack = .finite .positive 5764607523034235 (-60) (by decide) := rfl

/-- **The doubles from half a hundredth on.** -/
theorem halfHundredth_le_iff (x : Float) :
    0.005 ≤ x ↔ match Exact.ofFloat x with
      | .nan => False
      | .infinite negative => negative = false
      | .finite negative m e => negative = false ∧ (-60 < e ∨ e = -60 ∧ 5764607523034235 ≤ m) := by
  rw [le_iff, unpack_halfHundredth, UnpackedFloat.le, Exact.ofFloat_eq]
  cases x.toModel.unpack with
  | notANumber => simp [UnpackedFloat.compare, Exact.ofUnpacked]
  | infinity s => cases s <;> simp [UnpackedFloat.compare, Exact.ofUnpacked, isNegative]
  | zero s => simp [UnpackedFloat.compare, Exact.ofUnpacked]
  | finite s m e some_ =>
      cases s with
      | negative => simp [UnpackedFloat.compare, Exact.ofUnpacked, isNegative]
      | positive =>
          -- doubles of one sign are compared by their exponents first
          have places : ((compare (-60 : Int) e).then (compare 5764607523034235 m)).isLE = true ↔
              -60 < e ∨ e = -60 ∧ 5764607523034235 ≤ m := by
            rcases Int.lt_trichotomy (-60) e with above | rfl | below
            · rw [Int.compare_eq_lt.mpr above]
              simp [above]
            · rw [Int.compare_eq_eq.mpr rfl]
              simp [Nat.isLE_compare]
            · rw [Int.compare_eq_gt.mpr below]
              simp
              omega
          simpa [UnpackedFloat.compare, Exact.ofUnpacked, isNegative] using places

/-! ## Rounded -/

theorem not_pos_neg {x : Float} (h : 0 < x) : ¬ 0 < -x := by
  have packed : -x = ⟨Float.Model.pack x.toModel.unpack.neg⟩ := rfl
  rw [pos_iff, Exact.ofFloat_eq] at h
  rw [packed]
  apply not_pos_pack
  cases parts : x.toModel.unpack with
  | notANumber => simp [parts, Exact.ofUnpacked, Exact.IsPositive] at h
  | zero s => simp [parts, Exact.ofUnpacked, Exact.IsPositive] at h
  | infinity s =>
      cases s with
      | negative => simp [parts, Exact.ofUnpacked, Exact.IsPositive, isNegative] at h
      | positive => exact Or.inl rfl
  | finite s m e some_ =>
      cases s with
      | negative => simp [parts, Exact.ofUnpacked, Exact.IsPositive, isNegative] at h
      | positive => exact Or.inr (Or.inr ⟨m, e, some_, rfl⟩)

/-- **A double rounded to two places is greater than zero** exactly from half a hundredth on. -/
theorem pos_roundTo_iff (x : Float) : 0 < roundTo 2 x ↔ 0.005 ≤ x := by
  rw [halfHundredth_le_iff, roundTo]
  have positive := pos_iff x
  cases exact_ : Exact.ofFloat x with
  | nan =>
      rw [exact_] at positive
      exact positive
  | infinite negative =>
      rw [exact_] at positive
      exact positive
  | finite negative m e =>
      obtain ⟨bits, -, normal⟩ := Exact.bounds_of_finite exact_
      have zero : ¬ 0 < Float.ofScientific 0 true 2 ∧ ¬ 0 < -Float.ofScientific 0 true 2 := by decide +kernel
      dsimp only
      rw [← scaled_pos_iff bits normal]
      rcases Nat.eq_zero_or_pos (scaled 2 m e) with none_ | positive
      · rw [none_]
        cases negative <;> simp [zero]
      · have rounded := pos_ofScientific positive
        cases negative <;> simp [positive, rounded, not_pos_neg rounded]

end SlidePress.Decimal
