import SlidePress.Text.Blank
import SlidePress.Text.Digit
import SlidePress.Text.Lines
import Mathlib.Data.List.Infix

/-!
# `SlidePress.Proofs.Text.Numeral` — numbers, written and read

A number is written with the ten ASCII digits and read with the digits of every script. Reading what was written gives
the number back: each ASCII digit has the value of its code point, so reading is the fold that undoes writing.
-/

namespace SlidePress.Text

/-- What holds of the ten digits holds of every ASCII digit. -/
theorem ascii_digit {P : Char → Prop} (all : ∀ d < 10, P (Char.ofNat (48 + d))) {c : Char} (h : c.isDigit = true) :
    P c := by
  have bounds : 48 ≤ c.toNat ∧ c.toNat ≤ 57 := by
    simp only [Char.isDigit, Bool.and_eq_true, decide_eq_true_eq, ge_iff_le, UInt32.le_iff_toNat_le] at h
    exact h
  have same : Char.ofNat (48 + (c.toNat - 48)) = c := by
    rw [Nat.add_sub_cancel' bounds.1, Char.ofNat_toNat]
  rw [← same]
  exact all (c.toNat - 48) (by omega)

/-- What holds of the ten digits of each script holds of every digit. -/
theorem digit_of_script {P : Char → Prop} (all : ∀ low ∈ decimalZeros, ∀ d < 10, P (Char.ofNat (low + d))) {c : Char}
    (h : isDigit c = true) : P c := by
  obtain ⟨value, found⟩ := Option.isSome_iff_exists.mp h
  obtain ⟨low, mem, inside⟩ := List.exists_of_findSome?_eq_some found
  split at inside
  · next bounds =>
      have same : Char.ofNat (low + (c.toNat - low)) = c := by
        rw [Nat.add_sub_cancel' bounds.1, Char.ofNat_toNat]
      rw [← same]
      exact all low mem (c.toNat - low) (by omega)
  · cases inside

theorem isBlank_of_isDigit {c : Char} (h : isDigit c = true) : isBlank c = false :=
  digit_of_script (P := fun c => isBlank c = false) (by decide +kernel) h

/-- An ASCII digit has the value that its code point says. -/
theorem digitValue?_of_isDigit {c : Char} (h : c.isDigit = true) : digitValue? c = some (c.toNat - 48) := by
  refine ascii_digit (P := fun c => digitValue? c = some (c.toNat - 48)) (fun d hd => ?_) h
  have point : ∀ d < 10, (Char.ofNat (48 + d)).toNat - 48 = d := by decide
  rw [digitValue?_ascii d hd, point d hd]

theorem isDigit_of_isDigit {c : Char} (h : c.isDigit = true) : isDigit c = true := by
  rw [isDigit, digitValue?_of_isDigit h]
  rfl

theorem ascii_of_mem_toDigits {n : Nat} {c : Char} (h : c ∈ Nat.toDigits 10 n) : c.isDigit = true :=
  Nat.isDigit_of_mem_toDigits (by decide) (by decide) h

theorem numeralValue_toDigits (n : Nat) : numeralValue (Nat.toDigits 10 n) = n := by
  have step : ∀ c ∈ Nat.toDigits 10 n, ∀ m : Nat,
      10 * m + (digitValue? c).getD 0 = 10 * m + (c.toNat - '0'.toNat) := by
    intro c hc m
    rw [digitValue?_of_isDigit (ascii_of_mem_toDigits hc)]
    rfl
  calc numeralValue (Nat.toDigits 10 n)
      = (Nat.toDigits 10 n).foldl (fun m c => 10 * m + (c.toNat - '0'.toNat)) 0 :=
        List.foldl_ext _ _ _ fun m c hc => step c hc m
    _ = n := Nat.ofDigitChars_ten_toDigits

theorem toDigits_injective {m n : Nat} (h : Nat.toDigits 10 m = Nat.toDigits 10 n) : m = n := by
  rw [← numeralValue_toDigits m, h, numeralValue_toDigits]

theorem exists_toDigits_cons (n : Nat) : ∃ d ds, Nat.toDigits 10 n = d :: ds ∧ d.isDigit = true := by
  cases digits : Nat.toDigits 10 n with
  | nil => exact absurd digits Nat.toDigits_ne_nil
  | cons d ds => exact ⟨d, ds, rfl, ascii_of_mem_toDigits (digits ▸ List.mem_cons_self)⟩

/-- **No written number begins with a zero**, but for zero itself. -/
theorem eq_nil_of_toDigits_zero {n : Nat} {ds : List Char} (h : Nat.toDigits 10 n = '0' :: ds) : ds = [] := by
  induction n using Nat.strongRecOn generalizing ds with
  | ind n ih =>
      by_cases small : n < 10
      · rw [Nat.toDigits_of_lt_base small] at h
        exact (List.cons.inj h).2.symm
      · have large : 10 ≤ n := Nat.le_of_not_lt small
        rw [Nat.toDigits_of_base_le (by decide) large] at h
        obtain ⟨d, later, digits, _⟩ := exists_toDigits_cons (n / 10)
        rw [digits] at h
        -- the number without its last digit begins with the same zero, so it is zero
        obtain rfl := (List.cons.inj h).1
        obtain rfl := ih (n / 10) (by omega) digits
        have zero : n / 10 = 0 := by rw [← numeralValue_toDigits (n / 10), digits]; decide
        omega

theorem numeral_toDigits {n : Nat} (h : (Nat.toDigits 10 n).length ≤ maxDigits) :
    numeral (Nat.toDigits 10 n) = .ok n := by
  rw [numeral, if_pos h, numeralValue_toDigits]

/-- **A number is refused** where it has too many digits, and for nothing else. -/
theorem numeral_eq_error_iff {cs : List Char} {long : NumeralTooLong} :
    numeral cs = .error long ↔ maxDigits < cs.length ∧ long = ⟨cs.length⟩ := by
  rw [numeral]
  split
  · next short =>
    constructor
    · intro same
      cases same
    · rintro ⟨tooLong, -⟩
      exact absurd short (Nat.not_le_of_lt tooLong)
  · next tooLong =>
    constructor
    · intro same
      exact ⟨Nat.lt_of_not_le tooLong, (Except.error.inj same).symm⟩
    · rintro ⟨-, rfl⟩
      rfl

/-! ## Digits in a text -/

/-- **So many digits stand next to each other** in a text. -/
def HasDigitRun (count : Nat) (cs : List Char) : Prop :=
  ∃ run, run <:+: cs ∧ (∀ c ∈ run, c.isDigit = true) ∧ run.length = count

/-- Digits that stand in a part of a text stand in the text. -/
theorem HasDigitRun.mono {count : Nat} {part cs : List Char} (h : HasDigitRun count part) (inside : part <:+: cs) :
    HasDigitRun count cs := by
  obtain ⟨run, found, digits, length⟩ := h
  exact ⟨run, found.trans inside, digits, length⟩

/-- Digits at the front of a text are there whatever its newlines are. -/
theorem prefix_of_normalizeNewlines {run : List Char} (digits : ∀ c ∈ run, c.isDigit = true) {cs : List Char}
    (h : run <+: normalizeNewlines cs) : run <+: cs := by
  induction run generalizing cs with
  | nil => exact List.nil_prefix
  | cons d run ih =>
      have notNewline : d ≠ '\n' := by
        rintro rfl
        exact absurd (digits '\n' List.mem_cons_self) (by decide)
      rw [normalizeNewlines.eq_def] at h
      split at h
      · cases List.prefix_nil.mp h
      · exact absurd (List.cons_prefix_cons.mp h).1 notNewline
      · next c rest _ =>
        obtain ⟨same, behind⟩ := List.cons_prefix_cons.mp h
        split at same
        · exact absurd same notNewline
        · rw [same]
          exact (List.cons_prefix_cons.mpr ⟨rfl, ih (fun c mem => digits c (List.mem_cons_of_mem d mem)) behind⟩)

/-- **Digits next to each other** stay so where newlines are written in one way. -/
theorem HasDigitRun.of_normalizeNewlines {count : Nat} {cs : List Char} (h : HasDigitRun count (normalizeNewlines cs)) :
    HasDigitRun count cs := by
  obtain ⟨run, found, digits, length⟩ := h
  refine ⟨run, ?_, digits, length⟩
  -- the run stands at the front, where there is no newline in it, or further in
  induction cs using normalizeNewlines.induct with
  | case1 => exact found
  | case2 rest ih =>
      have written := normalizeNewlines.eq_2 rest
      rcases List.infix_cons_iff.mp (written ▸ found) with front | inside
      · exact (prefix_of_normalizeNewlines digits (written ▸ front)).isInfix
      · exact (ih inside).trans (List.suffix_append ['\r', '\n'] rest).isInfix
  | case3 c rest single ih =>
      have written := normalizeNewlines.eq_3 c rest single
      rcases List.infix_cons_iff.mp (written ▸ found) with front | inside
      · exact (prefix_of_normalizeNewlines digits (written ▸ front)).isInfix
      · exact (ih inside).trans (List.suffix_cons c rest).isInfix

end SlidePress.Text
