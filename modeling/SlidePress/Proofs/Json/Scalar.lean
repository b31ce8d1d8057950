import SlidePress.Json.Parser
import SlidePress.Json.Printer
import SlidePress.Proofs.Text.Numeral
import Mathlib.Tactic.IntervalCases

/-!
# `SlidePress.Proofs.Json.Scalar` — texts and numbers, written and read

Reading undoes writing for the values without parts. A text is escaped one character at a time, so one character is read
back whatever follows it (`scanString_escapeChar`), and a written text is a run of those. Characters are no halves of a
pair, so joining halves leaves them alone.

A number has no sign for its end: it ends where no digit, point or power of ten follows. What follows a value in a
document is never one of those (`follows`).
-/

namespace SlidePress

/-- The whole numbers that a document can be read back with: their digits are not too many. -/
def Number.Writable : Number → Prop
  | .int n => (Nat.toDigits 10 n.natAbs).length ≤ Text.maxDigits
  | .float _ => False

instance : DecidablePred Number.Writable
  | .int n => inferInstanceAs (Decidable ((Nat.toDigits 10 n.natAbs).length ≤ Text.maxDigits))
  | .float _ => inferInstanceAs (Decidable False)

end SlidePress

namespace SlidePress.Json

open Text

/-! ## Texts -/

/-- A backslash and a letter are the character that the letter stands for. -/
theorem scanString_letter {letter c : Char} (h : unescape? letter = some c) (rest : List Char) :
    scanString ('\\' :: letter :: rest) = (scanString rest).map fun out => (c.toNat :: out.1, out.2) := by
  have other : letter ≠ 'u' := by
    rintro rfl
    cases h
  rw [scanString]
  · rw [h]
    cases scanString rest <;> rfl
  · exact fun _ _ _ _ _ escaped => absurd escaped other

/-- A character that is neither a quote nor a backslash nor a control character stands for itself. -/
theorem scanString_plain {c : Char} (quote : c ≠ '"') (backslash : c ≠ '\\') (printed : ¬ c.toNat < 0x20)
    (rest : List Char) :
    scanString (c :: rest) = (scanString rest).map fun out => (c.toNat :: out.1, out.2) := by
  rw [scanString]
  · rw [if_neg printed]
    cases scanString rest <;> rfl
  · exact quote
  · exact fun _ _ _ _ _ escaped => absurd escaped backslash
  · exact fun _ _ escaped => absurd escaped backslash

/-- The last two of the four digits of a control character are enough. -/
theorem hexUnit?_digitChar :
    ∀ n < 0x20, hexUnit? '0' '0' (Nat.digitChar (n / 16)) (Nat.digitChar (n % 16)) = some n := by
  decide

/-- **A written character is read back**, whatever follows it. -/
theorem scanString_escapeChar (c : Char) (rest : List Char) :
    scanString (escapeChar c ++ rest) = (scanString rest).map fun out => (c.toNat :: out.1, out.2) := by
  unfold escapeChar
  iterate 7
    split
    · next h => subst h; exact scanString_letter (by decide) rest
  split
  · next control =>
      show scanString ('\\' :: 'u' :: '0' :: '0' :: _ :: _ :: rest) = _
      rw [scanString, hexUnit?_digitChar c.toNat control]
      cases scanString rest <;> rfl
  · next quote backslash _ _ _ _ _ printed => exact scanString_plain quote backslash printed rest

theorem scanString_escaped (cs rest : List Char) :
    scanString (cs.flatMap escapeChar ++ '"' :: rest) = some (cs.map Char.toNat, rest) := by
  induction cs with
  | nil => rfl
  | cons c cs ih =>
      rw [List.flatMap_cons, List.append_assoc, scanString_escapeChar, ih]
      rfl

theorem toNat_not_surrogate (c : Char) : ¬ (0xD800 ≤ c.toNat ∧ c.toNat < 0xE000) := by
  have valid : c.toNat < 0xD800 ∨ 0xDFFF < c.toNat ∧ c.toNat < 0x110000 := c.valid
  omega

/-- **Characters stay as they are** where the halves of pairs are joined. -/
theorem joinSurrogates_toNat (cs : List Char) : joinSurrogates (cs.map Char.toNat) = cs := by
  induction cs with
  | nil => rfl
  | cons c cs ih =>
      have whole := toNat_not_surrogate c
      cases cs with
      | nil =>
          show [if 0xD800 ≤ c.toNat ∧ c.toNat < 0xE000 then '\ufffd' else Char.ofNat c.toNat] = [c]
          rw [if_neg whole, Char.ofNat_toNat]
      | cons d cs =>
          have notHigh : ¬ (0xD800 ≤ c.toNat ∧ c.toNat < 0xDC00 ∧ 0xDC00 ≤ d.toNat ∧ d.toNat < 0xE000) := by
            omega
          rw [List.map_cons, List.map_cons, joinSurrogates, if_neg notHigh, if_neg whole, Char.ofNat_toNat]
          rw [← List.map_cons, ih]

/-- **A written text is read back**, from behind its first quote. -/
theorem parseString_escaped (s : String) (rest : List Char) :
    parseString (s.toList.flatMap escapeChar ++ '"' :: rest) = .ok (s, rest) := by
  rw [parseString, scanString_escaped]
  show Except.ok (String.ofList (joinSurrogates (s.toList.map Char.toNat)), rest) = _
  rw [joinSurrogates_toNat, String.ofList_toList]

theorem stringText_append (s : String) (rest : List Char) :
    stringText s ++ rest = '"' :: (s.toList.flatMap escapeChar ++ '"' :: rest) := by
  rw [stringText, List.append_assoc]
  rfl

/-! ## Numbers -/

/-- What can follow a value inside a document, or at its end: a comma, a line end or a closing bracket. -/
def follows : List Char → Bool
  | [] => true
  | c :: _ => c = ',' || c = '\n' || c = ']' || c = '\x7d'

theorem of_follows_cons {c : Char} {rest : List Char} (h : follows (c :: rest) = true) :
    c = ',' ∨ c = '\n' ∨ c = ']' ∨ c = '\x7d' := by
  simpa [follows, or_assoc] using h

theorem digits_of_follows {rest : List Char} (h : follows rest = true) :
    rest.takeWhile Char.isDigit = [] ∧ rest.dropWhile Char.isDigit = rest := by
  cases rest with
  | nil => exact ⟨rfl, rfl⟩
  | cons c rest => obtain rfl | rfl | rfl | rfl := of_follows_cons h <;> exact ⟨rfl, rfl⟩

theorem scanFraction_of_follows {rest : List Char} (h : follows rest = true) : scanFraction rest = (none, rest) := by
  cases rest with
  | nil => rfl
  | cons c rest => obtain rfl | rfl | rfl | rfl := of_follows_cons h <;> rfl

theorem scanPower_of_follows {rest : List Char} (h : follows rest = true) :
    Decimal.scanPower rest = (none, rest) := by
  cases rest with
  | nil => rfl
  | cons c rest => obtain rfl | rfl | rfl | rfl := of_follows_cons h <;> rfl

/-- A written number is the whole part of what it is followed by. -/
theorem scanWhole_toDigits (n : Nat) {rest : List Char} (h : follows rest = true) :
    scanWhole (Nat.toDigits 10 n ++ rest) = some (Nat.toDigits 10 n, rest) := by
  obtain ⟨d, ds, digits, digit⟩ := exists_toDigits_cons n
  by_cases zero : d = '0'
  · subst zero
    obtain rfl := eq_nil_of_toDigits_zero digits
    rw [digits]
    rfl
  · have all : ∀ c ∈ Nat.toDigits 10 n, c.isDigit = true := fun c mem => ascii_of_mem_toDigits mem
    have notZero : ∀ tail, Nat.toDigits 10 n ++ rest ≠ '0' :: tail := by
      rintro tail starts
      rw [digits] at starts
      exact zero (List.cons.inj starts).1
    have run : (Nat.toDigits 10 n ++ rest).takeWhile Char.isDigit = Nat.toDigits 10 n := by
      rw [List.takeWhile_append_of_pos all, (digits_of_follows h).1, List.append_nil]
    have behind : (Nat.toDigits 10 n ++ rest).dropWhile Char.isDigit = rest := by
      rw [List.dropWhile_append_of_pos all, (digits_of_follows h).2]
    have some_ : (Nat.toDigits 10 n).isEmpty = false := by rw [digits]; rfl
    rw [scanWhole]
    · simp only [run, behind, some_]
      rfl
    · exact notZero

/-- **A written number is read back**, where it is followed by what can follow a value. -/
theorem parseNumber_wholeChars {n : Int} (short : (Nat.toDigits 10 n.natAbs).length ≤ maxDigits) {rest : List Char}
    (h : follows rest = true) : parseNumber (Decimal.wholeChars n ++ rest) = .ok (.int n, rest) := by
  have whole := scanWhole_toDigits n.natAbs h
  by_cases negative : n < 0
  · rw [Decimal.wholeChars, if_pos negative, List.cons_append, parseNumber]
    simp only [whole, scanFraction_of_follows h, scanPower_of_follows h, numeral_toDigits short]
    have value : -(n.natAbs : Int) = n := by omega
    show Except.ok (Number.int (-(n.natAbs : Int)), rest) = _
    rw [value]
  · have noSign : ∀ tail, Nat.toDigits 10 n.natAbs ++ rest ≠ '-' :: tail := by
      intro tail starts
      obtain ⟨d, ds, digits, digit⟩ := exists_toDigits_cons n.natAbs
      rw [digits] at starts
      rw [(List.cons.inj starts).1] at digit
      exact absurd digit (by decide)
    rw [Decimal.wholeChars, if_neg negative, parseNumber]
    · simp only [whole, scanFraction_of_follows h, scanPower_of_follows h, numeral_toDigits short]
      have value : (n.natAbs : Int) = n := by omega
      show Except.ok (Number.int n.natAbs, rest) = _
      rw [value]
    · exact noSign

/-- No word begins with a digit, or with a hyphen and a digit. -/
theorem no_word_of_digit {d : Char} (digit : d.isDigit = true) (cs : List Char) :
    (wordValues.findSome? fun entry => (afterWord? entry.1 (d :: cs)).map (entry.2, ·)) = none ∧
      (wordValues.findSome? fun entry => (afterWord? entry.1 ('-' :: d :: cs)).map (entry.2, ·)) = none := by
  refine ascii_digit (P := fun d =>
    (wordValues.findSome? fun entry => (afterWord? entry.1 (d :: cs)).map (entry.2, ·)) = none ∧
      (wordValues.findSome? fun entry => (afterWord? entry.1 ('-' :: d :: cs)).map (entry.2, ·)) = none) ?_ digit
  intro k small
  interval_cases k <;> exact ⟨rfl, rfl⟩

/-- **A written number is a value.** -/
theorem parseScalar_numberText {number : Number} (writable : number.Writable) {rest : List Char}
    (h : follows rest = true) : parseScalar (numberText number ++ rest) = .ok (.num number, rest) := by
  cases number with
  | float x => exact writable.elim
  | int n =>
      have noWord : (wordValues.findSome? fun entry =>
          (afterWord? entry.1 (Decimal.wholeChars n ++ rest)).map (entry.2, ·)) = none := by
        obtain ⟨d, ds, digits, digit⟩ := exists_toDigits_cons n.natAbs
        rw [Decimal.wholeChars, digits]
        split
        · exact (no_word_of_digit digit (ds ++ rest)).2
        · exact (no_word_of_digit digit (ds ++ rest)).1
      rw [numberText, parseScalar, noWord, parseNumber_wholeChars writable h]
      rfl

end SlidePress.Json
