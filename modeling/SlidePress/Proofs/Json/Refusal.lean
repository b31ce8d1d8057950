import SlidePress.Proofs.Json.RoundTrip
import Mathlib.Data.List.Infix
import Mathlib.Data.List.TakeWhile

/-!
# `SlidePress.Proofs.Json.Refusal` — texts that are refused for a number or for their brackets

A text is no JSON value for one of three reasons: it breaks the grammar, a whole number in it has too many digits, or
its brackets are nested too deeply. The last two are about the text and not about the reader. The digits stand in the
text, next to each other, and there are as many of them as the reader says (`parse_numeralTooLong`); and more brackets
open in the text than there is room for (`parse_nestedTooDeeply`). So a text without a run of more than `Text.maxDigits`
digits and with few brackets is a value or malformed.

A reader works on what stands behind the last thing read, so what it finds in there has to be found in the whole text.
`Consumes` says it all at once — what is left is the end of the text, a number that is too long stands in it, and so do
the brackets — and one lemma carries it from step to step (`Consumes.bind`). The readers of values, items and members
call each other with one unit of fuel less, and with less room inside brackets; there is one step lemma for each of the
three, and the induction is on the fuel.
-/

namespace SlidePress

namespace Json

open Text (HasDigitRun maxDigits)

/-! ## What a reader leaves and refuses -/

/-- The brackets that open. -/
def isOpening (c : Char) : Bool := c = '[' || c = '\x7b'

/-- How many brackets open in a text, wherever they stand. -/
def openings (cs : List Char) : Nat := cs.countP isOpening

theorem openings_cons {c : Char} (opens : isOpening c = true) (rest : List Char) :
    openings (c :: rest) = openings rest + 1 :=
  List.countP_cons_of_pos opens

theorem openings_le_of_suffix {cs rest : List Char} (h : rest <:+ cs) : openings rest ≤ openings cs :=
  h.sublist.countP_le

/-- **A reader consumes its text**: what it leaves is the end of the text, a number that is too long for it has its
digits there, and where there is no room for brackets more of them open there than there is room for. -/
structure Consumes {α : Type} (room : Nat) (cs : List Char) (result : Except ParseError (α × List Char)) : Prop where
  suffix : ∀ value rest, result = .ok (value, rest) → rest <:+ cs
  refused : ∀ numeral, result = .error (.numeralTooLong numeral) →
    maxDigits < numeral.digits ∧ HasDigitRun numeral.digits cs
  nested : ∀ container, result = .error (.nestedTooDeeply container) → room < openings cs

namespace Consumes

variable {α β : Type} {room : Nat} {cs rest : List Char} {result : Except ParseError (α × List Char)}

theorem malformed : Consumes (α := α) room cs (.error .malformed) where
  suffix := by
    intro value rest same
    cases same
  refused := by
    intro numeral same
    cases same
  nested := by
    intro container same
    cases same

theorem done (value : α) (h : rest <:+ cs) : Consumes room cs (.ok (value, rest)) where
  suffix := by
    intro value' rest' same
    rw [← (Prod.mk.inj (Except.ok.inj same)).2]
    exact h
  refused := by
    intro numeral same
    cases same
  nested := by
    intro container same
    cases same

/-- A number that is too long, with its digits in the text. -/
theorem tooLong {count : Nat} (long : maxDigits < count) (run : HasDigitRun count cs) :
    Consumes (α := α) room cs (.error (.numeralTooLong ⟨count⟩)) where
  suffix := by
    intro value rest same
    cases same
  refused := by
    intro numeral same
    rw [← ParseError.numeralTooLong.inj (Except.error.inj same)]
    exact ⟨long, run⟩
  nested := by
    intro container same
    cases same

theorem tooDeep {c : Char} (container : Container) (opens : isOpening c = true) :
    Consumes (α := α) 0 (c :: rest) (.error (.nestedTooDeeply container)) where
  suffix := by
    intro value left same
    cases same
  refused := by
    intro numeral same
    cases same
  nested := by
    intro _ _
    rw [openings_cons opens]
    exact Nat.succ_pos _

/-- **What is read from the end of a text** is read from the text. -/
theorem behind (h : rest <:+ cs) (read : Consumes room rest result) : Consumes room cs result where
  suffix := fun value left same => (read.suffix value left same).trans h
  refused := fun numeral same => (read.refused numeral same).imp_right fun run => run.mono h.isInfix
  nested := fun container same => Nat.lt_of_lt_of_le (read.nested container same) (openings_le_of_suffix h)

/-- **One reader after the other.** -/
theorem bind {next : α × List Char → Except ParseError (β × List Char)} (read : Consumes room cs result)
    (later : ∀ value rest, result = .ok (value, rest) → Consumes room rest (next (value, rest))) :
    Consumes room cs (result.bind next) := by
  cases result with
  | error refused =>
      -- the second reader has nothing to read, and the refusal is that of the first one
      refine ⟨?_, ?_, ?_⟩
      · intro value rest same
        cases same
      · intro numeral same
        exact read.refused numeral (congrArg Except.error (Except.error.inj same))
      · intro container same
        exact read.nested container (congrArg Except.error (Except.error.inj same))
  | ok out =>
      obtain ⟨value, rest⟩ := out
      exact (later value rest rfl).behind (read.suffix value rest rfl)

theorem map (read : Consumes room cs result) (f : α → β) :
    Consumes room cs (result.map fun out => (f out.1, out.2)) := by
  have same : (result.map fun out => (f out.1, out.2)) = result.bind fun out => .ok (f out.1, out.2) := by
    cases result <;> rfl
  rw [same]
  exact read.bind fun value rest _ => done (f value) (List.suffix_refl rest)

/-- **What stands in brackets** is read with one unit of room less than there is before them. -/
theorem inside {c : Char} {container : Container} {read : Nat → Except ParseError (α × List Char)}
    (opens : isOpening c = true) (reads : ∀ room, Consumes room rest (read room)) :
    Consumes room (c :: rest) (inside container room read) := by
  cases room with
  | zero => exact tooDeep container opens
  | succ room =>
      have read_ := reads room
      refine ⟨fun value left same => ?_, fun numeral same => ?_, fun container same => ?_⟩
      · exact (read_.suffix value left same).trans (List.suffix_cons c rest)
      · exact (read_.refused numeral same).imp_right fun run => run.mono (List.suffix_cons c rest).isInfix
      · rw [openings_cons opens]
        exact Nat.succ_lt_succ (read_.nested container same)

end Consumes

/-! ## What the scanners leave -/

theorem skipSpace_suffix (cs : List Char) : skipSpace cs <:+ cs := List.dropWhile_suffix isSpace

theorem suffix_of_skipSpace {c : Char} {cs rest : List Char} (h : skipSpace cs = c :: rest) : rest <:+ cs :=
  (List.suffix_cons c rest).trans (h ▸ skipSpace_suffix cs)

theorem suffix_of_scanString {cs rest : List Char} {units : List Nat} (h : scanString cs = some (units, rest)) :
    rest <:+ cs := by
  induction cs using scanString.induct generalizing units with
  | case1 => cases h
  | case2 tail =>
      cases h
      exact List.suffix_cons '"' rest
  | case3 a b c d tail ih =>
      obtain ⟨unit, -, h⟩ := Option.bind_eq_some_iff.mp h
      obtain ⟨⟨later, left⟩, read, h⟩ := Option.bind_eq_some_iff.mp h
      cases h
      exact (ih read).trans (List.suffix_append ['\\', 'u', a, b, c, d] tail)
  | case4 e tail noUnit ih =>
      rw [scanString] at h
      · obtain ⟨c, -, h⟩ := Option.bind_eq_some_iff.mp h
        obtain ⟨⟨later, left⟩, read, h⟩ := Option.bind_eq_some_iff.mp h
        cases h
        exact (ih read).trans (List.suffix_append ['\\', e] tail)
      · exact noUnit
  | case5 c tail noQuote noUnit noEscape control ih =>
      rw [scanString, if_pos control] at h
      · cases h
      · exact noQuote
      · exact noUnit
      · exact noEscape
  | case6 c tail noQuote noUnit noEscape shown ih =>
      rw [scanString, if_neg shown] at h
      · obtain ⟨⟨later, left⟩, read, h⟩ := Option.bind_eq_some_iff.mp h
        cases h
        exact (ih read).trans (List.suffix_cons c tail)
      · exact noQuote
      · exact noUnit
      · exact noEscape

/-- **The whole part of a number** is digits at the front of a text, with the rest of the text behind it. -/
theorem append_of_scanWhole {cs run rest : List Char} (h : scanWhole cs = some (run, rest)) :
    cs = run ++ rest ∧ ∀ c ∈ run, c.isDigit = true := by
  rw [scanWhole.eq_def] at h
  split at h
  · next tail =>
    cases h
    exact ⟨rfl, List.forall_mem_singleton.mpr rfl⟩
  · next cs _ =>
    dsimp only at h
    split at h
    · cases h
    · cases h
      exact ⟨List.takeWhile_append_dropWhile.symm, fun c mem => List.mem_takeWhile_imp mem⟩

theorem scanFraction_suffix (cs : List Char) : (scanFraction cs).2 <:+ cs := by
  rw [scanFraction.eq_def]
  split
  · next rest =>
    show (if (rest.takeWhile Char.isDigit).isEmpty then (none, '.' :: rest)
      else (some (rest.takeWhile Char.isDigit), rest.dropWhile Char.isDigit)).2 <:+ '.' :: rest
    split
    · exact List.suffix_refl ('.' :: rest)
    · exact (List.dropWhile_suffix Char.isDigit).trans (List.suffix_cons '.' rest)
  · exact List.suffix_refl cs

theorem scanSign_suffix (cs : List Char) : (Decimal.scanSign cs).2 <:+ cs := by
  rw [Decimal.scanSign.eq_def]
  split
  · exact List.suffix_cons '-' _
  · exact List.suffix_cons '+' _
  · exact List.suffix_refl cs

theorem scanPower_suffix (cs : List Char) : (Decimal.scanPower cs).2 <:+ cs := by
  cases cs with
  | nil => exact List.suffix_refl []
  | cons c rest =>
      rw [Decimal.scanPower]
      split
      · dsimp only
        split
        · exact List.suffix_refl (c :: rest)
        · exact (List.dropWhile_suffix Char.isDigit).trans
            ((scanSign_suffix rest).trans (List.suffix_cons c rest))
      · exact List.suffix_refl (c :: rest)

/-! ## Numbers, words, texts -/

/-- **A number** is refused where its whole part is too long. -/
theorem parseNumber_consumes (room : Nat) (cs : List Char) : Consumes room cs (parseNumber cs) := by
  rw [parseNumber.eq_def]
  split
  next _ negative body sign =>
  -- what stands behind the sign is still at the end of the text
  have inside : body <:+ cs := by
    split at sign
    · cases sign
      exact List.suffix_cons '-' _
    · cases sign
      exact List.suffix_refl cs
  split
  · exact .malformed
  · next whole rest scanned =>
    obtain ⟨rfl, digits⟩ := append_of_scanWhole scanned
    have behind : (Decimal.scanPower (scanFraction rest).2).2 <:+ cs :=
      (scanPower_suffix _).trans ((scanFraction_suffix rest).trans ((List.suffix_append whole rest).trans inside))
    dsimp only
    split
    · split
      · exact .done _ behind
      · next long refused =>
        obtain ⟨tooLong, rfl⟩ := Text.numeral_eq_error_iff.mp refused
        have found : whole <:+: cs := (List.prefix_append whole rest).isInfix.trans inside.isInfix
        exact .tooLong tooLong ⟨whole, found, digits, rfl⟩
    · exact .done _ behind

theorem suffix_of_afterWord {word : String} {cs rest : List Char} (h : afterWord? word cs = some rest) : rest <:+ cs := by
  rw [afterWord?] at h
  split at h
  · cases h
    exact List.drop_suffix _ cs
  · cases h

/-- **A word or a number.** -/
theorem parseScalar_consumes (room : Nat) (cs : List Char) : Consumes room cs (parseScalar cs) := by
  rw [parseScalar]
  split
  · next found word =>
    obtain ⟨entry, -, read⟩ := List.exists_of_findSome?_eq_some word
    obtain ⟨rest, after, rfl⟩ := Option.map_eq_some_iff.mp read
    exact .done entry.2 (suffix_of_afterWord after)
  · exact (parseNumber_consumes room cs).map Json.num

/-- **A text** up to its closing quote: it is refused neither for a number nor for brackets. -/
theorem parseString_consumes (room : Nat) (cs : List Char) : Consumes room cs (parseString cs) := by
  rw [parseString]
  split
  · next units rest scanned => exact .done _ (suffix_of_scanString scanned)
  · exact .malformed

/-! ## Values -/

section

variable {room fuel : Nat} (cs : List Char)

/-- **One value**, where its items and members are read as they should be, with any room. -/
theorem parseValue_step (items : ∀ room cs, Consumes room cs (parseItems room fuel cs))
    (members : ∀ room seen cs, Consumes room cs (parseMembers room fuel seen cs)) :
    Consumes room cs (parseValue room (fuel + 1) cs) := by
  rw [parseValue.eq_def]
  dsimp only
  split
  · next rest => exact ((parseString_consumes room rest).map Json.str).behind (List.suffix_cons _ rest)
  · next rest =>
    refine .inside rfl fun room => ?_
    split
    · next left closes => exact .done _ (suffix_of_skipSpace closes)
    · exact ((items room (skipSpace rest)).map Json.arr).behind (skipSpace_suffix rest)
  · next rest =>
    refine .inside rfl fun room => ?_
    split
    · next left closes => exact .done _ (suffix_of_skipSpace closes)
    · exact ((members room [] (skipSpace rest)).map Json.obj).behind (skipSpace_suffix rest)
  · exact parseScalar_consumes room cs

/-- **Items**, where values and further items are read as they should be. -/
theorem parseItems_step (values : ∀ cs, Consumes room cs (parseValue room fuel cs))
    (items : ∀ cs, Consumes room cs (parseItems room fuel cs)) : Consumes room cs (parseItems room (fuel + 1) cs) := by
  rw [parseItems]
  refine (values cs).bind fun item rest _ => ?_
  dsimp only
  split
  · next left closes => exact .done _ (suffix_of_skipSpace closes)
  · next left comma =>
    exact ((items (skipSpace left)).map (item :: ·)).behind ((skipSpace_suffix left).trans (suffix_of_skipSpace comma))
  · exact .malformed

/-- **Members**, where values and further members are read as they should be. -/
theorem parseMembers_step (values : ∀ cs, Consumes room cs (parseValue room fuel cs))
    (members : ∀ seen cs, Consumes room cs (parseMembers room fuel seen cs)) (seen : Members) :
    Consumes room cs (parseMembers room (fuel + 1) seen cs) := by
  rw [parseMembers.eq_def]
  dsimp only
  split
  · next rest =>
    refine Consumes.behind (List.suffix_cons _ rest) ((parseString_consumes room rest).bind fun key behindKey _ => ?_)
    dsimp only
    split
    · next afterColon colon =>
      refine Consumes.behind ((skipSpace_suffix afterColon).trans (suffix_of_skipSpace colon))
        ((values (skipSpace afterColon)).bind fun value behindValue _ => ?_)
      dsimp only
      split
      · next left closes => exact .done _ (suffix_of_skipSpace closes)
      · next left comma =>
        exact (members _ (skipSpace left)).behind ((skipSpace_suffix left).trans (suffix_of_skipSpace comma))
      · exact .malformed
    · exact .malformed
  · exact .malformed

end

/-- **Reading with any fuel and any room** leaves the end of the text, and refuses a number or brackets only where they
stand. -/
theorem reading_consumes (fuel : Nat) :
    (∀ room cs, Consumes room cs (parseValue room fuel cs)) ∧ (∀ room cs, Consumes room cs (parseItems room fuel cs)) ∧
      ∀ room seen cs, Consumes room cs (parseMembers room fuel seen cs) := by
  induction fuel with
  | zero =>
      refine ⟨?_, ?_, ?_⟩
      · intro room cs
        rw [parseValue]
        exact .malformed
      · intro room cs
        rw [parseItems]
        exact .malformed
      · intro room seen cs
        rw [parseMembers]
        exact .malformed
  | succ fuel ih =>
      obtain ⟨values, items, members⟩ := ih
      refine ⟨?_, ?_, ?_⟩
      · intro room cs
        exact parseValue_step cs items members
      · intro room cs
        exact parseItems_step cs (values room) (items room)
      · intro room seen cs
        exact parseMembers_step cs (values room) (members room) seen

/-! ## Whole texts -/

section

variable {text : String} {room : Nat}

/-- What a whole text is refused for, other than its grammar, is what the value at its front is refused for. -/
theorem parseValue_of_parse {cause : ParseError} (notGrammar : cause ≠ .malformed) (h : parse text room = .error cause) :
    parseValue room (2 * text.toList.length + 1) (skipSpace text.toList) = .error cause := by
  rw [parse] at h
  cases outcome : parseValue room (2 * text.toList.length + 1) (skipSpace text.toList) with
  | error refused =>
      rw [outcome] at h
      exact congrArg Except.error (Except.error.inj h)
  | ok out =>
      -- a value was read, so what is wrong is what stands behind it
      rw [outcome] at h
      obtain ⟨value, rest⟩ := out
      change (if (skipSpace rest).isEmpty then Except.ok value else .error ParseError.malformed) = _ at h
      split at h
      · cases h
      · exact absurd (Except.error.inj h).symm notGrammar

/-- A whole text is read from its first character on that is no white space. -/
theorem text_consumes (text : String) (room : Nat) :
    Consumes room text.toList (parseValue room (2 * text.toList.length + 1) (skipSpace text.toList)) :=
  ((reading_consumes _).1 room (skipSpace text.toList)).behind (skipSpace_suffix text.toList)

/-- **A text that is refused for a number** has the digits of that number in it, more than a number may have. -/
theorem parse_numeralTooLong {numeral : Text.NumeralTooLong} (h : parse text room = .error (.numeralTooLong numeral)) :
    maxDigits < numeral.digits ∧ HasDigitRun numeral.digits text.toList :=
  (text_consumes text room).refused numeral (parseValue_of_parse (by simp) h)

/-- **A text that is refused for its brackets** has more of them than there is room for. -/
theorem parse_nestedTooDeeply {container : Container} (h : parse text room = .error (.nestedTooDeeply container)) :
    room < openings text.toList :=
  (text_consumes text room).nested container (parseValue_of_parse (by simp) h)

end

theorem skipSpace_brackets (count : Nat) : skipSpace (List.replicate (count + 1) '[') = List.replicate (count + 1) '[' := by
  rw [List.replicate_succ, skipSpace, List.dropWhile_cons_of_neg (by decide)]

/-- Brackets that open next to each other, more of them than there is room for. -/
theorem parseValue_brackets {room count fuel : Nat} (tooMany : room < count) (enough : 2 * count ≤ fuel) :
    parseValue room fuel (List.replicate count '[') = .error (.nestedTooDeeply .array) := by
  induction room generalizing count fuel with
  | zero =>
      obtain ⟨count, rfl⟩ : ∃ k, count = k + 1 := ⟨count - 1, by omega⟩
      obtain ⟨fuel, rfl⟩ : ∃ k, fuel = k + 1 := ⟨fuel - 1, by omega⟩
      rw [List.replicate_succ, parseValue]
      rfl
  | succ room ih =>
      obtain ⟨count, rfl⟩ : ∃ k, count = k + 2 := ⟨count - 2, by omega⟩
      obtain ⟨fuel, rfl⟩ : ∃ k, fuel = k + 2 := ⟨fuel - 2, by omega⟩
      have refused := @ih (count + 1) fuel (by omega) (by omega)
      have notClosed : ∀ tail, List.replicate (count + 1) '[' ≠ ']' :: tail := by
        intro tail same
        exact absurd (List.cons.inj same).1 (by decide)
      rw [show count + 2 = (count + 1) + 1 from rfl, List.replicate_succ, parseValue_items (skipSpace_brackets count) notClosed,
        parseItems, refused]
      rfl

/-- **A text of nothing but brackets that open**, more of them than there is room for, is refused for them. -/
theorem parse_brackets {room count : Nat} (tooMany : room < count) :
    parse (String.ofList (List.replicate count '[')) room = .error (.nestedTooDeeply .array) := by
  have start : skipSpace (List.replicate count '[') = List.replicate count '[' := by
    obtain ⟨count, rfl⟩ : ∃ k, count = k + 1 := ⟨count - 1, by omega⟩
    exact skipSpace_brackets count
  have enough : 2 * count ≤ 2 * (List.replicate count '[').length + 1 := by
    rw [List.length_replicate]
    omega
  have refused := parseValue_brackets tooMany enough
  rw [parse, String.toList_ofList]
  simp only [start, refused]
  rfl

/-- **A text that is one number of too many digits** is refused for it. -/
theorem parse_longNumeral {d : Char} {ds : List Char} (all : ∀ c ∈ d :: ds, c.isDigit = true) (first : d ≠ '0')
    (tooLong : maxDigits < (d :: ds).length) (room : Nat) :
    parse (String.ofList (d :: ds)) room = .error (.numeralTooLong ⟨(d :: ds).length⟩) := by
  have digit : d.isDigit = true := all d List.mem_cons_self
  obtain ⟨notSpace, starts⟩ : isSpace d = false ∧ d ∉ [']', '"', '[', '\x7b'] :=
    Text.ascii_digit (P := fun c => isSpace c = false ∧ c ∉ [']', '"', '[', '\x7b']) (by decide) digit
  have start : skipSpace (d :: ds) = d :: ds := skipSpace_append (fun c mem => absurd mem List.not_mem_nil) notSpace ds
  have whole : scanWhole (d :: ds) = some (d :: ds, []) := by
    rw [scanWhole]
    · simp only [List.takeWhile_eq_self_iff.mpr all, List.dropWhile_eq_nil_iff.mpr all]
      rfl
    · exact fun tail zero => first (List.cons.inj zero).1
  have refused : Text.numeral (d :: ds) = .error ⟨(d :: ds).length⟩ := Text.numeral_eq_error_iff.mpr ⟨tooLong, rfl⟩
  have number : parseNumber (d :: ds) = .error (.numeralTooLong ⟨(d :: ds).length⟩) := by
    rw [parseNumber]
    · simp only [whole, scanFraction, Decimal.scanPower, refused]
      rfl
    · rintro tail minus
      rw [(List.cons.inj minus).1] at digit
      exact absurd digit (by decide)
  rw [parse, String.toList_ofList, start, parseValue_scalar starts, parseScalar, (no_word_of_digit digit ds).1, number]
  rfl

end Json

end SlidePress
