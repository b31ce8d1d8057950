import SlidePress.Config.Load
import SlidePress.Proofs.Json.Refusal
import SlidePress.Proofs.Outcome

/-!
# `SlidePress.Proofs.Config.Loading` — what loading a configuration ends in

Loading a configuration is meant to end in one of two ways: with the configuration, or with a configuration error that
says what is wrong with the file. It does for a file that is missing, for a text that is no JSON, for a value that is no
object and for settings that are not acceptable. Four things end it in another way. The bytes are decoded before
anything looks for JSON in them, and they may be no UTF-8. The digits and the brackets are counted while JSON is read,
and a text may have a whole number of more than `Text.maxDigits` digits, or brackets that there is no room for. And no
file can be looked for under a path with a null character.

`load_ends` says exactly when it is one and when the other, whatever the room for nesting is. A file is `Legible` if
there is JSON to look for in it, and loading ends as documented from a legible file and from no other. What makes a text
illegible is in the text: a run of digits that is too long (`Json.parse_numeralTooLong`), or more brackets than there is
room for (`Json.parse_nestedTooDeeply`). So a text without either is legible (`legible_of_short`).
-/

namespace SlidePress

/-- A text is decoded from its own bytes, and from no others. -/
theorem fromUTF8?_eq_some_iff {bytes : ByteArray} {text : String} :
    String.fromUTF8? bytes = some text ↔ text.toUTF8 = bytes := by
  rw [String.fromUTF8?]
  split
  · constructor
    · intro same
      rw [← Option.some.inj same]
      rfl
    · rintro rfl
      rfl
  · next invalid =>
    constructor
    · intro same
      cases same
    · rintro rfl
      exact absurd text.isValidUTF8 invalid

/-- Bytes are not decoded where they are those of no text. -/
theorem fromUTF8?_eq_none_iff {bytes : ByteArray} :
    String.fromUTF8? bytes = none ↔ ∀ text : String, text.toUTF8 ≠ bytes := by
  rw [Option.eq_none_iff_forall_ne_some]
  exact forall_congr' fun text => not_congr fromUTF8?_eq_some_iff

namespace Config

/-- The text of a file: every kind of newline is a line feed. -/
def fileText (text : String) : String := String.ofList (Text.normalizeNewlines text.toList)

/-- **Loading ends as documented**: with a configuration, or with a configuration error. -/
def Documented (outcome : Except LoadError Config) : Prop :=
  (∃ config, outcome = .ok config) ∨ ∃ cause, outcome = .error (.config cause)

/-- A text is refused by the reader for a number or for its brackets, and not for its grammar. -/
def Refused (text : String) (room : Nat) : Prop :=
  (∃ numeral, Json.parse text room = .error (.numeralTooLong numeral)) ∨
    ∃ container, Json.parse text room = .error (.nestedTooDeeply container)

/-- **JSON can be looked for in a file** that has a path: its bytes, if it is there, are those of a text, and the text is
refused neither for a whole number with too many digits nor for its brackets. A file that is not there could be. -/
def Legible (path : String) (bytes? : Option ByteArray) (room : Nat) : Prop :=
  match bytes? with
  | none => '\x00' ∉ path.toList
  | some bytes => ∃ text : String, text.toUTF8 = bytes ∧ ¬ Refused (fileText text) room

variable (path : String) {room : Nat}

/-- A missing file is legible, unless its path is that of no file. -/
theorem legible_none_iff : Legible path none room ↔ '\x00' ∉ path.toList := Iff.rfl

/-- Bytes of a text are legible unless the text is refused. -/
theorem legible_toUTF8_iff {text : String} : Legible path (some text.toUTF8) room ↔ ¬ Refused (fileText text) room := by
  constructor
  · rintro ⟨other, same, accepted⟩
    rwa [String.toByteArray_inj.mp same] at accepted
  · intro accepted
    exact ⟨text, rfl, accepted⟩

theorem not_legible_of_foreign {bytes : ByteArray} (foreign : ∀ text : String, text.toUTF8 ≠ bytes) :
    ¬ Legible path (some bytes) room := by
  rintro ⟨text, same, -⟩
  exact foreign text same

/-- A text without carriage returns is the text of its file. -/
theorem fileText_of_notMem {text : String} (h : '\r' ∉ text.toList) : fileText text = text := by
  have plain : ∀ cs : List Char, '\r' ∉ cs → Text.normalizeNewlines cs = cs := by
    intro cs absent
    induction cs using Text.normalizeNewlines.induct with
    | case1 => rfl
    | case2 rest _ => exact absurd List.mem_cons_self absent
    | case3 c rest single ih =>
        rw [List.mem_cons, not_or] at absent
        rw [Text.normalizeNewlines.eq_3 c rest single, if_neg (Ne.symm absent.1), ih absent.2]
  rw [fileText, plain text.toList h, String.ofList_toList]

/-! ## From a file to its ending -/

theorem load_toUTF8 (text : String) : load path (some text.toUTF8) room = ofText path (fileText text) room := by
  rw [load, fromUTF8?_eq_some_iff.mpr rfl]
  rfl

theorem load_foreign {bytes : ByteArray} (foreign : ∀ text : String, text.toUTF8 ≠ bytes) :
    load path (some bytes) room = .error .notUtf8 := by
  rw [load, fromUTF8?_eq_none_iff.mpr foreign]

theorem load_none (plain : '\x00' ∉ path.toList) : load path none room = .error (.config (.unreadable path)) := by
  have absent : path.toList.contains '\x00' = false := by simpa using plain
  simp only [load, absent]
  rfl

/-- No file is looked for under a path with a null character. -/
theorem load_none_of_null (null : '\x00' ∈ path.toList) : load path none room = .error .nullInPath := by
  simp only [load, List.contains_iff_mem.mpr null]
  rfl

/-- A text that is refused for a number is refused with that number. -/
theorem ofText_tooLong {text : String} {numeral : Text.NumeralTooLong}
    (refused : Json.parse text room = .error (.numeralTooLong numeral)) :
    ofText path text room = .error (.numeralTooLong numeral) := by
  rw [ofText, refused]

/-- A text that is refused for brackets is refused with them. -/
theorem ofText_tooDeep {text : String} {container : Json.Container}
    (refused : Json.parse text room = .error (.nestedTooDeeply container)) :
    ofText path text room = .error (.nestedTooDeeply container) := by
  rw [ofText, refused]

theorem not_documented {failure : LoadError} (other : ∀ cause, failure ≠ .config cause) : ¬ Documented (.error failure) := by
  rintro (⟨config, same⟩ | ⟨cause, same⟩)
  · cases same
  · exact other cause (Except.error.inj same)

/-- **A text** ends as documented unless it is refused for a number or for its brackets. -/
theorem ofText_documented_iff (text : String) : Documented (ofText path text room) ↔ ¬ Refused text room := by
  constructor
  · rintro documented (⟨numeral, refused⟩ | ⟨container, refused⟩)
    · rw [ofText_tooLong path refused] at documented
      exact not_documented (by simp) documented
    · rw [ofText_tooDeep path refused] at documented
      exact not_documented (by simp) documented
  · intro accepted
    rw [ofText]
    split
    · exact .inr ⟨_, rfl⟩
    · next numeral refused => exact absurd (.inl ⟨numeral, refused⟩) accepted
    · next container refused => exact absurd (.inr ⟨container, refused⟩) accepted
    · next members _ =>
      cases outcome : ofMembers members with
      | ok config => exact .inl ⟨config, rfl⟩
      | error cause => exact .inr ⟨.invalid cause, rfl⟩
    · exact .inr ⟨_, rfl⟩

/-- **A file** ends as documented where it is legible. -/
theorem load_documented_iff (bytes? : Option ByteArray) :
    Documented (load path bytes? room) ↔ Legible path bytes? room := by
  cases bytes? with
  | none =>
      rw [legible_none_iff]
      by_cases null : '\x00' ∈ path.toList
      · rw [load_none_of_null path null]
        exact iff_of_false (not_documented (by simp)) (not_not_intro null)
      · rw [load_none path null]
        exact iff_of_true (.inr ⟨.unreadable path, rfl⟩) null
  | some bytes =>
      by_cases encodes : ∃ text : String, text.toUTF8 = bytes
      · obtain ⟨text, rfl⟩ := encodes
        rw [load_toUTF8, legible_toUTF8_iff]
        exact ofText_documented_iff path (fileText text)
      · have foreign := not_exists.mp encodes
        rw [load_foreign path foreign]
        exact iff_of_false (not_documented (by simp)) (not_legible_of_foreign path foreign)

/-- **A configuration is loaded** where the file holds an object whose settings are acceptable. -/
theorem load_eq_ok_iff {bytes? : Option ByteArray} {config : Config} :
    load path bytes? room = .ok config ↔
      ∃ (text : String) (members : Members), bytes? = some text.toUTF8 ∧
        Json.parse (fileText text) room = .ok (.obj members) ∧ ofMembers members = .ok config := by
  constructor
  · intro loaded
    rcases bytes? with _ | bytes
    · unfold load at loaded
      dsimp only at loaded
      split at loaded <;> cases loaded
    by_cases encodes : ∃ text : String, text.toUTF8 = bytes
    · obtain ⟨text, rfl⟩ := encodes
      rw [load_toUTF8, ofText] at loaded
      split at loaded
      · cases loaded
      · cases loaded
      · cases loaded
      · next members read => exact ⟨text, members, rfl, read, mapError_eq_ok_iff.mp loaded⟩
      · cases loaded
    · rw [load_foreign path (not_exists.mp encodes)] at loaded
      cases loaded
  · rintro ⟨text, members, rfl, read, accepted⟩
    rw [load_toUTF8, ofText, read]
    exact mapError_eq_ok_iff.mpr accepted

/-! ## Files that are not legible -/

/-- The brackets that open in the text of a file are those that open in the file. -/
theorem openings_normalizeNewlines (cs : List Char) : Json.openings (Text.normalizeNewlines cs) = Json.openings cs := by
  induction cs using Text.normalizeNewlines.induct with
  | case1 => rfl
  | case2 rest ih =>
      rw [Text.normalizeNewlines]
      exact ih
  | case3 c rest single ih =>
      rw [Text.normalizeNewlines.eq_3 c rest single]
      unfold Json.openings at ih ⊢
      split
      · next isReturn =>
        subst isReturn
        exact ih
      · rw [List.countP_cons, List.countP_cons, ih]

/-- **Why a file is not legible**: its bytes are those of no text, or a whole number in its text has too many digits,
which stand in the file, or more brackets open in the file than there is room for; or there is no file, and cannot be. -/
theorem legible_or (bytes? : Option ByteArray) (room : Nat) :
    Legible path bytes? room ∨
      (∃ bytes, bytes? = some bytes ∧ ∀ text : String, text.toUTF8 ≠ bytes) ∨
      (∃ (text : String) (numeral : Text.NumeralTooLong), bytes? = some text.toUTF8 ∧
        Json.parse (fileText text) room = .error (.numeralTooLong numeral) ∧ Text.maxDigits < numeral.digits ∧
        Text.HasDigitRun numeral.digits text.toList) ∨
      (∃ (text : String) (container : Json.Container), bytes? = some text.toUTF8 ∧
        Json.parse (fileText text) room = .error (.nestedTooDeeply container) ∧ room < Json.openings text.toList) ∨
      bytes? = none ∧ '\x00' ∈ path.toList := by
  cases bytes? with
  | none =>
      by_cases null : '\x00' ∈ path.toList
      · exact .inr (.inr (.inr (.inr ⟨rfl, null⟩)))
      · exact .inl null
  | some bytes =>
      by_cases encodes : ∃ text : String, text.toUTF8 = bytes
      · obtain ⟨text, rfl⟩ := encodes
        by_cases refused : Refused (fileText text) room
        · rcases refused with ⟨numeral, refused⟩ | ⟨container, refused⟩
          · obtain ⟨tooLong, run⟩ := Json.parse_numeralTooLong refused
            rw [fileText, String.toList_ofList] at run
            exact .inr (.inr (.inl ⟨text, numeral, rfl, refused, tooLong, run.of_normalizeNewlines⟩))
          · have tooMany := Json.parse_nestedTooDeeply refused
            rw [fileText, String.toList_ofList, openings_normalizeNewlines] at tooMany
            exact .inr (.inr (.inr (.inl ⟨text, container, rfl, refused, tooMany⟩)))
        · exact .inl ((legible_toUTF8_iff path).mpr refused)
      · exact .inr (.inl ⟨bytes, rfl, not_exists.mp encodes⟩)

/-- **A text without a long run of digits and with few brackets** is legible. -/
theorem legible_of_short {text : String} (short : ∀ count, Text.HasDigitRun count text.toList → count ≤ Text.maxDigits)
    (few : Json.openings text.toList ≤ room) : Legible path (some text.toUTF8) room := by
  rcases legible_or path (some text.toUTF8) room with
    legible | ⟨bytes, same, foreign⟩ | ⟨other, numeral, same, -, tooLong, run⟩ | ⟨other, container, same, -, tooMany⟩ |
      ⟨same, -⟩
  · exact legible
  · exact absurd (Option.some.inj same) (foreign text)
  · obtain rfl := String.toByteArray_inj.mp (Option.some.inj same)
    exact absurd (short numeral.digits run) (Nat.not_le_of_lt tooLong)
  · obtain rfl := String.toByteArray_inj.mp (Option.some.inj same)
    exact absurd few (Nat.not_le_of_lt tooMany)
  · cases same

/-! ## Every file -/

/-- **What loading a configuration ends in**, with any room for nesting. It ends as documented, with a configuration or a
configuration error, where the file is legible and nowhere else. From any other file another error escapes: that the
bytes are no UTF-8, which they are not; that a whole number has too many digits, which stand in the file; that brackets
are nested too deeply, and more of them open in the file than there is room for; or that there is a null character in
the path of a file that is missing. -/
theorem load_ends (path : String) (bytes? : Option ByteArray) (room : Nat) :
    (Documented (load path bytes? room) ↔ Legible path bytes? room) ∧
      (Legible path bytes? room ∨
        (load path bytes? room = .error .notUtf8 ∧
          ∃ bytes, bytes? = some bytes ∧ ∀ text : String, text.toUTF8 ≠ bytes) ∨
        (∃ numeral, load path bytes? room = .error (.numeralTooLong numeral) ∧ Text.maxDigits < numeral.digits ∧
          ∃ text : String, bytes? = some text.toUTF8 ∧ Text.HasDigitRun numeral.digits text.toList) ∨
        (∃ container, load path bytes? room = .error (.nestedTooDeeply container) ∧
          ∃ text : String, bytes? = some text.toUTF8 ∧ room < Json.openings text.toList) ∨
        load path bytes? room = .error .nullInPath ∧ bytes? = none ∧ '\x00' ∈ path.toList) := by
  refine ⟨load_documented_iff path bytes?, ?_⟩
  rcases legible_or path bytes? room with
    legible | ⟨bytes, rfl, foreign⟩ | ⟨text, numeral, rfl, refused, tooLong, run⟩ | ⟨text, container, rfl, refused, tooMany⟩ |
      ⟨rfl, null⟩
  · exact .inl legible
  · exact .inr (.inl ⟨load_foreign path foreign, bytes, rfl, foreign⟩)
  · have ends : load path (some text.toUTF8) room = .error (.numeralTooLong numeral) := by
      rw [load_toUTF8, ofText_tooLong path refused]
    exact .inr (.inr (.inl ⟨numeral, ends, tooLong, text, rfl, run⟩))
  · have ends : load path (some text.toUTF8) room = .error (.nestedTooDeeply container) := by
      rw [load_toUTF8, ofText_tooDeep path refused]
    exact .inr (.inr (.inr (.inl ⟨container, ends, text, rfl, tooMany⟩)))
  · exact .inr (.inr (.inr (.inr ⟨load_none_of_null path null, rfl, null⟩)))

/-- **A file that is one number of too many digits** is refused for them. -/
theorem load_longNumeral {d : Char} {ds : List Char} (all : ∀ c ∈ d :: ds, c.isDigit = true) (first : d ≠ '0')
    (tooLong : Text.maxDigits < (d :: ds).length) :
    load path (some (String.ofList (d :: ds)).toUTF8) room = .error (.numeralTooLong ⟨(d :: ds).length⟩) := by
  have noReturn : '\r' ∉ (String.ofList (d :: ds)).toList := by
    rw [String.toList_ofList]
    intro mem
    exact absurd (all '\r' mem) (by decide)
  rw [load_toUTF8, fileText_of_notMem noReturn]
  exact ofText_tooLong path (Json.parse_longNumeral all first tooLong room)

/-- **A file of nothing but brackets that open**, more of them than there is room for, is refused for them. -/
theorem load_brackets {count : Nat} (tooMany : room < count) :
    load path (some (String.ofList (List.replicate count '[')).toUTF8) room = .error (.nestedTooDeeply .array) := by
  have noReturn : '\r' ∉ (String.ofList (List.replicate count '[')).toList := by
    rw [String.toList_ofList]
    intro mem
    exact absurd (List.eq_of_mem_replicate mem) (by decide)
  rw [load_toUTF8, fileText_of_notMem noReturn]
  exact ofText_tooDeep path (Json.parse_brackets tooMany)

/-- A file that is one byte, and no text, a file that is one number of 4301 digits, and a file of a thousand brackets:
loading them ends in errors that are no configuration errors. -/
theorem load_undocumented :
    load "deck.json" (some ⟨#[0xff]⟩) = .error .notUtf8 ∧
      load "deck.json" (some (String.ofList (List.replicate 4301 '1')).toUTF8) = .error (.numeralTooLong ⟨4301⟩) ∧
      load "deck.json" (some (String.ofList (List.replicate 1000 '[')).toUTF8) = .error (.nestedTooDeeply .array) ∧
      ¬ ∀ (path : String) (bytes? : Option ByteArray), Documented (load path bytes?) := by
  have foreign : load "deck.json" (some ⟨#[0xff]⟩) = .error .notUtf8 := by
    rw [load, show String.fromUTF8? ⟨#[0xff]⟩ = none by decide]
  refine ⟨foreign, ?_, ?_, ?_⟩
  · have ones : ∀ c ∈ '1' :: List.replicate 4300 '1', c.isDigit = true := by
      intro c mem
      rw [← List.replicate_succ] at mem
      rw [List.eq_of_mem_replicate mem]
      rfl
    have length : ('1' :: List.replicate 4300 '1').length = 4301 := by
      rw [List.length_cons, List.length_replicate]
    have ends : load "deck.json" (some (String.ofList ('1' :: List.replicate 4300 '1')).toUTF8) = _ :=
      load_longNumeral "deck.json" ones (by decide) (by rw [length]; decide)
    rw [length] at ends
    rw [List.replicate_succ]
    exact ends
  · exact load_brackets "deck.json" (show Json.usualRoom < 1000 by decide)
  · intro documented
    have ends := documented "deck.json" (some ⟨#[0xff]⟩)
    rw [foreign] at ends
    exact not_documented (by simp) ends

end Config

end SlidePress
