import SlidePress.Proofs.Json.Scalar

/-!
# `SlidePress.Proofs.Json.RoundTrip` — values, written and read

A value that is written in any layout is read back from its text, if there is room for its brackets. The induction is on
the value and the room that it needs (`Readable`), and what it carries is more than the round trip: a value is read back
at every level of nesting and in front of everything that can follow a value (`ReadsBack`), with the length of its text
as fuel. For the values inside brackets one step reads an item or member and the white space around the comma or bracket
behind it, and leads to the next.

White space never gets lost or doubled: a written value begins with a character that is none (`exists_print_cons`), and
what stands between values is a comma and white space (`Layout.between_eq`), or white space and a bracket.

## Contents
- `Members.putAll`, `Members.putAll_of_nodup`: members that are set one after the other.
- `Readable`, `ReadsBack`: the values that are read back, and how.
- `exists_print_cons`, `isSpace_of_mem_edge`, `Layout.between_eq`: where white space stands.
- `parseItems_last`, `parseItems_more`, `parseMembers_last`, `parseMembers_more`: one item, one member.
- `parseItems_print`, `parseMembers_print`: what stands in brackets.
- `Readable.readsBack`, `Readable.roundTrip`: a value, and a whole text.
-/

namespace SlidePress

/-! ## Members -/

/-- The members with several set, one after the other. -/
def Members.putAll (seen members : Members) : Members :=
  members.foldl (fun seen member => seen.put member.1 member.2) seen

theorem Members.put_of_notMem {key : String} (value : Json) {members : Members} (h : key ∉ members.map Prod.fst) :
    members.put key value = members ++ [(key, value)] := by
  induction members with
  | nil => rfl
  | cons member members ih =>
      obtain ⟨k, v⟩ := member
      rw [List.map_cons, List.mem_cons, not_or] at h
      rw [Members.put, if_neg (Ne.symm h.1), ih h.2]
      rfl

/-- **Members with different keys** are all there afterwards, in their order. -/
theorem Members.putAll_of_nodup {seen members : Members} (keys : ((seen ++ members).map Prod.fst).Nodup) :
    seen.putAll members = seen ++ members := by
  induction members generalizing seen with
  | nil => exact (List.append_nil seen).symm
  | cons member members ih =>
      have new : member.1 ∉ seen.map Prod.fst := by
        rw [List.map_append, List.map_cons, List.nodup_append] at keys
        exact fun mem => keys.2.2 member.1 mem member.1 List.mem_cons_self rfl
      have regroup : seen ++ member :: members = (seen ++ [member]) ++ members := by
        rw [List.append_assoc, List.singleton_append]
      rw [putAll, List.foldl_cons, put_of_notMem member.2 new, regroup]
      exact ih (regroup ▸ keys)

end SlidePress

namespace SlidePress.Json

/-! ## Values that are read back -/

/-- **The values that are read back** with some room for nesting: a number is whole and not too long, an object has every
key once, and what stands in brackets needs less room. -/
inductive Readable : Nat → Json → Prop
  | null {room : Nat} : Readable room .null
  | bool {room : Nat} (b : Bool) : Readable room (.bool b)
  | num {room : Nat} {number : Number} (writable : number.Writable) : Readable room (.num number)
  | str {room : Nat} (s : String) : Readable room (.str s)
  | arr {room : Nat} {items : List Json} (all : ∀ item ∈ items, Readable room item) : Readable (room + 1) (.arr items)
  | obj {room : Nat} {members : Members} (keys : (members.map Prod.fst).Nodup)
      (all : ∀ member ∈ members, Readable room member.2) : Readable (room + 1) (.obj members)

/-- A value is read back from its text at every level, in front of what can follow it. Its length is fuel enough. -/
def ReadsBack (layout : Layout) (room : Nat) (value : Json) : Prop :=
  ∀ (level fuel : Nat) (rest : List Char), (print layout level value).length ≤ fuel → follows rest = true →
    parseValue room fuel (print layout level value ++ rest) = .ok (value, rest)

variable {layout : Layout} {room : Nat}

/-! ## White space -/

/-- A written number begins with neither white space nor a quote nor a bracket. -/
theorem exists_numberText_cons {number : Number} (h : number.Writable) :
    ∃ c rest, numberText number = c :: rest ∧ isSpace c = false ∧ c ∉ [']', '"', '[', '\x7b'] := by
  cases number with
  | float x => exact h.elim
  | int n =>
      obtain ⟨d, ds, digits, digit⟩ := Text.exists_toDigits_cons n.natAbs
      rw [numberText, Decimal.wholeChars, digits]
      split
      · exact ⟨'-', _, rfl, by decide⟩
      · exact ⟨d, ds, rfl, Text.ascii_digit (P := fun c => isSpace c = false ∧ c ∉ [']', '"', '[', '\x7b'])
          (by decide) digit⟩

/-- **A written value begins** with neither white space nor a closing bracket. -/
theorem exists_print_cons {value : Json} (h : Readable room value) (layout : Layout) (level : Nat) :
    ∃ c rest, print layout level value = c :: rest ∧ isSpace c = false ∧ c ≠ ']' := by
  cases h with
  | null => exact ⟨'n', _, rfl, by decide⟩
  | bool b => cases b <;> exact ⟨_, _, rfl, by decide⟩
  | num writable =>
      obtain ⟨c, rest, written, notSpace, starts⟩ := exists_numberText_cons writable
      exact ⟨c, rest, written, notSpace, fun closes => starts (closes ▸ List.mem_cons_self)⟩
  | str s => exact ⟨'"', _, rfl, by decide⟩
  | @arr _ items all => cases items <;> exact ⟨'[', _, rfl, by decide⟩
  | @obj _ members keys all =>
      rcases members with _ | ⟨⟨key, value⟩, members⟩ <;> exact ⟨'\x7b', _, rfl, by decide⟩

/-- White space in front of a character that is none is skipped. -/
theorem skipSpace_append {gap : List Char} (blank : ∀ c ∈ gap, isSpace c = true) {c : Char} (h : isSpace c = false)
    (rest : List Char) : skipSpace (gap ++ c :: rest) = c :: rest := by
  rw [skipSpace, List.dropWhile_append_of_pos blank, List.dropWhile_cons_of_neg (by simp [h])]

theorem isSpace_of_mem_blank : ∀ c ∈ [' '], isSpace c = true := List.forall_mem_singleton.mpr rfl

theorem isSpace_of_mem_newLine {width : Nat} : ∀ c ∈ '\n' :: List.replicate width ' ', isSpace c = true := by
  rintro c (_ | ⟨_, mem⟩)
  · rfl
  · rw [List.eq_of_mem_replicate mem]
    rfl

/-- What stands between a bracket and an item is white space. -/
theorem isSpace_of_mem_edge (level : Nat) : ∀ c ∈ layout.edge level, isSpace c = true := by
  cases layout with
  | oneLine => exact fun _ mem => absurd mem List.not_mem_nil
  | lines width => exact isSpace_of_mem_newLine

/-- Between two items stands a comma and then white space. -/
theorem Layout.between_eq (layout : Layout) (level : Nat) :
    ∃ gap, layout.between level = ',' :: gap ∧ ∀ c ∈ gap, isSpace c = true := by
  cases layout with
  | oneLine => exact ⟨[' '], rfl, isSpace_of_mem_blank⟩
  | lines width => exact ⟨_, rfl, isSpace_of_mem_newLine⟩

/-- A written value is where it is after white space is skipped. -/
theorem skipSpace_print {value : Json} (h : Readable room value) (layout : Layout) {gap : List Char}
    (blank : ∀ c ∈ gap, isSpace c = true) (level : Nat) (rest : List Char) :
    skipSpace (gap ++ (print layout level value ++ rest)) = print layout level value ++ rest := by
  obtain ⟨c, tail, written, notSpace, _⟩ := exists_print_cons h layout level
  rw [written]
  exact skipSpace_append blank notSpace (tail ++ rest)

/-- A written key is where it is after white space is skipped. -/
theorem skipSpace_key {gap : List Char} (blank : ∀ c ∈ gap, isSpace c = true) (key : String) (rest : List Char) :
    skipSpace (gap ++ (stringText key ++ rest)) = stringText key ++ rest := by
  rw [stringText_append]
  exact skipSpace_append blank (by decide) _

/-! ## One item, one member -/

section

variable {fuel level : Nat} {cs tail behind rest : List Char} {item value : Json} {members : Members} {key : String}

theorem parseItems_last (read : parseValue room fuel cs = .ok (item, tail)) (closes : skipSpace tail = ']' :: rest) :
    parseItems room (fuel + 1) cs = .ok ([item], rest) := by
  rw [parseItems, read]
  simp only [bind, Except.bind, closes]
  rfl

theorem parseItems_more (read : parseValue room fuel cs = .ok (item, tail)) (comma : skipSpace tail = ',' :: behind) :
    parseItems room (fuel + 1) cs =
      (parseItems room fuel (skipSpace behind)).map fun out => (item :: out.1, out.2) := by
  rw [parseItems, read]
  simp only [bind, Except.bind, comma]
  cases parseItems room fuel (skipSpace behind) <;> rfl

/-- A member in front of the closing bracket is the last. -/
theorem parseMembers_last (readable : Readable room value)
    (read : parseValue room fuel (print layout level value ++ tail) = .ok (value, tail))
    (closes : skipSpace tail = '\x7d' :: rest) :
    parseMembers room (fuel + 1) members (stringText key ++ ([':', ' '] ++ (print layout level value ++ tail))) =
      .ok (members.put key value, rest) := by
  have start := skipSpace_print readable layout isSpace_of_mem_blank level tail
  rw [stringText_append, parseMembers, parseString_escaped]
  show ((parseValue room fuel (skipSpace ([' '] ++ (print layout level value ++ tail)))).bind _) = _
  rw [start, read]
  simp only [Except.bind, closes]
  rfl

theorem parseMembers_more (readable : Readable room value)
    (read : parseValue room fuel (print layout level value ++ tail) = .ok (value, tail))
    (comma : skipSpace tail = ',' :: behind) :
    parseMembers room (fuel + 1) members (stringText key ++ ([':', ' '] ++ (print layout level value ++ tail))) =
      parseMembers room fuel (members.put key value) (skipSpace behind) := by
  have start := skipSpace_print readable layout isSpace_of_mem_blank level tail
  rw [stringText_append, parseMembers, parseString_escaped]
  show ((parseValue room fuel (skipSpace ([' '] ++ (print layout level value ++ tail)))).bind _) = _
  rw [start, read]
  simp only [Except.bind, comma]

end

/-! ## What stands in brackets -/

theorem follows_items (layout : Layout) (level outer : Nat) (items : List Json) (rest : List Char) :
    follows (printItems layout level items ++ (layout.edge outer ++ ']' :: rest)) = true := by
  cases items <;> cases layout <;> rfl

theorem follows_members (layout : Layout) (level outer : Nat) (members : Members) (rest : List Char) :
    follows (printMembers layout level members ++ (layout.edge outer ++ '\x7d' :: rest)) = true := by
  cases members <;> cases layout <;> rfl

theorem printItems_append {level : Nat} {gap : List Char} (comma : layout.between level = ',' :: gap) (item : Json)
    (items : List Json) (rest : List Char) :
    printItems layout level (item :: items) ++ rest =
      ',' :: (gap ++ (print layout level item ++ (printItems layout level items ++ rest))) := by
  rw [printItems, comma]
  simp only [List.cons_append, List.append_assoc]

/-- The next member stands behind a comma and white space. -/
theorem printMembers_append {level : Nat} {gap : List Char} (comma : layout.between level = ',' :: gap) (key : String)
    (value : Json) (members : Members) (rest : List Char) :
    printMembers layout level ((key, value) :: members) ++ rest =
      ',' :: (gap ++ (stringText key ++ ([':', ' '] ++
        (print layout level value ++ (printMembers layout level members ++ rest))))) := by
  rw [printMembers, comma]
  simp only [List.cons_append, List.append_assoc, List.nil_append]

/-- **Written items are read back**, up to the closing bracket. -/
theorem parseItems_print {item : Json} {items : List Json} (readable : ∀ v ∈ items, Readable room v)
    (back : ∀ v ∈ item :: items, ReadsBack layout room v) {level outer fuel : Nat} (rest : List Char)
    (enough : (print layout level item).length + (printItems layout level items).length < fuel) :
    parseItems room fuel (print layout level item ++
      (printItems layout level items ++ (layout.edge outer ++ ']' :: rest))) = .ok (item :: items, rest) := by
  induction items generalizing item fuel with
  | nil =>
      obtain ⟨fuel, rfl⟩ : ∃ k, fuel = k + 1 := ⟨fuel - 1, by omega⟩
      have read := back item List.mem_cons_self level fuel _ (by omega) (follows_items layout level outer [] rest)
      exact parseItems_last read (skipSpace_append (isSpace_of_mem_edge outer) (by decide) rest)
  | cons next items ih =>
      obtain ⟨fuel, rfl⟩ : ∃ k, fuel = k + 1 := ⟨fuel - 1, by omega⟩
      have read := back item List.mem_cons_self level fuel _ (by omega)
        (follows_items layout level outer (next :: items) rest)
      obtain ⟨gap, comma, blank⟩ := layout.between_eq level
      have size := congrArg List.length (printItems_append comma next items [])
      simp only [List.append_nil, List.length_cons, List.length_append] at size
      rw [printItems_append comma] at read ⊢
      rw [parseItems_more read rfl, skipSpace_print (readable next List.mem_cons_self) layout blank]
      rw [ih (fun v mem => readable v (List.mem_cons_of_mem next mem))
        (fun v mem => back v (List.mem_cons_of_mem item mem)) (by omega)]
      rfl

/-- **Written members are read back**, up to the closing bracket: each is set, after the ones already read. -/
theorem parseMembers_print {key : String} {value : Json} {members : Members}
    (readable : ∀ member ∈ (key, value) :: members, Readable room member.2)
    (back : ∀ member ∈ (key, value) :: members, ReadsBack layout room member.2) (seen : Members) {level outer fuel : Nat}
    (rest : List Char)
    (enough : (print layout level value).length + (printMembers layout level members).length < fuel) :
    parseMembers room fuel seen (stringText key ++ ([':', ' '] ++ (print layout level value ++
      (printMembers layout level members ++ (layout.edge outer ++ '\x7d' :: rest))))) =
        .ok (seen.putAll ((key, value) :: members), rest) := by
  induction members generalizing key value seen fuel with
  | nil =>
      obtain ⟨fuel, rfl⟩ : ∃ k, fuel = k + 1 := ⟨fuel - 1, by omega⟩
      have valueBack : ReadsBack layout room value := back (key, value) List.mem_cons_self
      have read := valueBack level fuel _ (by omega) (follows_members layout level outer [] rest)
      exact parseMembers_last (readable (key, value) List.mem_cons_self) read
        (skipSpace_append (isSpace_of_mem_edge outer) (by decide) rest)
  | cons next members ih =>
      obtain ⟨fuel, rfl⟩ : ∃ k, fuel = k + 1 := ⟨fuel - 1, by omega⟩
      have valueBack : ReadsBack layout room value := back (key, value) List.mem_cons_self
      have read := valueBack level fuel _ (by omega) (follows_members layout level outer (next :: members) rest)
      obtain ⟨nextKey, nextValue⟩ := next
      obtain ⟨gap, comma, blank⟩ := layout.between_eq level
      have size := congrArg List.length (printMembers_append comma nextKey nextValue members [])
      simp only [List.append_nil, List.length_cons, List.length_append] at size
      rw [printMembers_append comma] at read ⊢
      rw [parseMembers_more (readable (key, value) List.mem_cons_self) read rfl, skipSpace_key blank]
      exact ih (fun member mem => readable member (List.mem_cons_of_mem _ mem))
        (fun member mem => back member (List.mem_cons_of_mem _ mem)) _ (by omega)

/-! ## Values -/

section

variable {fuel : Nat} {c : Char} {cs body tail : List Char}

/-- What begins with neither a quote nor an opening bracket is a word or a number. -/
theorem parseValue_scalar (starts : c ∉ [']', '"', '[', '\x7b']) :
    parseValue room (fuel + 1) (c :: tail) = parseScalar (c :: tail) := by
  simp only [List.mem_cons, not_or] at starts
  obtain ⟨-, quote, bracket, brace, -⟩ := starts
  rw [parseValue]
  · exact fun _ same => quote (List.cons.inj same).1
  · exact fun _ same => bracket (List.cons.inj same).1
  · exact fun _ same => brace (List.cons.inj same).1

theorem parseValue_items (start : skipSpace cs = body) (notClosed : ∀ tail, body ≠ ']' :: tail) :
    parseValue (room + 1) (fuel + 1) ('[' :: cs) = (parseItems room fuel body).map fun out => (.arr out.1, out.2) := by
  rw [parseValue, inside, start]
  split
  · exact absurd rfl (notClosed _)
  · rfl

theorem parseValue_members (start : skipSpace cs = body) (notClosed : ∀ tail, body ≠ '\x7d' :: tail) :
    parseValue (room + 1) (fuel + 1) ('\x7b' :: cs) = (parseMembers room fuel [] body).map fun out => (.obj out.1, out.2) := by
  rw [parseValue, inside, start]
  split
  · exact absurd rfl (notClosed _)
  · rfl

end

/-- A written value is not empty, so there is fuel for it. -/
theorem ReadsBack.of_succ {value : Json} (readable : Readable room value)
    (back : ∀ (level fuel : Nat) (rest : List Char), (print layout level value).length ≤ fuel + 1 →
      follows rest = true → parseValue room (fuel + 1) (print layout level value ++ rest) = .ok (value, rest)) :
    ReadsBack layout room value := by
  intro level fuel rest enough behind
  obtain ⟨c, tail, written, _⟩ := exists_print_cons readable layout level
  cases fuel with
  | zero =>
      rw [written] at enough
      exact absurd enough (Nat.not_succ_le_zero _)
  | succ fuel => exact back level fuel rest enough behind

/-- **A written value is read back**, at every level and in front of what can follow it. -/
theorem Readable.readsBack {value : Json} (h : Readable room value) (layout : Layout) : ReadsBack layout room value := by
  induction h with
  | null => exact ReadsBack.of_succ .null fun _ _ _ _ _ => rfl
  | bool b =>
      refine ReadsBack.of_succ (.bool b) fun _ _ _ _ _ => ?_
      cases b <;> rfl
  | @num room number writable =>
      refine ReadsBack.of_succ (.num writable) fun level fuel rest _ behind => ?_
      obtain ⟨c, tail, written, _, starts⟩ := exists_numberText_cons writable
      have scalar := parseScalar_numberText writable behind
      rw [print]
      rw [written, List.cons_append] at scalar ⊢
      rw [parseValue_scalar starts, scalar]
  | str s =>
      refine ReadsBack.of_succ (.str s) fun level fuel rest _ _ => ?_
      rw [print, stringText_append, parseValue, parseString_escaped]
      rfl
  | @arr room items all ih =>
      refine ReadsBack.of_succ (.arr all) fun level fuel rest enough behind => ?_
      cases items with
      | nil => rfl
      | cons item items =>
          rw [print] at enough ⊢
          simp only [List.cons_append, List.append_assoc, List.nil_append, List.length_cons, List.length_append]
            at enough ⊢
          obtain ⟨c, tail, written, _, notClosed⟩ := exists_print_cons (all item List.mem_cons_self) layout (level + 1)
          rw [parseValue_items (skipSpace_print (all item List.mem_cons_self) layout (isSpace_of_mem_edge _) _ _),
            parseItems_print (fun v mem => all v (List.mem_cons_of_mem item mem)) ih rest (by omega)]
          · rfl
          · rw [written]
            exact fun _ same => notClosed (List.cons.inj same).1
  | @obj room members keys all ih =>
      refine ReadsBack.of_succ (.obj keys all) fun level fuel rest enough behind => ?_
      cases members with
      | nil => rfl
      | cons member members =>
          obtain ⟨key, value⟩ := member
          rw [print] at enough ⊢
          simp only [List.cons_append, List.append_assoc, List.nil_append, List.length_cons, List.length_append]
            at enough ⊢
          rw [parseValue_members (skipSpace_key (isSpace_of_mem_edge _) key _)]
          · show (parseMembers room fuel [] (stringText key ++ ([':', ' '] ++ (print layout (level + 1) value ++
              (printMembers layout (level + 1) members ++ (layout.edge level ++ '\x7d' :: rest)))))).map _ = _
            rw [parseMembers_print all ih [] rest (by omega), Members.putAll_of_nodup keys]
            rfl
          · rw [stringText_append]
            exact fun _ same => absurd (List.cons.inj same).1 (by decide)

/-- **A value is read back from its text**, in every layout, where there is room for it. -/
theorem Readable.roundTrip {value : Json} (h : Readable room value) (layout : Layout) :
    parse (value.render layout) room = .ok value := by
  have start : skipSpace (print layout 0 value) = print layout 0 value := by
    have skipped := skipSpace_print h layout (fun _ mem => absurd mem List.not_mem_nil) 0 []
    rwa [List.nil_append, List.append_nil] at skipped
  have read := h.readsBack layout 0 (2 * (print layout 0 value).length + 1) [] (by omega) rfl
  rw [List.append_nil] at read
  rw [parse, render, String.toList_ofList]
  simp only [start, read]
  rfl

end SlidePress.Json
