/-!
# `SlidePress.Json.Basic` — JSON values

Decks and configurations are exchanged as JSON. Numbers keep the form they were written in, whole or with a
fraction, and the members of an object keep their order.
-/

namespace SlidePress

/-- A number of a document: whole, or with a fraction or a power of ten. -/
inductive Number
  | int (n : Int)
  | float (x : Float)
deriving DecidableEq, Repr

instance (n : Nat) : OfNat Number n := ⟨.int n⟩

instance : Coe Nat Number := ⟨fun n => .int n⟩

/-- Whether a number is below zero; not-a-number is not. -/
def Number.isNegative : Number → Bool
  | .int n => n < 0
  | .float x => x < 0

/-- Whether a number is zero. -/
def Number.isZero : Number → Bool
  | .int n => n == 0
  | .float x => x == 0

/-- A JSON value. -/
inductive Json
  | null
  | bool (b : Bool)
  | num (n : Number)
  | str (s : String)
  | arr (items : List Json)
  | obj (members : List (String × Json))
deriving Inhabited, Repr

/-- The members of an object. -/
abbrev Members := List (String × Json)

/-- The members with one set: in place when the key is there, at the end when it is not. -/
def Members.put (key : String) (value : Json) : Members → Members
  | [] => [(key, value)]
  | (k, v) :: rest => if k = key then (k, value) :: rest else (k, v) :: Members.put key value rest

/-- The value under a key. -/
def Members.get? (key : String) : Members → Option Json
  | [] => none
  | (k, v) :: rest => if k = key then some v else Members.get? key rest

/-- A key that was just set has the value it was set to. -/
theorem Members.get?_put_self (key : String) (value : Json) (members : Members) :
    (members.put key value).get? key = some value := by
  induction members with
  | nil => simp [Members.put, Members.get?]
  | cons member rest ih =>
    obtain ⟨k, v⟩ := member
    by_cases h : k = key
    · simp [Members.put, Members.get?, h]
    · simpa [Members.put, Members.get?, h] using ih

/-- Setting one key leaves the others as they were. -/
theorem Members.get?_put_of_ne {key other : String} (h : other ≠ key) (value : Json) (members : Members) :
    (members.put key value).get? other = members.get? other := by
  induction members with
  | nil => simp [Members.put, Members.get?, Ne.symm h]
  | cons member rest ih =>
    obtain ⟨k, v⟩ := member
    by_cases hk : k = key
    · simp [Members.put, Members.get?, hk, Ne.symm h]
    · by_cases ho : k = other
      · simp [Members.put, Members.get?, ho, h]
      · simpa [Members.put, Members.get?, hk, ho] using ih

end SlidePress
