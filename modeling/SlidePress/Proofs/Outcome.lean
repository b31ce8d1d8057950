import Mathlib.Data.List.Forall2

/-!
# `SlidePress.Proofs.Outcome` — results that may be errors

What is read, measured or set may fail. These are the steps by which a result is followed back to what it came from: one
result through a function, and a list of results to its items.
-/

namespace SlidePress

section

variable {ε α β : Type}

theorem exists_of_map_eq_ok {x : Except ε α} {f : α → β} {b : β} (h : x.map f = .ok b) :
    ∃ a, x = .ok a ∧ f a = b := by
  cases x with
  | error e => cases h
  | ok a => exact ⟨a, rfl, Except.ok.inj h⟩

theorem map_eq_error_iff {x : Except ε α} {f : α → β} {e : ε} : x.map f = .error e ↔ x = .error e := by
  cases x with
  | error e' => exact ⟨fun h => by rw [Except.error.inj h], fun h => by rw [Except.error.inj h]; rfl⟩
  | ok a => constructor <;> nofun

theorem mapError_eq_ok_iff {δ : Type} {x : Except ε α} {f : ε → δ} {a : α} : x.mapError f = .ok a ↔ x = .ok a := by
  cases x with
  | error e =>
      constructor
      · intro same
        cases same
      · intro same
        cases same
  | ok b =>
      constructor
      · intro same
        rw [Except.ok.inj same]
      · intro same
        rw [Except.ok.inj same]
        rfl

theorem ok_of_toOption {x : Except ε α} {a : α} (h : x.toOption = some a) : x = .ok a := by
  cases x with
  | error e => cases h
  | ok b => rw [Option.some.inj h]

/-- What stands on the right of a list of pairs has something on the left. -/
theorem exists_left_of_forall₂ {R : α → β → Prop} {xs : List α} {ys : List β} (h : List.Forall₂ R xs ys) {y : β}
    (mem : y ∈ ys) : ∃ x ∈ xs, R x y := by
  induction h with
  | nil => cases mem
  | @cons x first xs ys related _ ih =>
      rcases List.mem_cons.mp mem with rfl | later
      · exact ⟨x, List.mem_cons_self, related⟩
      · obtain ⟨other, inside, found⟩ := ih later
        exact ⟨other, List.mem_cons_of_mem x inside, found⟩

variable {f : α → Except ε β} {items : List α} {results : List β}

/-- **A list of results** has the result of each item at its place. -/
theorem mapM_eq_ok_iff :
    items.mapM f = .ok results ↔ List.Forall₂ (fun item result => f item = .ok result) items results := by
  induction items generalizing results with
  | nil =>
      rw [List.mapM_nil, List.forall₂_nil_left_iff]
      constructor
      · intro h
        exact (Except.ok.inj h).symm
      · rintro rfl
        rfl
  | cons item items ih =>
      rw [List.mapM_cons, List.forall₂_cons_left_iff]
      constructor
      · intro h
        cases first : f item with
        | error e =>
            rw [first] at h
            cases h
        | ok result =>
            cases others : items.mapM f with
            | error e =>
                rw [first, others] at h
                cases h
            | ok more =>
                rw [first, others] at h
                cases h
                exact ⟨result, more, rfl, ih.mp others, rfl⟩
      · rintro ⟨result, more, first, others, rfl⟩
        rw [first, ih.mpr others]
        rfl

/-- A list of results whose first item has one goes on with the others. -/
theorem mapM_cons_eq_error_iff {item : α} {result : β} (h : f item = .ok result) {e : ε} :
    (item :: items).mapM f = .error e ↔ items.mapM f = .error e := by
  rw [List.mapM_cons, h]
  cases items.mapM f with
  | error e' => exact Iff.rfl
  | ok results => constructor <;> nofun

theorem exists_mapM_eq_ok (h : ∀ item ∈ items, ∃ result, f item = .ok result) : ∃ results, items.mapM f = .ok results := by
  induction items with
  | nil => exact ⟨[], rfl⟩
  | cons item items ih =>
      obtain ⟨result, first⟩ := h item List.mem_cons_self
      obtain ⟨results, others⟩ := ih fun other mem => h other (List.mem_cons_of_mem item mem)
      exact ⟨result :: results, mapM_eq_ok_iff.mpr (.cons first (mapM_eq_ok_iff.mp others))⟩

theorem exists_of_mem_mapM (h : items.mapM f = .ok results) {result : β} (mem : result ∈ results) :
    ∃ item ∈ items, f item = .ok result :=
  exists_left_of_forall₂ (mapM_eq_ok_iff.mp h) mem

theorem exists_result_of_mem (h : items.mapM f = .ok results) {item : α} (mem : item ∈ items) :
    ∃ result ∈ results, f item = .ok result :=
  exists_left_of_forall₂ (mapM_eq_ok_iff.mp h).flip mem

end

end SlidePress
