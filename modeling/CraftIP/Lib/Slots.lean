import Mathlib.Data.List.Basic

/-!
# Tables of numbered slots

A table of `n` slots, as an array of optional values. Read as a finite map from slot numbers below `n`,
`put` and `clear` change one slot and `firstFree` is the least number that is not taken.
-/

structure Slots (n : Nat) (τ : Type) where
  cells : List (Option τ)
  length_cells : cells.length = n

namespace Slots
variable {n : Nat} {τ : Type}

def empty : Slots n τ := ⟨List.replicate n none, List.length_replicate⟩

/-- The value in a slot; a number that is not in the table holds nothing. -/
def get (t : Slots n τ) (i : Nat) : Option τ := (t.cells[i]?).join

def put (t : Slots n τ) (i : Nat) (x : τ) : Slots n τ :=
  ⟨t.cells.set i (some x), by rw [List.length_set, t.length_cells]⟩

def clear (t : Slots n τ) (i : Nat) : Slots n τ :=
  ⟨t.cells.set i none, by rw [List.length_set, t.length_cells]⟩

def firstFree (t : Slots n τ) : Option Nat := t.cells.findIdx? Option.isNone

/-- How many slots are taken. -/
def count (t : Slots n τ) : Nat := t.cells.countP Option.isSome

@[simp] theorem get_empty (i : Nat) : (empty : Slots n τ).get i = none := by
  simp only [get, empty, List.getElem?_replicate]
  split <;> rfl

theorem lt_of_get {t : Slots n τ} {i : Nat} {x : τ} (h : t.get i = some x) : i < n := by
  by_contra hi
  rw [get, List.getElem?_eq_none (by rw [t.length_cells]; omega)] at h
  cases h

theorem get_eq_none_of_le {t : Slots n τ} {i : Nat} (h : n ≤ i) : t.get i = none := by
  rw [get, List.getElem?_eq_none (by rw [t.length_cells]; omega)]; rfl

theorem mem_cells_iff {t : Slots n τ} {x : τ} : some x ∈ t.cells ↔ ∃ i, t.get i = some x := by
  rw [List.mem_iff_getElem?]
  exact exists_congr fun i => by rw [get, Option.join_eq_some_iff]

theorem get_put (t : Slots n τ) (i j : Nat) (x : τ) :
    (t.put i x).get j = if i = j ∧ i < n then some x else t.get j := by
  have hl := t.length_cells
  by_cases hij : i = j
  · subst hij
    by_cases hi : i < n
    · rw [if_pos ⟨rfl, hi⟩, get, put, List.getElem?_set_self (by omega)]; rfl
    · rw [if_neg (fun h => hi h.2), get_eq_none_of_le (by omega), get_eq_none_of_le (by omega)]
  · rw [if_neg (fun h => hij h.1), get, put, List.getElem?_set_ne hij]; rfl

theorem get_put_self {t : Slots n τ} {i : Nat} (h : i < n) (x : τ) : (t.put i x).get i = some x := by
  rw [get_put, if_pos ⟨rfl, h⟩]

theorem get_put_ne (t : Slots n τ) {i j : Nat} (h : i ≠ j) (x : τ) : (t.put i x).get j = t.get j := by
  rw [get_put, if_neg (fun h' => h h'.1)]

theorem get_clear (t : Slots n τ) (i j : Nat) :
    (t.clear i).get j = if i = j then none else t.get j := by
  have hl := t.length_cells
  by_cases hij : i = j
  · subst hij
    by_cases hi : i < n
    · rw [if_pos rfl, get, clear, List.getElem?_set_self (by omega)]; rfl
    · rw [if_pos rfl, get_eq_none_of_le (by omega)]
  · rw [if_neg hij, get, clear, List.getElem?_set_ne hij]; rfl

/-- The first free slot is in the table, holds nothing, and every slot before it is taken. -/
theorem firstFree_eq_some {t : Slots n τ} {i : Nat} (h : t.firstFree = some i) :
    i < n ∧ t.get i = none ∧ ∀ j < i, ∃ x, t.get j = some x := by
  obtain ⟨hi, hnone, hmin⟩ := List.findIdx?_eq_some_iff_getElem.1 h
  refine ⟨t.length_cells ▸ hi, ?_, fun j hj => ?_⟩
  · rw [get, List.getElem?_eq_getElem hi, Option.isNone_iff_eq_none.1 hnone]; rfl
  · have hsome := hmin j hj
    rw [Bool.not_eq_true, Option.isNone_eq_false_iff, Option.isSome_iff_exists] at hsome
    obtain ⟨x, hx⟩ := hsome
    exact ⟨x, by rw [get, List.getElem?_eq_getElem (by omega), hx]; rfl⟩

/-- There is no free slot exactly when every slot is taken. -/
theorem firstFree_eq_none_iff {t : Slots n τ} :
    t.firstFree = none ↔ ∀ i < n, ∃ x, t.get i = some x := by
  rw [firstFree, List.findIdx?_eq_none_iff]
  constructor
  · intro h i hi
    have hi' : i < t.cells.length := by rw [t.length_cells]; exact hi
    have hsome := h t.cells[i] (List.getElem_mem hi')
    rw [Option.isNone_eq_false_iff, Option.isSome_iff_exists] at hsome
    obtain ⟨x, hx⟩ := hsome
    exact ⟨x, by rw [get, List.getElem?_eq_getElem hi', hx]; rfl⟩
  · intro h x hx
    obtain ⟨i, hi, rfl⟩ := List.getElem_of_mem hx
    obtain ⟨y, hy⟩ := h i (by rw [← t.length_cells]; exact hi)
    rw [get, List.getElem?_eq_getElem hi, Option.join_eq_some_iff] at hy
    obtain hy := Option.some.inj hy
    rw [hy]; rfl

/-! ### Counting -/

theorem get_eq_getElem {t : Slots n τ} {i : Nat} (h : i < t.cells.length) : t.get i = t.cells[i] := by
  rw [get, List.getElem?_eq_getElem h, Option.join_some]

@[simp] theorem count_empty : (empty : Slots n τ).count = 0 := by
  simp [count, empty, List.countP_replicate]

theorem count_le (t : Slots n τ) : t.count ≤ n :=
  Nat.le_trans List.countP_le_length (Nat.le_of_eq t.length_cells)

theorem count_eq_zero_iff {t : Slots n τ} : t.count = 0 ↔ ∀ i, t.get i = none := by
  rw [count, List.countP_eq_zero]
  constructor
  · intro h i
    by_cases hi : i < t.cells.length
    · rw [get_eq_getElem hi]
      exact Option.not_isSome_iff_eq_none.1 (h _ (List.getElem_mem hi))
    · exact get_eq_none_of_le (t.length_cells ▸ Nat.le_of_not_lt hi)
  · intro h x hx
    obtain ⟨i, hi, rfl⟩ := List.getElem_of_mem hx
    rw [← get_eq_getElem hi, h i]; simp

/-- A taken slot is counted. -/
theorem count_pos {t : Slots n τ} {i : Nat} {x : τ} (h : t.get i = some x) : 0 < t.count := by
  rw [Nat.pos_iff_ne_zero, Ne, count_eq_zero_iff]
  exact fun hall => by rw [hall i] at h; cases h

theorem count_put {t : Slots n τ} {i : Nat} (h : i < n) (x : τ) :
    (t.put i x).count = if (t.get i).isSome then t.count else t.count + 1 := by
  have hi : i < t.cells.length := by rw [t.length_cells]; exact h
  have hget := get_eq_getElem hi
  have hset := List.countP_set (p := Option.isSome) (a := some x) hi
  rw [count, put, hset, hget]
  split
  · next hsome =>
    have hpos : 0 < t.count := by
      obtain ⟨y, hy⟩ := Option.isSome_iff_exists.1 hsome
      exact count_pos (hget.trans hy)
    rw [count] at hpos ⊢
    simp; omega
  · simp [count]

theorem count_clear {t : Slots n τ} {i : Nat} {x : τ} (h : t.get i = some x) :
    (t.clear i).count = t.count - 1 := by
  have hi : i < t.cells.length := by rw [t.length_cells]; exact lt_of_get h
  rw [get_eq_getElem hi] at h
  rw [count, clear, List.countP_set hi, h]
  simp [count]

theorem count_put_of_le {t : Slots n τ} {i : Nat} (h : n ≤ i) (x : τ) : (t.put i x).count = t.count :=
  congrArg (List.countP Option.isSome)
    (List.set_eq_of_length_le (by rw [t.length_cells]; exact h) : t.cells.set i (some x) = t.cells)

theorem count_clear_of_le {t : Slots n τ} {i : Nat} (h : n ≤ i) : (t.clear i).count = t.count :=
  congrArg (List.countP Option.isSome)
    (List.set_eq_of_length_le (by rw [t.length_cells]; exact h) : t.cells.set i none = t.cells)

/-- Tables of which the same slots are taken. -/
theorem count_congr {σ : Type} {t : Slots n τ} {u : Slots n σ}
    (h : ∀ i < n, (t.get i).isSome = (u.get i).isSome) : t.count = u.count := by
  have hmap : t.cells.map Option.isSome = u.cells.map Option.isSome := by
    refine List.ext_getElem (by rw [List.length_map, List.length_map, t.length_cells, u.length_cells]) fun i hi hi' => ?_
    rw [List.length_map] at hi hi'
    rw [List.getElem_map, List.getElem_map, ← get_eq_getElem hi, ← get_eq_getElem hi']
    exact h i (t.length_cells ▸ hi)
  have hcount : ∀ {ρ : Type} (l : List (Option ρ)), l.countP Option.isSome = (l.map Option.isSome).countP id :=
    fun l => by rw [List.countP_map]; rfl
  rw [count, count, hcount, hcount, hmap]

/-- What is in the slots. -/
def taken (t : Slots n τ) : List τ := t.cells.filterMap id

theorem mem_taken {t : Slots n τ} {x : τ} : x ∈ t.taken ↔ ∃ i, t.get i = some x := by
  rw [taken, List.mem_filterMap, ← mem_cells_iff]
  simp

theorem length_taken (t : Slots n τ) : t.taken.length = t.count := by
  rw [taken, List.length_filterMap_eq_countP]
  rfl

/-- Nothing is in two slots. -/
theorem nodup_taken {t : Slots n τ} (h : ∀ i j x, t.get i = some x → t.get j = some x → i = j) : t.taken.Nodup := by
  rw [taken, List.Nodup, List.pairwise_filterMap, List.pairwise_iff_getElem]
  intro i j hi hj hlt x hx y hy hxy
  rw [id, ← get_eq_getElem hi] at hx
  rw [id, ← get_eq_getElem hj] at hy
  subst hxy
  exact absurd (h i j x hx hy) (Nat.ne_of_lt hlt)

end Slots
