import Mathlib.Data.Set.Card
import Mathlib.Order.Interval.Finset.Nat
import Mathlib.Data.List.Induction

/-!
# Maps that give out their keys

A partial map from numbers to values, which gives a value that is put in the least number below `n` that is
not live. A `Path` is a history of operations on the map that starts empty. What the map holds under a
number is read off the history (`Path.get_iff`): the value of the insertion that gave the number and was
not removed since, and there is one such insertion at most.
-/

namespace IdMap
open Function (update)
variable {τ : Type} {n : ℕ} {m m' : ℕ → Option τ}

def live (m : ℕ → Option τ) : Set ℕ := {i | m i ≠ none}

/-- An operation with what came of it. -/
inductive Event (τ : Type) where
  | inserted (i : ℕ) (x : τ)
  | refused (x : τ)
  | removed (i : ℕ)
  | looked (i : ℕ) (x : Option τ)

inductive Step (n : ℕ) : (ℕ → Option τ) → Event τ → (ℕ → Option τ) → Prop where
  | inserted {m : ℕ → Option τ} {i : ℕ} {x : τ} (h : IsLeast {i | i < n ∧ i ∉ live m} i) :
    Step n m (.inserted i x) (update m i (some x))
  | refused {m : ℕ → Option τ} {x : τ} (h : n ≤ (live m).ncard) : Step n m (.refused x) m
  | removed {m : ℕ → Option τ} {i : ℕ} : Step n m (.removed i) (update m i none)
  | looked {m : ℕ → Option τ} {i : ℕ} : Step n m (.looked i (m i)) m

/-- The map after a history of operations. -/
inductive Path (n : ℕ) : List (Event τ) → (ℕ → Option τ) → Prop where
  | nil : Path n [] (fun _ => none)
  | concat {es : List (Event τ)} {m m' : ℕ → Option τ} {e : Event τ} (h : Path n es m)
    (hs : Step n m e m') : Path n (es ++ [e]) m'

theorem mem_live {i : ℕ} : i ∈ live m ↔ ∃ x, m i = some x := Option.ne_none_iff_exists'

theorem not_mem_live {i : ℕ} : i ∉ live m ↔ m i = none := Decidable.not_not

/-! ### Free numbers -/

/-- Some number is free exactly when fewer than `n` are live. -/
theorem exists_free_iff (h : live m ⊆ Set.Iio n) : (∃ i < n, i ∉ live m) ↔ (live m).ncard < n := by
  have hcard : (Set.Iio n).ncard = n := by simp [Set.ncard_eq_toFinset_card']
  constructor
  · rintro ⟨i, hi, hfree⟩
    have hss : live m ⊂ Set.Iio n := ⟨h, fun hle => hfree (hle hi)⟩
    exact hcard ▸ Set.ncard_lt_ncard hss (Set.finite_Iio n)
  · intro hlt
    by_contra hnone
    have hle : Set.Iio n ⊆ live m := fun i hi => by
      by_contra hfree
      exact hnone ⟨i, hi, hfree⟩
    have := Set.ncard_le_ncard hle ((Set.finite_Iio n).subset h)
    omega

/-! ### What a history says of a number -/

/-- The `k`-th operation gave `x` the number, and it was not removed since. -/
def Held (es : List (Event τ)) (k i : ℕ) (x : τ) : Prop :=
  es[k]? = some (.inserted i x) ∧ ∀ l, k < l → es[l]? ≠ some (.removed i)

theorem held_concat {es : List (Event τ)} {e : Event τ} {k i : ℕ} {x : τ} :
    Held (es ++ [e]) k i x ↔
      (Held es k i x ∧ e ≠ .removed i) ∨ (k = es.length ∧ e = .inserted i x) := by
  have hlast : (es ++ [e])[es.length]? = some e := by simp
  constructor
  · rintro ⟨hk, hl⟩
    obtain hlt | rfl | hgt := Nat.lt_trichotomy k es.length
    · rw [List.getElem?_append_left hlt] at hk
      refine .inl ⟨⟨hk, fun l hkl hr => ?_⟩, fun he => ?_⟩
      · have hll : l < es.length := (List.getElem?_eq_some_iff.1 hr).1
        exact hl l hkl (by rw [List.getElem?_append_left hll, hr])
      · exact hl es.length hlt (by rw [hlast, he])
    · rw [hlast] at hk
      exact .inr ⟨rfl, Option.some.inj hk⟩
    · rw [List.getElem?_eq_none (by simp; omega)] at hk
      cases hk
  · rintro (⟨⟨hk, hl⟩, he⟩ | ⟨rfl, rfl⟩)
    · have hlt : k < es.length := (List.getElem?_eq_some_iff.1 hk).1
      refine ⟨by rw [List.getElem?_append_left hlt, hk], fun l hkl hr => ?_⟩
      by_cases hll : l < es.length
      · rw [List.getElem?_append_left hll] at hr
        exact hl l hkl hr
      · obtain rfl : l = es.length := by
          have := (List.getElem?_eq_some_iff.1 hr).1
          rw [List.length_append, List.length_singleton] at this
          omega
        rw [hlast] at hr
        exact he (Option.some.inj hr)
    · refine ⟨hlast, fun l hkl hr => ?_⟩
      rw [List.getElem?_eq_none (by simp; omega)] at hr
      cases hr

theorem Step.get_iff {e : Event τ} (h : Step n m e m') (i : ℕ) (x : τ) :
    m' i = some x ↔ (m i = some x ∧ e ≠ .removed i) ∨ e = .inserted i x := by
  cases h with
  | @inserted j y hj =>
    have hfree : m j = none := not_mem_live.1 hj.1.2
    rw [Function.update_apply]
    by_cases hij : i = j
    · subst hij
      simp [hfree]
    · have hji : j ≠ i := fun he => hij he.symm
      simp [hij, hji]
  | refused _ => simp
  | @removed j =>
    rw [Function.update_apply]
    by_cases hij : i = j
    · subst hij
      simp
    · have hji : j ≠ i := fun he => hij he.symm
      simp [hij, hji]
  | looked => simp

/-- The map holds under a number what the history says. -/
theorem Path.get_iff {es : List (Event τ)} (h : Path n es m) (i : ℕ) (x : τ) :
    m i = some x ↔ ∃ k, Held es k i x := by
  induction h with
  | nil => simp [Held]
  | @concat es m m' e h hs ih =>
    rw [hs.get_iff, ih]
    constructor
    · rintro (⟨⟨k, hk⟩, he⟩ | he)
      · exact ⟨k, held_concat.2 (.inl ⟨hk, he⟩)⟩
      · exact ⟨es.length, held_concat.2 (.inr ⟨rfl, he⟩)⟩
    · rintro ⟨k, hk⟩
      rcases held_concat.1 hk with ⟨hk, he⟩ | ⟨-, he⟩
      · exact .inl ⟨⟨k, hk⟩, he⟩
      · exact .inr he

/-- An insertion gives a number that the history leaves free. -/
theorem Step.inserted_free {i : ℕ} {x : τ} (h : Step n m (.inserted i x) m') : m i = none := by
  cases h with
  | inserted h => exact not_mem_live.1 h.1.2

/-- No two insertions that were not removed since gave the same number. -/
theorem Path.held_unique {es : List (Event τ)} (h : Path n es m) {k k' i : ℕ} {x x' : τ}
    (hk : Held es k i x) (hk' : Held es k' i x') : k = k' := by
  induction h with
  | nil => exact absurd hk.1 (by simp)
  | @concat es m m' e h hs ih =>
    rcases held_concat.1 hk with ⟨hold, -⟩ | ⟨rfl, rfl⟩
    · rcases held_concat.1 hk' with ⟨hold', -⟩ | ⟨rfl, rfl⟩
      · exact ih hold hold'
      · have hheld := (h.get_iff i x).2 ⟨k, hold⟩
        rw [hs.inserted_free] at hheld
        cases hheld
    · rcases held_concat.1 hk' with ⟨hold', -⟩ | ⟨rfl, -⟩
      · have hheld := (h.get_iff i x').2 ⟨k', hold'⟩
        rw [hs.inserted_free] at hheld
        cases hheld
      · rfl

end IdMap
