import Mathlib.Algebra.BigOperators.Group.Finset.Basic
import CraftIP.Lib.Lts

/-!
# Runs that use up a measure

Where every step that meets a condition lowers a measure, a run of such steps is no longer than the
measure is at its start (`length_le_of_decreasing`), and some run of them goes on until there is no other
(`exists_stuck`). A measure that is a sum over a family changes with one member as that member's share
does (`sum_update`).
-/

namespace Lts
variable {σ α : Type} {step : σ → α → Option σ} {C : σ → α → Prop} {I : σ → Prop} {μ : σ → Nat} {s s' : σ}

theorem Meets.mono {D : σ → α → Prop} (h : ∀ s a, C s a → D s a) {as : List α} (hm : Meets step C s as) :
    Meets step D s as := by
  induction as generalizing s with
  | nil => trivial
  | cons a as ih => exact ⟨h s a hm.1, fun s' hs => ih (hm.2 s' hs)⟩

/-- Every step that meets the condition keeps the invariant and lowers the measure. -/
def Decreasing (step : σ → α → Option σ) (C : σ → α → Prop) (I : σ → Prop) (μ : σ → Nat) : Prop :=
  ∀ s a s', I s → C s a → step s a = some s' → I s' ∧ μ s' < μ s

theorem length_le_of_decreasing (h : Decreasing step C I μ) (hI : I s) {as : List α}
    (hr : run step s as = some s') (hm : Meets step C s as) : as.length + μ s' ≤ μ s := by
  induction as generalizing s with
  | nil => cases hr; exact Nat.le_of_eq (Nat.zero_add _)
  | cons a as ih =>
    obtain ⟨t, ht, hr⟩ := Option.bind_eq_some_iff.1 hr
    obtain ⟨hIt, hlt⟩ := h s a t hI hm.1 ht
    have hle := ih hIt hr (hm.2 t ht)
    rw [List.length_cons]
    omega

theorem Decreasing.invariant (h : Decreasing step C I μ) (hI : I s) {as : List α} (hr : run step s as = some s')
    (hm : Meets step C s as) : I s' := by
  induction as generalizing s with
  | nil => cases hr; exact hI
  | cons a as ih =>
    obtain ⟨t, ht, hr⟩ := Option.bind_eq_some_iff.1 hr
    exact ih (h s a t hI hm.1 ht).1 hr (hm.2 t ht)

/-- No step that meets the condition is left. -/
def Stuck (step : σ → α → Option σ) (C : σ → α → Prop) (s : σ) : Prop := ∀ a, C s a → step s a = none

theorem exists_stuck (h : Decreasing step C I μ) (hI : I s) :
    ∃ as s', run step s as = some s' ∧ Meets step C s as ∧ Stuck step C s' := by
  induction hn : μ s using Nat.strong_induction_on generalizing s with
  | _ n ih =>
    by_cases hs : Stuck step C s
    · exact ⟨[], s, rfl, trivial, hs⟩
    · obtain ⟨a, hc, hne⟩ : ∃ a, C s a ∧ step s a ≠ none := by simpa [Stuck] using hs
      obtain ⟨t, ht⟩ := Option.ne_none_iff_exists'.1 hne
      obtain ⟨hIt, hlt⟩ := h s a t hI hc ht
      obtain ⟨as, s', hr, hm, hs'⟩ := ih (μ t) (hn ▸ hlt) hIt rfl
      refine ⟨a :: as, s', by rw [run, ht, Option.bind_some, hr], ⟨hc, fun u hu => ?_⟩, hs'⟩
      cases ht.symm.trans hu
      exact hm

end Lts

section Sum
open Function (update)
variable {β : Type} (f : Nat → β) (w : β → Nat) (x : β) {i n : Nat}

theorem sum_update (hi : i < n) :
    ∑ j ∈ Finset.range n, w (update f i x j) + w (f i) = ∑ j ∈ Finset.range n, w (f j) + w x := by
  rw [← Finset.add_sum_erase _ _ (Finset.mem_range.2 hi), ← Finset.add_sum_erase _ (fun j => w (f j))
    (Finset.mem_range.2 hi), Function.update_self, Finset.sum_congr rfl fun j hj =>
      congrArg w (Function.update_of_ne (Finset.ne_of_mem_erase hj) x f)]
  omega

theorem sum_update_of_le (hi : n ≤ i) :
    ∑ j ∈ Finset.range n, w (update f i x j) = ∑ j ∈ Finset.range n, w (f j) :=
  Finset.sum_congr rfl fun j hj => by
    have hlt := Finset.mem_range.1 hj
    rw [Function.update_of_ne (by omega)]

/-- What a member of the family takes on is at most what the sum does. -/
theorem sum_update_le {k : Nat} (hx : w x ≤ w (f i) + k) :
    ∑ j ∈ Finset.range n, w (update f i x j) ≤ ∑ j ∈ Finset.range n, w (f j) + k := by
  rcases Nat.lt_or_ge i n with hi | hi
  · have h := sum_update f w x hi
    omega
  · have h := sum_update_of_le f w x hi
    omega

end Sum
