import Mathlib.Data.List.Induction
import Mathlib.Data.Option.Basic

/-!
# Runs of a step function

A system is a step function that says what an action makes of a state, if it can happen there. A run
may be confined by a condition on each state and the action taken in it. What holds at the start and is
kept by every allowed step holds in every state reached (`Reach.invariant`).
-/

namespace Lts
variable {σ α : Type}

/-- The states reached from `s₀` by steps that all meet the condition. -/
inductive Reach (step : σ → α → Option σ) (C : σ → α → Prop) (s₀ : σ) : σ → Prop
  | init : Reach step C s₀ s₀
  | step {s s' : σ} {a : α} (h : Reach step C s₀ s) (hc : C s a) (hs : step s a = some s') :
    Reach step C s₀ s'

variable {step : σ → α → Option σ} {C D : σ → α → Prop} {s₀ s s' : σ}

/-- The invariant rule. What is already known of the reached states may be used in the step. -/
theorem Reach.invariant {I : σ → Prop} (h0 : I s₀)
    (hstep : ∀ {s a s'}, Reach step C s₀ s → I s → C s a → step s a = some s' → I s')
    (h : Reach step C s₀ s) : I s := by
  induction h with
  | init => exact h0
  | step h hc hs ih => exact hstep h ih hc hs

theorem Reach.trans (h : Reach step C s₀ s) (h' : Reach step C s s') : Reach step C s₀ s' := by
  induction h' with
  | init => exact h
  | step _ hc hs ih => exact .step ih hc hs

/-- Where a system sees another's states, and can follow each of its steps, it follows its runs. -/
theorem Reach.lift {τ : Type} {step' : τ → α → Option τ} {D : τ → α → Prop} {f : σ → τ} {t : τ}
    (s₀ : σ) (hstep : ∀ s a, (step s a).map f = step' (f s) a) (h : Reach step' D (f s₀) t) :
    ∃ s, f s = t ∧ Reach step (fun s a => D (f s) a) s₀ s := by
  induction h with
  | init => exact ⟨s₀, rfl, .init⟩
  | step _ hc hs ih =>
    obtain ⟨s, rfl, hreach⟩ := ih
    rw [← hstep] at hs
    obtain ⟨s', hs', rfl⟩ := Option.map_eq_some_iff.1 hs
    exact ⟨s', rfl, .step hreach hc hs'⟩

/-- The state after a list of actions. -/
def run (step : σ → α → Option σ) (s : σ) : List α → Option σ
  | [] => some s
  | a :: as => (step s a).bind (run step · as)

/-- Every action of the list meets the condition in the state it is taken in. -/
def Meets (step : σ → α → Option σ) (C : σ → α → Prop) (s : σ) : List α → Prop
  | [] => True
  | a :: as => C s a ∧ ∀ s' ∈ step s a, Meets step C s' as

instance Meets.decidable (step : σ → α → Option σ) (C : σ → α → Prop) [∀ s a, Decidable (C s a)] :
    ∀ (as : List α) (s : σ), Decidable (Meets step C s as)
  | [], _ => isTrue trivial
  | a :: as, s =>
    have : Decidable (∀ s' ∈ step s a, Meets step C s' as) :=
      match step s a with
      | none => isTrue (fun _ h => nomatch h)
      | some s' =>
        match Meets.decidable step C as s' with
        | isTrue h => isTrue (fun _ h' => by cases h'; exact h)
        | isFalse h => isFalse (fun h' => h (h' s' rfl))
    inferInstanceAs (Decidable (C s a ∧ _))

theorem Meets.of_forall (h : ∀ s a, C s a) (as : List α) (s : σ) : Meets step C s as := by
  induction as generalizing s with
  | nil => trivial
  | cons a as ih => exact ⟨h s a, fun s' _ => ih s'⟩

theorem Meets.congr (h : ∀ s a, C s a ↔ D s a) (as : List α) (s : σ) :
    Meets step C s as ↔ Meets step D s as := by
  induction as generalizing s with
  | nil => rfl
  | cons a as ih => exact and_congr (h s a) (forall₂_congr fun s' _ => ih s')

/-- Conditions that agree where the invariant holds, which the steps that meet the first one keep, are met
by the same runs. -/
theorem Meets.congr_of_invariant {I : σ → Prop} (hiff : ∀ {s a}, I s → (C s a ↔ D s a))
    (hstep : ∀ {s a s'}, I s → C s a → step s a = some s' → I s') (as : List α) {s : σ} (h : I s) :
    Meets step C s as ↔ Meets step D s as := by
  induction as generalizing s with
  | nil => rfl
  | cons a as ih =>
    constructor
    · exact fun ⟨hc, hm⟩ => ⟨(hiff h).1 hc, fun s' hs => (ih (hstep h hc hs)).1 (hm s' hs)⟩
    · intro ⟨hd, hm⟩
      have hc := (hiff h).2 hd
      exact ⟨hc, fun s' hs => (ih (hstep h hc hs)).2 (hm s' hs)⟩

theorem Reach.of_run {as : List α} (hr : run step s as = some s') (hm : Meets step C s as) :
    Reach step C s s' := by
  induction as generalizing s with
  | nil => cases hr; exact .init
  | cons a as ih =>
    obtain ⟨t, ht, hr⟩ := Option.bind_eq_some_iff.1 hr
    exact Reach.trans (.step .init hm.1 ht) (ih hr (hm.2 t ht))

/-- Where the states of a system, seen as another's, step as the other's do, so they run. -/
theorem run_map {τ : Type} {step' : τ → α → Option τ} (f : σ → τ)
    (hstep : ∀ s a, (step s a).map f = step' (f s) a) (as : List α) (s : σ) :
    (run step s as).map f = run step' (f s) as := by
  induction as generalizing s with
  | nil => rfl
  | cons a as ih =>
    show ((step s a).bind (run step · as)).map f = (step' (f s) a).bind (run step' · as)
    rw [← hstep]
    cases step s a with
    | none => rfl
    | some t => exact ih t

theorem run_append (as bs : List α) : run step s₀ (as ++ bs) = (run step s₀ as).bind (run step · bs) := by
  induction as generalizing s₀ with
  | nil => rfl
  | cons a as ih =>
    show (step s₀ a).bind (run step · (as ++ bs)) = ((step s₀ a).bind (run step · as)).bind _
    cases step s₀ a with
    | none => rfl
    | some t => exact ih

/-- The invariant rule for what holds of a state and the actions that led to it. -/
theorem run_invariant {I : List α → σ → Prop} (h0 : I [] s₀)
    (hstep : ∀ {as s a s'}, run step s₀ as = some s → I as s → step s a = some s' → I (as ++ [a]) s')
    {as : List α} (h : run step s₀ as = some s) : I as s := by
  induction as using List.reverseRecOn generalizing s with
  | nil => cases h; exact h0
  | append_singleton as a ih =>
    rw [run_append] at h
    obtain ⟨t, ht, h⟩ := Option.bind_eq_some_iff.1 h
    obtain ⟨s', hs', h⟩ := Option.bind_eq_some_iff.1 h
    cases h
    exact hstep ht (ih ht) hs'

/-- When every action puts what it gives out at the end of a list of the state, a run gives out the list. -/
theorem run_log {β : Type} (log : σ → List β) (out : α → Option β) (h0 : log s₀ = [])
    (hstep : ∀ {s a s'}, step s a = some s' → log s' = log s ++ (out a).toList)
    {as : List α} (h : run step s₀ as = some s) : log s = as.filterMap out := by
  refine run_invariant (I := fun as s => log s = as.filterMap out) h0 ?_ h
  intro as s a s' _ ih hs
  rw [hstep hs, ih, List.filterMap_append]
  congr 1

end Lts
