import Mathlib.Data.List.Basic

/-!
# Monitors over a queue of messages

A monitor reads messages in order; what it has read decides which message may come next. A queue whose
messages a monitor accepts stays accepted when the first message is taken off, and when one is put behind
it that the monitor would take after all the others.
-/

structure Monitor (κ α : Type) where
  next : κ → α → κ
  ok : κ → α → Prop

namespace Monitor
variable {κ α : Type} (m : Monitor κ α)

/-- The monitor's state after the messages. -/
def final (k : κ) (l : List α) : κ := l.foldl m.next k

/-- Every message is one that may come where it does. -/
def Accepts (k : κ) : List α → Prop
  | [] => True
  | x :: l => m.ok k x ∧ Accepts (m.next k x) l

instance decidableAccepts [∀ k x, Decidable (m.ok k x)] : ∀ l k, Decidable (m.Accepts k l)
  | [], _ => isTrue trivial
  | x :: l, k =>
    have := decidableAccepts l (m.next k x)
    inferInstanceAs (Decidable (m.ok k x ∧ m.Accepts (m.next k x) l))

@[simp] theorem final_nil (k : κ) : m.final k [] = k := rfl

@[simp] theorem final_cons (k : κ) (x : α) (l : List α) :
    m.final k (x :: l) = m.final (m.next k x) l := rfl

@[simp] theorem final_append (k : κ) (l l' : List α) :
    m.final k (l ++ l') = m.final (m.final k l) l' := List.foldl_append

theorem accepts_append {k : κ} {l l' : List α} :
    m.Accepts k (l ++ l') ↔ m.Accepts k l ∧ m.Accepts (m.final k l) l' := by
  induction l generalizing k with
  | nil => simp [Accepts]
  | cons x l ih => simp [Accepts, ih, and_assoc]

theorem accepts_concat {k : κ} {l : List α} {x : α} :
    m.Accepts k (l ++ [x]) ↔ m.Accepts k l ∧ m.ok (m.final k l) x := by
  rw [accepts_append]
  simp [Accepts]

theorem Accepts.left {m : Monitor κ α} {k : κ} {l l' : List α} (h : m.Accepts k (l ++ l')) : m.Accepts k l :=
  (m.accepts_append.1 h).1

end Monitor
