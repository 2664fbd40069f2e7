/-!
# Hash functions over a stream

A hash is computed piece by piece in a context, and where the pieces are cut does not matter. Its length is
fixed, so that what stands behind it in a message can be told from it (`hash_append_inj`).
-/

structure Digest (α : Type) where
  Context : Type
  new : Context
  update : Context → List α → Context
  finish : Context → List α
  length : Nat
  update_update : ∀ c a b, update (update c a) b = update c (a ++ b)
  length_finish : ∀ c, (finish c).length = length

namespace Digest
variable {α : Type} (D : Digest α)

/-- The hash of a message in one piece. -/
def hash (message : List α) : List α := D.finish (D.update D.new message)

theorem length_hash (message : List α) : (D.hash message).length = D.length := D.length_finish _

theorem hash_append_inj {a b s t : List α} (h : D.hash a ++ s = D.hash b ++ t) : D.hash a = D.hash b ∧ s = t :=
  List.append_inj h (by rw [length_hash, length_hash])

end Digest
