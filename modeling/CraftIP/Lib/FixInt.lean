import Mathlib.Data.List.Basic
import Mathlib.Algebra.Group.Nat.Defs
import CraftIP.Lib.Unicode

/-!
# Fixed-width little-endian fields

The fields of a binary format with fixed-width little-endian integers, byte arrays of known length and
strings behind a 64-bit length. Every `get` reads back what its `put` wrote and leaves what follows (`.._append`), and reads nothing else
(`.._eq_some`).
-/

namespace FixInt

/-- The `n` little-endian bytes of `x`. -/
def le : Nat → Nat → List UInt8
  | 0, _ => []
  | n + 1, x => UInt8.ofNat x :: le n (x / 256)

def ofLe : List UInt8 → Nat
  | [] => 0
  | b :: bs => b.toNat + 256 * ofLe bs

@[simp] theorem length_le (n x : Nat) : (le n x).length = n := by
  induction n generalizing x with
  | zero => rfl
  | succ n ih => simp [le, ih]

theorem ofLe_le {n x : Nat} (h : x < 256 ^ n) : ofLe (le n x) = x := by
  induction n generalizing x with
  | zero => simp only [Nat.pow_zero] at h; simp only [le, ofLe]; omega
  | succ n ih =>
    rw [Nat.pow_succ] at h
    rw [le, ofLe, ih (by omega), UInt8.toNat_ofNat']
    omega

theorem ofLe_lt (b : List UInt8) : ofLe b < 256 ^ b.length := by
  induction b with
  | nil => exact Nat.one_pos
  | cons b bs ih =>
    have hb := b.toNat_lt
    rw [ofLe, List.length_cons, Nat.pow_succ]
    omega

theorem le_ofLe (b : List UInt8) : le b.length (ofLe b) = b := by
  induction b with
  | nil => rfl
  | cons b bs ih =>
    have hb := b.toNat_lt
    have hlow : UInt8.ofNat (b.toNat + 256 * ofLe bs) = b := by
      rw [← UInt8.toNat_inj, UInt8.toNat_ofNat']
      omega
    have hrest : (b.toNat + 256 * ofLe bs) / 256 = ofLe bs := by omega
    rw [List.length_cons, ofLe, le, hlow, hrest, ih]

/-- A reader takes a value off the front or fails. -/
abbrev Get (α : Type) := List UInt8 → Option (α × List UInt8)

def getLe (n : Nat) : Get Nat := fun b =>
  if n ≤ b.length then some (ofLe (b.take n), b.drop n) else none

theorem getLe_append {n x : Nat} (h : x < 256 ^ n) (b : List UInt8) :
    getLe n (le n x ++ b) = some (x, b) := by
  rw [getLe, if_pos (by simp), List.take_left' (length_le n x), List.drop_left' (length_le n x),
    ofLe_le h]

theorem getLe_eq_some {n x : Nat} {b r : List UInt8} (h : getLe n b = some (x, r)) :
    b = le n x ++ r ∧ x < 256 ^ n := by
  rw [getLe] at h
  split at h
  · next hn =>
    cases h
    have hlen := List.length_take_of_le hn
    have hle := le_ofLe (b.take n)
    have hlt := ofLe_lt (b.take n)
    rw [hlen] at hle hlt
    exact ⟨by rw [hle, List.take_append_drop], hlt⟩
  · cases h

/-- A value that is made of a word is in the buffer as the word. -/
theorem map_getLe_eq_some {α : Type} {n : Nat} {f : Nat → α} {g : α → Nat} (hgf : ∀ m < 256 ^ n, g (f m) = m)
    {x : α} {b r : List UInt8} (h : (getLe n b).map (fun (m, b) => (f m, b)) = some (x, r)) :
    b = le n (g x) ++ r := by
  obtain ⟨⟨m, b'⟩, hm, he⟩ := Option.map_eq_some_iff.1 h
  cases he
  obtain ⟨hb, hlt⟩ := getLe_eq_some hm
  rw [hgf m hlt, hb]

def getArray (n : Nat) : Get (Vector UInt8 n) := fun b =>
  if h : n ≤ b.length then some (⟨(b.take n).toArray, by simp [h]⟩, b.drop n) else none

theorem getArray_append {n : Nat} (v : Vector UInt8 n) (b : List UInt8) :
    getArray n (v.toList ++ b) = some (v, b) := by
  have hl : v.toList.length = n := v.length_toList
  rw [getArray, dif_pos (by simp [hl])]
  congr 2
  · apply Vector.toArray_inj.1
    show (List.take n (v.toList ++ b)).toArray = v.toArray
    rw [List.take_left' hl]
    exact v.toArray.toArray_toList
  · exact List.drop_left' hl

theorem getArray_eq_some {n : Nat} {v : Vector UInt8 n} {b r : List UInt8} (h : getArray n b = some (v, r)) :
    b = v.toList ++ r := by
  rw [getArray] at h
  split at h
  · cases h
    exact (List.take_append_drop n b).symm
  · cases h

/-- Bytes behind their length. No machine holds more than `2 ^ 64` of them. -/
def putBytes (b : List UInt8) : Option (List UInt8) :=
  if b.length < 256 ^ 8 then some (le 8 b.length ++ b) else none

def getBytes : Get (List UInt8) := fun b =>
  match getLe 8 b with
  | none => none
  | some (n, b) => if n ≤ b.length then some (b.take n, b.drop n) else none

theorem getBytes_append {s bs : List UInt8} (h : putBytes s = some bs) (b : List UInt8) :
    getBytes (bs ++ b) = some (s, b) := by
  rw [putBytes] at h
  split at h
  · next hlt =>
    cases h
    rw [List.append_assoc, getBytes, getLe_append hlt]
    simp
  · cases h

theorem getBytes_eq_some {s b r : List UInt8} (h : getBytes b = some (s, r)) :
    ∃ w, putBytes s = some w ∧ b = w ++ r := by
  rw [getBytes] at h
  split at h
  · cases h
  · next n b' hn =>
    obtain ⟨rfl, hlt⟩ := getLe_eq_some hn
    split at h
    · next hle =>
      cases h
      have hlen := List.length_take_of_le hle
      refine ⟨le 8 n ++ b'.take n, ?_, ?_⟩
      · rw [putBytes, hlen, if_pos hlt]
      · rw [List.append_assoc, List.take_append_drop]
    · cases h

def putString (s : String) : Option (List UInt8) := putBytes (Unicode.utf8 s)

def getString : Get String := fun b =>
  match getBytes b with
  | none => none
  | some (s, b) => (Unicode.fromUtf8 s).map (·, b)

theorem getString_append {s : String} {bs : List UInt8} (h : putString s = some bs) (b : List UInt8) :
    getString (bs ++ b) = some (s, b) := by
  rw [getString, getBytes_append h]
  simp

theorem getString_eq_some {s : String} {b r : List UInt8} (h : getString b = some (s, r)) :
    ∃ w, putString s = some w ∧ b = w ++ r := by
  rw [getString] at h
  split at h
  · cases h
  · next l b' hbytes =>
    obtain ⟨t, ht, he⟩ := Option.map_eq_some_iff.1 h
    cases he
    obtain rfl := (Unicode.fromUtf8_eq_some_iff _ _).1 ht
    exact getBytes_eq_some hbytes

end FixInt
