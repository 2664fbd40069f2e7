import CraftIP.Cursor

/-!
# Varints (`get_varint`)

`Varint w v`: the bytes `w` are a varint that `get_varint` reads as `v`. The parser reads exactly these
(`getVarint_append`, `getVarint_eq_ok`), and `v as usize` is `v` or larger than any buffer.
-/

namespace CraftIP
open ByteBuf Incremental

/-- At most five groups, the number cut to 32 bits. -/
structure Varint (w : List UInt8) (v : Int32) : Prop where
  encoded : Leb128.Encoded w
  length_le : w.length ≤ 5
  value_eq : v = Int32.ofNat (Leb128.value w)

namespace Varint

theorem eq_of_append_eq {v w s t : List UInt8} {a b : Int32} (hv : Varint v a) (hw : Varint w b)
    (h : v ++ s = w ++ t) : v = w ∧ a = b ∧ s = t := by
  obtain rfl := hv.encoded.eq_of_append_eq hw.encoded h
  exact ⟨rfl, by rw [hv.value_eq, hw.value_eq], List.append_cancel_left h⟩

end Varint

namespace Parser
open Incremental.Parser

theorem checkedShlI32_group (a : Int32) {k : Nat} (hk : k ≤ 4) :
    checkedShlI32 a (Int32.ofNat (7 * k)) = some (a <<< Int32.ofNat (7 * k)) := by
  obtain rfl | rfl | rfl | rfl | rfl : k = 0 ∨ k = 1 ∨ k = 2 ∨ k = 3 ∨ k = 4 := by omega
  all_goals exact if_pos (by decide)

theorem checkedAddI32_group {k : Nat} (hk : k ≤ 4) :
    checkedAddI32 (Int32.ofNat (7 * k)) 7 = some (Int32.ofNat (7 * (k + 1))) := by
  obtain rfl | rfl | rfl | rfl | rfl : k = 0 ∨ k = 1 ∨ k = 2 ∨ k = 3 ∨ k = 4 := by omega
  all_goals decide

/-- One round of the loop, `k` groups after the start. -/
theorem getVarintLoop_cons (n : Nat) {k m : Nat} (hk : k ≤ 4) (hm : m < 2 ^ (7 * k)) (i : Nat) (b : UInt8)
    (s : List UInt8) :
    getVarintLoop (n + 1) (Int32.ofNat m) (Int32.ofNat (7 * k)) ⟨i, b :: s⟩ =
      if b.toNat < 128 then
        .ok (some (Int32.ofNat (m + 2 ^ (7 * k) * (b.toNat % 128)), ⟨i + 1, s⟩))
      else
        getVarintLoop n (Int32.ofNat (m + 2 ^ (7 * k) * (b.toNat % 128))) (Int32.ofNat (7 * (k + 1)))
          ⟨i + 1, s⟩ := by
  rw [getVarintLoop, bind_some (need_apply (by simp)), bind_some (getU8_cons i b s),
    checkedShlI32_group _ hk, checked_some_bind, checkedAddI32_group hk,
    checked_some_bind, Leb128.or_shl b hk hm, Leb128.and_128_eq_zero]
  by_cases hb : b.toNat < 128
  · rw [if_pos (decide_eq_true hb), if_pos hb]
    rfl
  · rw [if_neg (by rw [decide_eq_false hb]; exact Bool.false_ne_true), if_neg hb]

theorem add_group_lt {k m : Nat} (hm : m < 2 ^ (7 * k)) (b : UInt8) :
    m + 2 ^ (7 * k) * (b.toNat % 128) < 2 ^ (7 * (k + 1)) := by
  have hle : 2 ^ (7 * k) * (b.toNat % 128) ≤ 2 ^ (7 * k) * 127 := Nat.mul_le_mul_left _ (by omega)
  have hpow : 2 ^ (7 * (k + 1)) = 2 ^ (7 * k) * 128 := by rw [Nat.mul_add, Nat.pow_add]
  omega

theorem add_group (k m : Nat) (b : UInt8) (w : List UInt8) :
    m + 2 ^ (7 * k) * (b.toNat % 128) + 2 ^ (7 * (k + 1)) * Leb128.value w =
      m + 2 ^ (7 * k) * Leb128.value (b :: w) := by
  have hpow : 2 ^ (7 * (k + 1)) = 2 ^ (7 * k) * 128 := by rw [Nat.mul_add, Nat.pow_add]
  rw [hpow, Leb128.value, Nat.mul_add, Nat.mul_assoc, Nat.add_assoc]

theorem getVarintLoop_append {w : List UInt8} (hw : Leb128.Encoded w) {n k m : Nat} (hn : w.length ≤ n)
    (hk : n + k = 5) (hm : m < 2 ^ (7 * k)) (i : Nat) (s : List UInt8) :
    getVarintLoop n (Int32.ofNat m) (Int32.ofNat (7 * k)) ⟨i, w ++ s⟩ =
      .ok (some (Int32.ofNat (m + 2 ^ (7 * k) * Leb128.value w), ⟨i + w.length, s⟩)) := by
  induction hw generalizing n k m i with
  | @last b hb =>
    obtain ⟨n, rfl⟩ : ∃ j, n = j + 1 := ⟨n - 1, by simp only [List.length_singleton] at hn; omega⟩
    rw [List.singleton_append, getVarintLoop_cons n (by omega) hm, if_pos hb, ← add_group]
    rfl
  | @more b w hb hw ih =>
    rw [List.length_cons] at hn
    obtain ⟨n, rfl⟩ : ∃ j, n = j + 1 := ⟨n - 1, by omega⟩
    rw [List.cons_append, getVarintLoop_cons n (by omega) hm, if_neg (by omega),
      ih (by omega) (by omega) (add_group_lt hm b), add_group, List.length_cons, Nat.add_assoc,
      Nat.add_comm 1]

theorem getVarintLoop_eq_ok {n k m : Nat} (hk : n + k = 5) (hm : m < 2 ^ (7 * k)) {c c' : Cursor}
    {v : Int32}
    (h : getVarintLoop n (Int32.ofNat m) (Int32.ofNat (7 * k)) c = .ok (some (v, c'))) :
    ∃ w, Leb128.Encoded w ∧ w.length ≤ n ∧ v = Int32.ofNat (m + 2 ^ (7 * k) * Leb128.value w) ∧
      Reads c w c' := by
  induction n generalizing k m c with
  | zero => cases h
  | succ n ih =>
    obtain ⟨i, _ | ⟨b, s⟩⟩ := c
    · rw [getVarintLoop, bind_none (need_short (by simp))] at h
      cases h
    · rw [getVarintLoop_cons n (by omega) hm] at h
      split at h
      · next hb =>
        cases h
        refine ⟨[b], .last hb, by simp, ?_, rfl, rfl⟩
        rw [← add_group]
        rfl
      · next hb =>
        obtain ⟨w, hw, hlen, hv, hr⟩ := ih (by omega) (add_group_lt hm b) h
        rw [add_group] at hv
        exact ⟨b :: w, .more (by omega) hw, by rw [List.length_cons]; omega, hv, hr.cons⟩

theorem getVarint_append {w : List UInt8} {v : Int32} (hw : Varint w v) (i : Nat) (s : List UInt8) :
    getVarint ⟨i, w ++ s⟩ = .ok (some (v, ⟨i + w.length, s⟩)) := by
  have h := getVarintLoop_append hw.encoded hw.length_le (k := 0) (m := 0) rfl (by decide) i s
  rw [Nat.mul_zero, Nat.pow_zero, Nat.one_mul, Nat.zero_add, ← hw.value_eq] at h
  exact h

theorem getVarint_eq_ok {c c' : Cursor} {v : Int32} (h : getVarint c = .ok (some (v, c'))) :
    ∃ w, Varint w v ∧ Reads c w c' := by
  obtain ⟨w, hw, hlen, hv, hr⟩ := getVarintLoop_eq_ok (k := 0) (m := 0) rfl (by decide) h
  rw [Nat.mul_zero, Nat.pow_zero, Nat.one_mul, Nat.zero_add] at hv
  exact ⟨w, ⟨hw, hlen, hv⟩, hr⟩

section
variable {W X : Prop}

theorem runs_getU8 {c : Cursor} (h : 1 ≤ c.rest.length) : Runs W X getU8 c := by
  obtain ⟨i, _ | ⟨b, s⟩⟩ := c
  · exact absurd h (by simp)
  · exact .of_ok (getU8_cons i b s) fun _ => rfl

theorem getU8_eq_ok {c c' : Cursor} {b : UInt8} (h : getU8 c = .ok (some (b, c'))) : Reads c [b] c' := by
  obtain ⟨i, _ | ⟨b', s⟩⟩ := c
  · cases h
  · cases h
    exact ⟨rfl, rfl⟩

theorem runs_getVarintLoop {n k : Nat} (hk : n + k = 5) (v : Int32) {c : Cursor}
    (h : c.rest.length < n → W) : Runs W X (getVarintLoop n v (Int32.ofNat (7 * k))) c := by
  induction n generalizing k v c with
  | zero => exact .fail _ c
  | succ n ih =>
    rw [getVarintLoop]
    refine .need_bind (fun hlt => h (by omega)) fun hlen => ?_
    refine .bind (runs_getU8 hlen) fun b c₂ h₂ => ?_
    have hr := (getU8_eq_ok h₂).length_rest
    rw [List.length_singleton] at hr
    rw [checkedShlI32_group _ (by omega), checkedAddI32_group (by omega), checked_some_bind,
      checked_some_bind]
    exact .ite (fun _ => .pure _ _) fun _ => ih (by omega) _ fun hlt => h (by omega)

/-- Only fewer than five bytes leave a varint open. -/
theorem runs_getVarint {c : Cursor} (h : c.rest.length < 5 → W) : Runs W X getVarint c :=
  runs_getVarintLoop (k := 0) rfl 0 h

end

/-! ### `v as usize` -/

theorem asUsize_eq (v : Int32) :
    (asUsize v : Int) = if 0 ≤ v.toInt then v.toInt else v.toInt + 18446744073709551616 := by
  have h := Int64.toInt_toBitVec v.toInt64
  rw [Int32.toInt_toInt64, BitVec.toInt_eq_toNat_cond] at h
  have hlt : v.toInt64.toBitVec.toNat < 2 ^ 64 := v.toInt64.toBitVec.isLt
  have hv := v.toInt_lt
  have hv' := v.le_toInt
  show ((v.toInt64.toBitVec.toNat : Nat) : Int) = _
  split at h <;> split <;> omega

theorem asUsize_le (v : Int32) : asUsize v ≤ USIZE_MAX := by
  have h := v.toInt64.toUInt64.toNat_lt
  simp only [asUsize, USIZE_MAX]
  omega

theorem asUsize_of_nonneg {v : Int32} (h : 0 ≤ v.toInt) : (asUsize v : Int) = v.toInt := by
  rw [asUsize_eq, if_pos h]

theorem asUsize_lt {v : Int32} (h : 0 ≤ v.toInt) : asUsize v < 2147483648 := by
  have he := asUsize_of_nonneg h
  have hv := v.toInt_lt
  omega

/-- A negative size is larger than any buffer. -/
theorem asUsize_of_neg {v : Int32} (h : v.toInt < 0) : ISIZE_MAX + 2147483648 < asUsize v := by
  have he := asUsize_eq v
  have hv := v.le_toInt
  rw [if_neg (by omega)] at he
  simp only [ISIZE_MAX]
  omega

end Parser
end CraftIP
