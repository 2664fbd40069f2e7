import Mathlib.Data.Nat.Bitwise

/-!
# Numbers in groups of seven bits

A number is written lowest group first, one group a byte; the top bit of a byte says that another byte
follows. No number's form is a proper beginning of another's (`Encoded.eq_of_append_eq`), and `encode` is
the shortest (`Encoded.length_encode_le`).
-/

namespace Leb128

/-- Every byte but the last has its top bit set. -/
inductive Encoded : List UInt8 → Prop where
  | last {b : UInt8} (h : b.toNat < 128) : Encoded [b]
  | more {b : UInt8} {w : List UInt8} (h : 128 ≤ b.toNat) (h' : Encoded w) : Encoded (b :: w)

/-- The number of the groups. -/
def value : List UInt8 → Nat
  | [] => 0
  | b :: w => b.toNat % 128 + 128 * value w

theorem Encoded.length_pos {w : List UInt8} (h : Encoded w) : 0 < w.length := by
  cases h <;> exact Nat.succ_pos _

theorem Encoded.eq_of_append_eq {v w s t : List UInt8} (hv : Encoded v) (hw : Encoded w)
    (h : v ++ s = w ++ t) : v = w := by
  induction hv generalizing w with
  | last hb =>
    cases hw with
    | last _ => rw [(List.cons.inj h).1]
    | more hb' _ =>
      have := (List.cons.inj h).1 ▸ hb'
      omega
  | more hb _ ih =>
    cases hw with
    | last hb' =>
      have := (List.cons.inj h).1 ▸ hb
      omega
    | more _ hw =>
      obtain ⟨rfl, hrest⟩ := List.cons.inj h
      rw [ih hw hrest]

/-- A form ends in a byte without the top bit. -/
theorem Encoded.exists_lt {w : List UInt8} (h : Encoded w) : ∃ b ∈ w, b.toNat < 128 := by
  induction h with
  | last hb => exact ⟨_, List.mem_singleton_self _, hb⟩
  | more _ _ ih =>
    obtain ⟨b, hmem, hb⟩ := ih
    exact ⟨b, List.mem_cons_of_mem _ hmem, hb⟩

/-- A form that is not whole has the top bit everywhere. -/
theorem Encoded.le_of_prefix {w q : List UInt8} (h : Encoded w) (hq : q <+: w) (hne : q ≠ w) :
    ∀ b ∈ q, 128 ≤ b.toNat := by
  induction h generalizing q with
  | last _ =>
    rcases List.prefix_cons_iff.1 hq with rfl | ⟨t, rfl, ht⟩
    · exact fun b hb => absurd hb List.not_mem_nil
    · exact absurd (by rw [List.prefix_nil.1 ht]) hne
  | more hb _ ih =>
    rcases List.prefix_cons_iff.1 hq with rfl | ⟨t, rfl, ht⟩
    · exact fun b hb => absurd hb List.not_mem_nil
    · exact List.forall_mem_cons.2 ⟨hb, ih ht fun he => hne (by rw [he])⟩

/-- Bytes start with a form of at most `n` of them, or the first `n` all have the top bit. -/
theorem exists_encoded_or (n : Nat) (s : List UInt8) :
    (∃ w t, s = w ++ t ∧ Encoded w ∧ w.length ≤ n) ∨ ∀ b ∈ s.take n, 128 ≤ b.toNat := by
  induction n generalizing s with
  | zero => exact .inr fun b hb => absurd hb (by simp)
  | succ n ih =>
    cases s with
    | nil => exact .inr fun b hb => absurd hb (by simp)
    | cons b s =>
      by_cases hb : b.toNat < 128
      · exact .inl ⟨[b], s, rfl, .last hb, by simp⟩
      · rcases ih s with ⟨w, t, rfl, hw, hlen⟩ | hall
        · exact .inl ⟨b :: w, t, rfl, .more (by omega) hw, by rw [List.length_cons]; omega⟩
        · rw [List.take_succ_cons]
          exact .inr (List.forall_mem_cons.2 ⟨by omega, hall⟩)

/-! ### The shortest form -/

/-- The groups of `n`, at most `k` of them. -/
def encode : (k n : Nat) → List UInt8
  | 0, _ => []
  | k + 1, n => if n < 128 then [UInt8.ofNat n] else UInt8.ofNat (n % 128 + 128) :: encode k (n / 128)

theorem toNat_group (n : Nat) : (UInt8.ofNat (n % 128 + 128)).toNat = n % 128 + 128 := by
  rw [UInt8.toNat_ofNat']
  omega

theorem div_lt {k n : Nat} (h : n < 128 ^ (k + 1)) : n / 128 < 128 ^ k := by
  rw [Nat.pow_succ] at h
  omega

theorem encoded_encode {k n : Nat} (h : n < 128 ^ (k + 1)) : Encoded (encode (k + 1) n) := by
  induction k generalizing n with
  | zero =>
    rw [encode, if_pos (by simpa using h)]
    exact .last (by rw [UInt8.toNat_ofNat']; omega)
  | succ k ih =>
    rw [encode]
    split
    · exact .last (by rw [UInt8.toNat_ofNat']; omega)
    · exact .more (by rw [toNat_group]; omega) (ih (div_lt h))

theorem value_encode {k n : Nat} (h : n < 128 ^ k) : value (encode k n) = n := by
  induction k generalizing n with
  | zero =>
    rw [Nat.pow_zero] at h
    rw [encode, value]
    omega
  | succ k ih =>
    rw [encode]
    split
    · next hn =>
      rw [value, value, UInt8.toNat_ofNat']
      omega
    · rw [value, ih (div_lt h), toNat_group]
      omega

theorem length_encode_le (k n : Nat) : (encode k n).length ≤ k := by
  induction k generalizing n with
  | zero => exact Nat.le_refl 0
  | succ k ih =>
    rw [encode]
    split
    · exact Nat.succ_le_succ (Nat.zero_le k)
    · exact Nat.succ_le_succ (ih _)

/-- No form of the number, or of a larger one, is shorter. -/
theorem Encoded.length_encode_le {w : List UInt8} (hw : Encoded w) {n : Nat} (hn : n ≤ value w) (k : Nat) :
    (encode k n).length ≤ w.length := by
  induction hw generalizing n k with
  | last hb =>
    rw [value, value] at hn
    cases k with
    | zero => exact Nat.zero_le _
    | succ k =>
      rw [encode, if_pos (by omega)]
      exact Nat.le_refl 1
  | more _ _ ih =>
    rw [value] at hn
    cases k with
    | zero => exact Nat.zero_le _
    | succ k =>
      rw [encode]
      split
      · exact Nat.succ_le_succ (Nat.zero_le _)
      · exact Nat.succ_le_succ (ih (by omega) k)

/-! ### The bit operations on bytes and words -/

theorem toNat_and_127 (b : UInt8) : (b &&& 0x7F).toNat = b.toNat % 128 := by
  have h : (0x7F : UInt8).toNat = 2 ^ 7 - 1 := rfl
  rw [UInt8.toNat_and, h, Nat.and_two_pow_sub_one_eq_mod]

theorem and_128_eq_zero (b : UInt8) : (b &&& 0x80 == 0) = decide (b.toNat < 128) := by
  have h : (0x80 : UInt8).toNat = 2 ^ 7 := rfl
  have hb := b.toNat_lt
  rw [Bool.eq_iff_iff, beq_iff_eq, decide_eq_true_iff, ← UInt8.toNat_inj, UInt8.toNat_and, h,
    Nat.land_comm, Nat.two_pow_and, Nat.toNat_testBit, UInt8.toNat_zero]
  omega

/-- A group goes on top of the bits below it. -/
theorem or_shl {m : Nat} (b : UInt8) {k : Nat} (hk : k ≤ 4) (hm : m < 2 ^ (7 * k)) :
    Int32.ofNat m ||| (b &&& 0x7F).toUInt32.toInt32 <<< Int32.ofNat (7 * k) =
      Int32.ofNat (m + 2 ^ (7 * k) * (b.toNat % 128)) := by
  have hsh : ((Int32.ofNat (7 * k)).toBitVec.smod 32).toNat = 7 * k := by
    obtain rfl | rfl | rfl | rfl | rfl : k = 0 ∨ k = 1 ∨ k = 2 ∨ k = 3 ∨ k = 4 := by omega
    all_goals rfl
  have hpow : 2 ^ 32 = 2 ^ (32 - 7 * k) * 2 ^ (7 * k) := by
    rw [← Nat.pow_add]
    congr 1
    omega
  have hle : 2 ^ (7 * k) ≤ 2 ^ 28 := Nat.pow_le_pow_right (by omega) (by omega)
  have hor := Nat.two_pow_add_eq_or_of_lt hm (b.toNat % 128 % 2 ^ (32 - 7 * k))
  apply Int32.toBitVec_inj.1
  apply BitVec.eq_of_toNat_eq
  have hb : (b &&& 0x7F).toUInt32.toInt32.toBitVec.toNat = b.toNat % 128 := by
    rw [← toNat_and_127]; rfl
  rw [Int32.toBitVec_or, Int32.toBitVec_shiftLeft, BitVec.toNat_or, BitVec.shiftLeft_eq', hsh,
    BitVec.toNat_shiftLeft, hb, Nat.shiftLeft_eq, hpow, Nat.mul_mod_mul_right,
    Nat.mul_comm _ (2 ^ (7 * k)), Nat.or_comm]
  have hm32 : (Int32.ofNat m).toBitVec.toNat = m := by
    show m % 2 ^ 32 = m
    omega
  rw [hm32, ← hor]
  show _ = (m + 2 ^ (7 * k) * (b.toNat % 128)) % 2 ^ 32
  rw [hpow, Nat.mul_comm (2 ^ (32 - 7 * k)), Nat.mod_mul, Nat.add_mul_mod_self_left,
    Nat.mod_eq_of_lt hm, Nat.add_mul_div_left _ _ (Nat.two_pow_pos _), Nat.div_eq_of_lt hm,
    Nat.zero_add, Nat.add_comm]

theorem testBit_not_127 : ∀ i < 32, (~~~(0x7F : UInt32)).toNat.testBit i = decide (7 ≤ i) := by decide

theorem and_not_127_eq_zero (v : Int32) : (v &&& ~~~0x7F == 0) = decide (v.toUInt32.toNat < 128) := by
  have hv := v.toUInt32.toNat_lt
  have hword : v &&& ~~~0x7F = 0 ↔ v.toUInt32 &&& ~~~0x7F = 0 :=
    ⟨congrArg Int32.toUInt32, fun h => Int32.toBitVec_inj.1 (congrArg UInt32.toBitVec h)⟩
  rw [Bool.eq_iff_iff, beq_iff_eq, decide_eq_true_iff, hword, ← UInt32.toNat_inj, UInt32.toNat_and]
  constructor
  · intro h
    refine Nat.lt_pow_two_of_testBit (n := 7) _ fun i hi => ?_
    by_cases h32 : i < 32
    · have hbit : (v.toUInt32.toNat &&& (~~~(0x7F : UInt32)).toNat).testBit i = false := by
        rw [h]
        exact Nat.zero_testBit i
      rwa [Nat.testBit_and, testBit_not_127 i h32, decide_eq_true hi, Bool.and_true] at hbit
    · exact Nat.testBit_lt_two_pow (Nat.lt_of_lt_of_le hv (Nat.pow_le_pow_right (by decide) (by omega)))
  · intro h
    refine Nat.eq_of_testBit_eq fun i => ?_
    have hlow : v.toUInt32.toNat < 2 ^ i ∨ i < 7 := by
      by_cases hi : i < 7
      · exact .inr hi
      · exact .inl (Nat.lt_of_lt_of_le h (Nat.pow_le_pow_right (n := 2) (i := 7) (by decide) (by omega)))
    rw [Nat.testBit_and, UInt32.toNat_zero, Nat.zero_testBit]
    rcases hlow with hlt | hi
    · rw [Nat.testBit_lt_two_pow hlt, Bool.false_and]
    · rw [testBit_not_127 i (by omega), decide_eq_false (by omega), Bool.and_false]

theorem toNat_shr_7 (v : Int32) : (v.toUInt32 >>> 7).toInt32.toUInt32.toNat = v.toUInt32.toNat / 128 := by
  show (v.toUInt32 >>> 7).toNat = _
  rw [UInt32.toNat_shiftRight]
  exact Nat.shiftRight_eq_div_pow _ 7

/-- The byte of a group that is not the last. -/
theorem toUInt8_group (v : Int32) :
    (v &&& 0x7F).toUInt32.toUInt8 ||| 0x80 = UInt8.ofNat (v.toUInt32.toNat % 128 + 128) := by
  have hand : (v &&& 0x7F).toUInt32.toUInt8.toNat = v.toUInt32.toNat % 128 := by
    show (v.toUInt32 &&& 0x7F).toUInt8.toNat = _
    rw [UInt32.toNat_toUInt8, UInt32.toNat_and, show (0x7F : UInt32).toNat = 2 ^ 7 - 1 from rfl,
      Nat.and_two_pow_sub_one_eq_mod]
    omega
  have hor := Nat.two_pow_add_eq_or_of_lt (i := 7) (show v.toUInt32.toNat % 128 < 2 ^ 7 by omega) 1
  rw [← UInt8.toNat_inj, UInt8.toNat_or, hand, UInt8.toNat_ofNat', show (0x80 : UInt8).toNat = 2 ^ 7 * 1 from rfl,
    Nat.or_comm, ← hor]
  omega

end Leb128
