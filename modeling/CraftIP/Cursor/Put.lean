import CraftIP.Cursor.Strings

/-!
# Writing varints and strings (`CustomCursorWrite`)

The writer shifts the bits of a number out as an unsigned word, so that a negative one takes five bytes. What
it writes is the shortest of the forms that the reader takes for the number (`Varint.length_varint_le`). A
string is read back as long as its length fits 31 bits.
-/

namespace CraftIP
open ByteBuf Unicode Incremental

namespace Cursor

/-- The loop of `put_varint` with `n` rounds to go. -/
def putVarintLoop : (n : Nat) → (value : Int32) → (buf : List UInt8) → List UInt8
  | 0, _, buf => buf
  | n + 1, value, buf =>
    if value &&& ~~~0x7F == 0 then buf ++ [value.toUInt32.toUInt8]
    else putVarintLoop n (value.toUInt32 >>> 7).toInt32 (buf ++ [(value &&& 0x7F).toUInt32.toUInt8 ||| 0x80])

/-- `put_varint`: the bytes go behind what was written before, wherever the cursor is. -/
def putVarint (value : Int32) (buf : List UInt8) : List UInt8 := putVarintLoop 5 value buf

/-- `put_utf8_string`: the length is cast to 32 bits unchecked. -/
def putUtf8String (string : String) (buf : List UInt8) : List UInt8 :=
  putVarint (Int32.ofNat (utf8 string).length) buf ++ utf8 string

theorem putVarintLoop_eq (n : Nat) (v : Int32) (buf : List UInt8) :
    putVarintLoop n v buf = buf ++ Leb128.encode n v.toUInt32.toNat := by
  induction n generalizing v buf with
  | zero => exact (List.append_nil buf).symm
  | succ n ih =>
    rw [putVarintLoop, Leb128.encode, Leb128.and_not_127_eq_zero]
    by_cases h : v.toUInt32.toNat < 128
    · have hbyte : v.toUInt32.toUInt8 = UInt8.ofNat v.toUInt32.toNat := by
        rw [← UInt8.toNat_inj, UInt32.toNat_toUInt8, UInt8.toNat_ofNat']
      rw [if_pos (decide_eq_true h), if_pos h, hbyte]
    · rw [if_neg (by rw [decide_eq_false h]; exact Bool.false_ne_true), if_neg h, ih, Leb128.toNat_shr_7,
        Leb128.toUInt8_group, List.append_assoc, List.singleton_append]

/-- The bytes of a varint. -/
def varint (v : Int32) : List UInt8 := putVarint v []

theorem putVarint_eq (v : Int32) (buf : List UInt8) : putVarint v buf = buf ++ varint v := by
  rw [varint, putVarint, putVarint, putVarintLoop_eq, putVarintLoop_eq, List.nil_append]

theorem varint_eq (v : Int32) : varint v = Leb128.encode 5 v.toUInt32.toNat := by
  rw [varint, putVarint, putVarintLoop_eq, List.nil_append]

theorem toNat_lt_groups (v : Int32) : v.toUInt32.toNat < 128 ^ 5 :=
  Nat.lt_trans v.toUInt32.toNat_lt (by decide)

theorem varint_varint (v : Int32) : Varint (varint v) v where
  encoded := by
    rw [varint_eq]
    exact Leb128.encoded_encode (toNat_lt_groups v)
  length_le := by
    rw [varint_eq]
    exact Leb128.length_encode_le 5 _
  value_eq := by
    rw [varint_eq, Leb128.value_encode (toNat_lt_groups v)]
    exact congrArg UInt32.toInt32 UInt32.ofNat_toNat.symm

end Cursor

namespace Varint

/-- No form that the reader takes for the number is shorter than the one that is written. -/
theorem length_varint_le {w : List UInt8} {v : Int32} (h : Varint w v) :
    (Cursor.varint v).length ≤ w.length := by
  have hv : v.toUInt32.toNat ≤ Leb128.value w := by
    rw [h.value_eq]
    exact (Nat.mod_le _ (2 ^ 32) : Leb128.value w % 2 ^ 32 ≤ _)
  rw [Cursor.varint_eq]
  exact h.encoded.length_encode_le hv 5

end Varint

namespace Parser
open Incremental.Parser Cursor

/-! ### Varints -/

/-- The loop finds no last byte. -/
theorem getVarintLoop_open {n k m : Nat} (hk : n + k = 5) (hm : m < 2 ^ (7 * k)) {i : Nat} {s : List UInt8}
    (h : ∀ b ∈ s.take n, 128 ≤ b.toNat) :
    getVarintLoop n (Int32.ofNat m) (Int32.ofNat (7 * k)) ⟨i, s⟩ =
      if s.length < n then .ok none else .err .notValid := by
  induction n generalizing k m i s with
  | zero => rfl
  | succ n ih =>
    cases s with
    | nil =>
      rw [List.length_nil, if_pos (Nat.succ_pos n), getVarintLoop, bind_none (need_short (Nat.succ_pos 0))]
    | cons b s =>
      rw [List.take_succ_cons, List.forall_mem_cons] at h
      rw [getVarintLoop_cons n (by omega) hm, if_neg (by omega), ih (by omega) (add_group_lt hm b) h.2,
        List.length_cons]
      simp only [Nat.succ_lt_succ_iff]

theorem getVarint_open {i : Nat} {s : List UInt8} (h : ∀ b ∈ s.take 5, 128 ≤ b.toNat) :
    getVarint ⟨i, s⟩ = if s.length < 5 then .ok none else .err .notValid :=
  getVarintLoop_open (k := 0) (m := 0) rfl Nat.one_pos h

/-- Either the reader finds a varint, or none of the first five bytes ends one. -/
theorem getVarint_cases (i : Nat) (b : List UInt8) :
    (∃ v w s, b = w ++ s ∧ Varint w v ∧ getVarint ⟨i, b⟩ = .ok (some (v, ⟨i + w.length, s⟩)) ∧
      ¬ ∀ x ∈ b.take 5, 128 ≤ x.toNat) ∨
    (∀ x ∈ b.take 5, 128 ≤ x.toNat) ∧
      getVarint ⟨i, b⟩ = if b.length < 5 then .ok none else .err .notValid := by
  rcases Leb128.exists_encoded_or 5 b with ⟨w, s, rfl, hw, hlen⟩ | hopen
  · have hv : Varint w (Int32.ofNat (Leb128.value w)) := ⟨hw, hlen, rfl⟩
    refine .inl ⟨_, w, s, rfl, hv, getVarint_append hv i s, fun hall => ?_⟩
    obtain ⟨x, hx, hlt⟩ := hw.exists_lt
    have hmem : x ∈ (w ++ s).take 5 := by
      rw [List.take_append, List.take_of_length_le hlen]
      exact List.mem_append_left _ hx
    exact absurd (hall x hmem) (by omega)
  · exact .inr ⟨hopen, getVarint_open hopen⟩

/-- Part of a varint is not enough. -/
theorem getVarint_part {w q : List UInt8} {v : Int32} (h : Varint w v) (hq : q <+: w) (hne : q ≠ w) (i : Nat) :
    getVarint ⟨i, q⟩ = .ok none := by
  have hlt : q.length < w.length := Nat.lt_of_le_of_ne hq.length_le fun he => hne (hq.eq_of_length he)
  have hlen := h.length_le
  rw [getVarint_open fun b hb => h.encoded.le_of_prefix hq hne b (List.mem_of_mem_take hb), if_pos (by omega)]

/-- Writer and reader of varints. A number takes one to five bytes, which are read back whatever follows, and of
which no smaller part is enough. Of any bytes the reader says that they are no varint if and only if the top
bits of the first five are set, and that more are needed if and only if there are fewer, all with the top bit
set; else it takes a number from no fewer bytes than the writer would need for it. -/
theorem varint_codec :
    (∀ (v : Int32) (i : Nat) (s : List UInt8),
      (1 ≤ (varint v).length ∧ (varint v).length ≤ 5) ∧
      getVarint ⟨i, varint v ++ s⟩ = .ok (some (v, ⟨i + (varint v).length, s⟩)) ∧
      ∀ q, q <+: varint v → q ≠ varint v → getVarint ⟨i, q⟩ = .ok none) ∧
    ∀ (i : Nat) (b : List UInt8),
      ((∃ e, getVarint ⟨i, b⟩ = .err e) ↔ 5 ≤ b.length ∧ ∀ x ∈ b.take 5, 128 ≤ x.toNat) ∧
      (getVarint ⟨i, b⟩ = .ok none ↔ b.length < 5 ∧ ∀ x ∈ b, 128 ≤ x.toNat) ∧
      ((∃ x ∈ b.take 5, x.toNat < 128) → ∃ v w s, b = w ++ s ∧
        getVarint ⟨i, b⟩ = .ok (some (v, ⟨i + w.length, s⟩)) ∧ (varint v).length ≤ w.length) := by
  constructor
  · intro v i s
    have hv := varint_varint v
    exact ⟨⟨hv.encoded.length_pos, hv.length_le⟩, getVarint_append hv i s,
      fun q hq hne => getVarint_part hv hq hne i⟩
  · intro i b
    have htake : b.length < 5 → b.take 5 = b := fun hlt => List.take_of_length_le (by omega)
    rcases getVarint_cases i b with ⟨v, w, s, rfl, hv, hget, hends⟩ | ⟨hopen, hget⟩
    · refine ⟨iff_of_false ?_ fun h => hends h.2, iff_of_false ?_ fun h => hends ?_,
        fun _ => ⟨v, w, s, rfl, hget, hv.length_varint_le⟩⟩
      · rintro ⟨e, he⟩
        rw [hget] at he
        cases he
      · intro he
        rw [hget] at he
        cases he
      · rw [htake h.1]
        exact h.2
    · refine ⟨?_, ?_, fun ⟨x, hx, hlt⟩ => absurd (hopen x hx) (by omega)⟩
      · rw [hget]
        split
        · next hlt => exact iff_of_false (fun ⟨e, he⟩ => by cases he) fun h => by omega
        · next hle => exact iff_of_true ⟨_, rfl⟩ ⟨by omega, hopen⟩
      · rw [hget]
        split
        · next hlt => exact iff_of_true rfl ⟨hlt, by rwa [htake hlt] at hopen⟩
        · next hle => exact iff_of_false (fun he => by cases he) fun h => hle h.1

/-- The number -1, and a part of it. -/
theorem varint_codec_negative :
    getVarint ⟨0, [0xFF, 0xFF, 0xFF, 0xFF, 0x0F, 7]⟩ = .ok (some (-1, ⟨5, [7]⟩)) ∧
      getVarint ⟨0, [0xFF, 0xFF]⟩ = .ok none := by
  have hv : varint (-1) = [0xFF, 0xFF, 0xFF, 0xFF, 0x0F] := by decide
  have h := varint_codec.1 (-1) 0 [7]
  rw [hv] at h
  exact ⟨h.2.1, h.2.2 [0xFF, 0xFF] (by decide) (by decide)⟩

/-! ### Strings -/

theorem toInt_ofNat {n : Nat} (h : n < 2147483648) : (Int32.ofNat n).toInt = n := by
  have hsize : (Int32.size : Int) = 4294967296 := rfl
  rw [Int32.toInt_ofNat', Int.bmod_eq_of_le] <;> omega

/-- A length of less than 31 bits is read back as it was. -/
theorem asUsize_ofNat {n : Nat} (h : n < 2147483648) : asUsize (Int32.ofNat n) = n := by
  have hint := toInt_ofNat h
  have he := @asUsize_of_nonneg (Int32.ofNat n) (by omega)
  omega

/-- The bytes of a string. -/
theorem putUtf8String_eq (t : String) (buf : List UInt8) :
    putUtf8String t buf = buf ++ (varint (Int32.ofNat (utf8 t).length) ++ utf8 t) := by
  rw [putUtf8String, putVarint_eq, List.append_assoc]

theorem utf8String_varint {t : String} (h : (utf8 t).length < 2147483648) :
    Utf8String (varint (Int32.ofNat (utf8 t).length)) (Int32.ofNat (utf8 t).length) t :=
  ⟨varint_varint _, asUsize_ofNat h⟩

/-- Part of a string is not enough. -/
theorem getUtf8String_part {w q : List UInt8} {size : Int32} {t : String} (h : Utf8String w size t)
    (hq : q <+: w ++ utf8 t) (hne : q ≠ w ++ utf8 t) (i : Nat) : getUtf8String ⟨i, q⟩ = .ok none := by
  rw [getUtf8String]
  by_cases hlt : q.length < w.length
  · have hpart : q <+: w := List.prefix_of_prefix_length_le hq (List.prefix_append w _) (by omega)
    have hne' : q ≠ w := by
      rintro rfl
      exact Nat.lt_irrefl _ hlt
    exact bind_none (getVarint_part h.varint hpart hne' i)
  · obtain ⟨r, rfl⟩ := List.prefix_of_prefix_length_le (List.prefix_append w (utf8 t)) hq (by omega)
    have hr : r <+: utf8 t := (List.prefix_append_right_inj w).1 hq
    have hshort : r.length < (utf8 t).length :=
      Nat.lt_of_le_of_ne hr.length_le fun he => hne (by rw [hr.eq_of_length he])
    rw [bind_some (getVarint_append h.varint i r)]
    simp only [h.size_eq]
    exact bind_none (need_short hshort)

end Parser
end CraftIP
