import Mathlib.Data.List.Basic

/-!
# UTF-8 and UTF-16

Strings against lists of UTF-8 bytes and of UTF-16 code units. A decoder is the partial inverse of its
encoder: it accepts exactly the encodings (`fromUtf8_eq_some_iff`, `decodeUtf16_eq_some_iff`).
-/

namespace Unicode

/-! ### UTF-8 -/

def utf8 (s : String) : List UInt8 := s.toByteArray.data.toList

def fromUtf8 (b : List UInt8) : Option String := String.fromUTF8? b.toByteArray

theorem toByteArray_utf8 (s : String) : (utf8 s).toByteArray = s.toByteArray := by
  apply ByteArray.ext
  rw [List.data_toByteArray, utf8, Array.toArray_toList]

theorem utf8_ofByteArray (b : List UInt8) (h : b.toByteArray.IsValidUTF8) :
    utf8 (String.fromUTF8 b.toByteArray h) = b := by
  rw [utf8, String.fromUTF8, List.toList_data_toByteArray]

theorem fromUtf8_eq_some_iff (b : List UInt8) (s : String) : fromUtf8 b = some s ↔ b = utf8 s := by
  rw [fromUtf8, String.fromUTF8?]
  constructor
  · intro h
    split at h
    · next hv =>
      obtain rfl := Option.some.inj h
      exact (utf8_ofByteArray b hv).symm
    · cases h
  · rintro rfl
    have hv : (utf8 s).toByteArray.IsValidUTF8 := toByteArray_utf8 s ▸ s.isValidUTF8
    rw [dif_pos hv, Option.some.injEq, ← String.toByteArray_inj]
    exact toByteArray_utf8 s

@[simp] theorem fromUtf8_utf8 (s : String) : fromUtf8 (utf8 s) = some s :=
  (fromUtf8_eq_some_iff _ _).2 rfl

@[simp] theorem length_utf8 (s : String) : (utf8 s).length = s.utf8ByteSize := by
  rw [utf8, Array.length_toList]; rfl

theorem utf8_append (s t : String) : utf8 (s ++ t) = utf8 s ++ utf8 t := by
  simp [utf8]

/-! ### UTF-16 -/

/-- The code units of a character: one below `0x10000`, else a surrogate pair. -/
def utf16Char (c : Char) : List UInt16 :=
  if c.toNat < 0x10000 then [UInt16.ofNat c.toNat]
  else
    [UInt16.ofNat (0xD800 + (c.toNat - 0x10000) / 0x400),
      UInt16.ofNat (0xDC00 + (c.toNat - 0x10000) % 0x400)]

def utf16 (cs : List Char) : List UInt16 := cs.flatMap utf16Char

/-- The characters of a list of code units; a surrogate that is not part of a pair is an error. -/
def decodeUtf16 : List UInt16 → Option (List Char)
  | [] => some []
  | u :: rest =>
    if u.toNat < 0xD800 ∨ 0xE000 ≤ u.toNat then (decodeUtf16 rest).map (Char.ofNat u.toNat :: ·)
    else if 0xDC00 ≤ u.toNat then none
    else
      match rest with
      | [] => none
      | v :: rest =>
        if v.toNat < 0xDC00 ∨ 0xE000 ≤ v.toNat then none
        else
          (decodeUtf16 rest).map
            (Char.ofNat (0x10000 + (u.toNat - 0xD800) * 0x400 + (v.toNat - 0xDC00)) :: ·)

theorem toNat_valid (c : Char) : c.toNat < 0xD800 ∨ (0xDFFF < c.toNat ∧ c.toNat < 0x110000) :=
  c.valid

theorem toNat_ofNat {n : Nat} (h : n.isValidChar) : (Char.ofNat n).toNat = n := by
  rw [Char.ofNat, dif_pos h]; rfl

theorem decodeUtf16_utf16Char (c : Char) (us : List UInt16) :
    decodeUtf16 (utf16Char c ++ us) = (decodeUtf16 us).map (c :: ·) := by
  have hv := toNat_valid c
  unfold utf16Char
  by_cases hc : c.toNat < 0x10000
  · have hu : (UInt16.ofNat c.toNat).toNat = c.toNat := by rw [UInt16.toNat_ofNat']; omega
    rw [if_pos hc, List.singleton_append, decodeUtf16.eq_def]
    simp only [hu]
    rw [if_pos (by omega), Char.ofNat_toNat]
  · have hq : (c.toNat - 0x10000) / 0x400 < 0x400 := by omega
    have hu : (UInt16.ofNat (0xD800 + (c.toNat - 0x10000) / 0x400)).toNat =
        0xD800 + (c.toNat - 0x10000) / 0x400 := by rw [UInt16.toNat_ofNat']; omega
    have hw : (UInt16.ofNat (0xDC00 + (c.toNat - 0x10000) % 0x400)).toNat =
        0xDC00 + (c.toNat - 0x10000) % 0x400 := by rw [UInt16.toNat_ofNat']; omega
    have he : 0x10000 + (0xD800 + (c.toNat - 0x10000) / 0x400 - 0xD800) * 0x400 +
        (0xDC00 + (c.toNat - 0x10000) % 0x400 - 0xDC00) = c.toNat := by omega
    rw [if_neg hc]
    simp only [List.cons_append, List.nil_append]
    rw [decodeUtf16.eq_def]
    simp only [hu, hw]
    rw [if_neg (by omega), if_neg (by omega), if_neg (by omega), he, Char.ofNat_toNat]

@[simp] theorem decodeUtf16_utf16 (cs : List Char) : decodeUtf16 (utf16 cs) = some cs := by
  induction cs with
  | nil => rfl
  | cons c cs ih =>
    show decodeUtf16 (utf16Char c ++ utf16 cs) = _
    rw [decodeUtf16_utf16Char, ih]; rfl

theorem utf16Char_ofNat_single {u : UInt16} (h : u.toNat < 0xD800 ∨ 0xE000 ≤ u.toNat) :
    utf16Char (Char.ofNat u.toNat) = [u] := by
  have hu := u.toNat_lt
  have hv : u.toNat.isValidChar := by rw [Nat.isValidChar]; omega
  rw [utf16Char, toNat_ofNat hv, if_pos (by omega), UInt16.ofNat_toNat]

theorem utf16Char_ofNat_pair {u v : UInt16} (hu : 0xD800 ≤ u.toNat ∧ u.toNat < 0xDC00)
    (hv : 0xDC00 ≤ v.toNat ∧ v.toNat < 0xE000) :
    utf16Char (Char.ofNat (0x10000 + (u.toNat - 0xD800) * 0x400 + (v.toNat - 0xDC00))) = [u, v] := by
  generalize hn : 0x10000 + (u.toNat - 0xD800) * 0x400 + (v.toNat - 0xDC00) = n
  have hval : n.isValidChar := by rw [Nat.isValidChar]; omega
  have h1 : 0xD800 + (n - 0x10000) / 0x400 = u.toNat := by omega
  have h2 : 0xDC00 + (n - 0x10000) % 0x400 = v.toNat := by omega
  rw [utf16Char, toNat_ofNat hval, if_neg (by omega), h1, h2, UInt16.ofNat_toNat, UInt16.ofNat_toNat]

theorem utf16_of_decodeUtf16 {us : List UInt16} {cs : List Char} (h : decodeUtf16 us = some cs) :
    utf16 cs = us := by
  fun_induction decodeUtf16 us generalizing cs with
  | case1 => cases h; rfl
  | case2 u rest hu ih =>
    obtain ⟨ds, hds, rfl⟩ := Option.map_eq_some_iff.1 h
    show utf16Char _ ++ utf16 ds = _
    rw [utf16Char_ofNat_single hu, ih hds]; rfl
  | case3 => cases h
  | case4 => cases h
  | case5 => cases h
  | case6 u h1 h2 v rest h3 ih =>
    obtain ⟨ds, hds, rfl⟩ := Option.map_eq_some_iff.1 h
    show utf16Char _ ++ utf16 ds = _
    rw [utf16Char_ofNat_pair (by omega) (by omega), ih hds]; rfl

theorem decodeUtf16_eq_some_iff (us : List UInt16) (cs : List Char) :
    decodeUtf16 us = some cs ↔ us = utf16 cs :=
  ⟨fun h => (utf16_of_decodeUtf16 h).symm, fun h => h ▸ decodeUtf16_utf16 cs⟩

/-! ### UTF-8 bytes against UTF-16 units -/

theorem utf8Size_utf16Char (c : Char) :
    (utf16Char c).length ≤ c.utf8Size ∧ c.utf8Size ≤ 3 * (utf16Char c).length ∧
      (c.utf8Size = (utf16Char c).length ↔ c.toNat < 128) := by
  have hv : c.val.toNat = c.toNat := rfl
  have hlen : (utf16Char c).length = if c.toNat < 0x10000 then 1 else 2 := by
    rw [utf16Char]
    split <;> rfl
  rw [hlen, Char.utf8Size]
  simp only [UInt32.le_iff_toNat_le, hv, UInt32.toNat_ofNatLT]
  split_ifs <;> omega

/-- A string takes at least a UTF-8 byte for every UTF-16 unit and at most three, and one for each only
if it is ASCII. -/
theorem utf8ByteSize_utf16 (cs : List Char) :
    (utf16 cs).length ≤ (String.ofList cs).utf8ByteSize ∧
      (String.ofList cs).utf8ByteSize ≤ 3 * (utf16 cs).length ∧
      ((String.ofList cs).utf8ByteSize = (utf16 cs).length ↔ ∀ c ∈ cs, c.toNat < 128) := by
  induction cs with
  | nil => simp [utf16]
  | cons c cs ih =>
    obtain ⟨h₁, h₂, h₃⟩ := utf8Size_utf16Char c
    obtain ⟨ih₁, ih₂, ih₃⟩ := ih
    have hcons : utf16 (c :: cs) = utf16Char c ++ utf16 cs := rfl
    rw [String.ofList_cons, String.utf8ByteSize_append, String.utf8ByteSize_singleton, hcons,
      List.length_append, List.forall_mem_cons, ← h₃, ← ih₃]
    omega

end Unicode
