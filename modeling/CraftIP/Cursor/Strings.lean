import CraftIP.Cursor.Varint

/-!
# Integers and strings off the cursor

For each read of the packet parsers: the bytes it took when it gave a value (`.._eq_ok`), and when it
waits, panics and keeps its answer (`runs_..`).
-/

namespace CraftIP
open ByteBuf Unicode Incremental

/-- A length that is read as a number of bytes, and a string of that many. -/
structure Utf8String (w : List UInt8) (size : Int32) (s : String) : Prop where
  varint : Varint w size
  size_eq : Parser.asUsize size = (utf8 s).length

namespace Parser
open Incremental.Parser
variable {W X : Prop} {c c' : Cursor}

/-! ### Integers -/

theorem getU16_eq_ok {x : UInt16} (h : getU16 c = .ok (some (x, c'))) : Reads c (be16 x) c' := by
  obtain ⟨i, _ | ⟨a, _ | ⟨b, s⟩⟩⟩ := c
  · cases h
  · cases h
  · cases h
    exact ⟨by rw [be16_ofBe16]; rfl, rfl⟩

theorem runs_getU16 (h : 2 ≤ c.rest.length) : Runs W X getU16 c := by
  obtain ⟨i, _ | ⟨a, _ | ⟨b, s⟩⟩⟩ := c
  · exact absurd h (by simp)
  · exact absurd h (by simp)
  · exact .of_ok (a := ofBe16 a b) (d := ⟨i + 2, s⟩) rfl fun _ => rfl

theorem getU32_eq_ok {x : UInt32} (h : getU32 c = .ok (some (x, c'))) : Reads c (be32 x) c' := by
  obtain ⟨i, _ | ⟨a, _ | ⟨b, _ | ⟨d, _ | ⟨e, s⟩⟩⟩⟩⟩ := c
  · cases h
  · cases h
  · cases h
  · cases h
  · cases h
    exact ⟨by rw [be32_ofBe32]; rfl, rfl⟩

theorem runs_getU32 (h : 4 ≤ c.rest.length) : Runs W X getU32 c := by
  obtain ⟨i, _ | ⟨a, _ | ⟨b, _ | ⟨d, _ | ⟨e, s⟩⟩⟩⟩⟩ := c
  · exact absurd h (by simp)
  · exact absurd h (by simp)
  · exact absurd h (by simp)
  · exact absurd h (by simp)
  · exact .of_ok (a := ofBe32 a b d e) (d := ⟨i + 4, s⟩) rfl fun _ => rfl

theorem getU16s_eq_ok {n : Nat} {us : List UInt16} (h : getU16s n c = .ok (some (us, c'))) :
    us.length = n ∧ Reads c (us.flatMap be16) c' := by
  induction n generalizing c us with
  | zero =>
    obtain ⟨rfl, rfl⟩ := pure_eq_ok.1 h
    exact ⟨rfl, .refl c'⟩
  | succ n ih =>
    rw [getU16s] at h
    obtain ⟨u, c₁, hu, h₁⟩ := bind_eq_ok.1 h
    obtain ⟨us', c₂, hus, h₂⟩ := bind_eq_ok.1 h₁
    obtain ⟨rfl, rfl⟩ := pure_eq_ok.1 h₂
    obtain ⟨hlen, hr⟩ := ih hus
    exact ⟨by rw [List.length_cons, hlen], (getU16_eq_ok hu).trans hr⟩

theorem runs_getU16s {n : Nat} (h : n * 2 ≤ c.rest.length) : Runs W X (getU16s n) c := by
  induction n generalizing c with
  | zero => exact .pure _ c
  | succ n ih =>
    rw [getU16s]
    refine .bind (runs_getU16 (by omega)) fun u c₁ hu => ?_
    have hr := (getU16_eq_ok hu).length_rest
    rw [length_be16] at hr
    exact .bind (ih (by omega)) fun us c₂ _ => .pure _ c₂

/-! ### Strings -/

theorem getUtf8String_append {w : List UInt8} {size : Int32} {s : String} (h : Utf8String w size s)
    (i : Nat) (rest : List UInt8) (hmax : i + (w.length + (utf8 s).length) ≤ USIZE_MAX) :
    getUtf8String ⟨i, w ++ (utf8 s ++ rest)⟩ =
      .ok (some (s, ⟨i + (w.length + (utf8 s).length), rest⟩)) := by
  have hadd : checkedAdd (i + w.length) (utf8 s).length = some (i + w.length + (utf8 s).length) :=
    checkedAdd_le (by omega)
  have hneed : (utf8 s).length ≤ (utf8 s ++ rest).length := by
    rw [List.length_append]
    exact Nat.le_add_right _ _
  rw [getUtf8String, bind_some (getVarint_append h.varint i _)]
  simp only [h.size_eq]
  rw [bind_some (need_apply hneed), bind_some (position_apply _), hadd, checked_some_bind,
    bind_some (slice_append _ _ _), bind_some (skip_append _ _ _), fromUtf8_utf8, Nat.add_assoc]
  rfl

theorem getUtf8String_eq_ok {s : String} (h : getUtf8String c = .ok (some (s, c'))) :
    ∃ w size, Utf8String w size s ∧ c.position + (w.length + (utf8 s).length) ≤ USIZE_MAX ∧
      Reads c (w ++ utf8 s) c' := by
  rw [getUtf8String] at h
  obtain ⟨size, c₁, hv, h₁⟩ := bind_eq_ok.1 h
  obtain ⟨w, hw, hr⟩ := getVarint_eq_ok hv
  obtain ⟨hn, h₂⟩ := need_bind_eq_ok h₁
  obtain ⟨_, c₃, hp, h₃⟩ := bind_eq_ok.1 h₂
  obtain ⟨rfl, rfl⟩ := position_eq_ok hp
  obtain ⟨stop, c₄, hs, h₄⟩ := bind_eq_ok.1 h₃
  obtain ⟨hs, rfl⟩ := checked_eq_ok hs
  obtain ⟨blob, c₅, hb, h₅⟩ := bind_eq_ok.1 h₄
  obtain ⟨rfl, rfl⟩ := slice_eq_ok hb
  obtain ⟨_, c₆, hk, h₆⟩ := bind_eq_ok.1 h₅
  have hk := skip_eq_ok hk
  have hle : c₅.position + asUsize size ≤ USIZE_MAX := by
    rw [checkedAdd] at hs
    split at hs
    · next hle => exact hle
    · cases hs
  obtain rfl := checkedAdd_eq_some hs
  rw [Nat.add_sub_cancel_left] at h₆
  generalize hs' : fromUtf8 (c₅.rest.take (asUsize size)) = o at h₆
  rcases o with _ | s'
  · cases h₆
  · obtain ⟨rfl, rfl⟩ := pure_eq_ok.1 h₆
    have he := (fromUtf8_eq_some_iff _ _).1 hs'
    have hlen : asUsize size = (utf8 s).length := by rw [← he, List.length_take_of_le hn]
    rw [he] at hk
    refine ⟨w, size, ⟨hw, hlen⟩, ?_, hr.trans hk⟩
    rw [hr.position] at hle
    omega

/-- A UTF-8 string is open while its varint is, or while fewer bytes are there than it asks for. It
panics only if the end of the buffer is out of `usize`. -/
theorem runs_getUtf8String (hX : USIZE_MAX < c.position + c.rest.length → X)
    (hW : c.rest.length < 5 → W)
    (hW' : ∀ w size c₁, Varint w size → Reads c w c₁ → c₁.rest.length < asUsize size → W) :
    Runs W X getUtf8String c := by
  rw [getUtf8String]
  refine .bind (runs_getVarint hW) fun size c₁ h₁ => ?_
  obtain ⟨w, hw, hr⟩ := getVarint_eq_ok h₁
  refine .need_bind (hW' w size c₁ hw hr) fun hn => ?_
  refine .bind (.position _) fun p c₃ h₃ => ?_
  obtain ⟨rfl, rfl⟩ := position_eq_ok h₃
  have hpos := hr.position
  have hlen := hr.length_rest
  refine .bind (.checked (fun hnone => hX ?_) _) fun stop c₄ h₄ => ?_
  · have := checkedAdd_eq_none hnone
    omega
  obtain ⟨h₄, rfl⟩ := checked_eq_ok h₄
  obtain rfl := checkedAdd_eq_some h₄
  refine .bind (.slice (by omega) (by omega)) fun blob c₅ h₅ => ?_
  obtain ⟨-, rfl⟩ := slice_eq_ok h₅
  refine .bind (.skip hn) fun _ c₆ _ => ?_
  split
  · exact .pure _ c₆
  · exact .fail _ c₆

theorem getUtf16String_eq :
    getUtf16String = (do
      need 2
      let size := (← getU16).toNat
      need (size * 2 + 1)
      match decodeUtf16 (← getU16s size) with
      | some s => return String.ofList s
      | none => fail .notValidStringEncoding) := by
  rw [getUtf16String]
  congr 1
  funext _
  congr 1
  funext size
  funext c
  rw [checkedMul_units, checked_some_bind]
  exact congrFun (remaining_le _ _) c

/-- Exactly the wire form of the string was read, and something stands behind it. -/
theorem getUtf16String_eq_ok {s : String} (h : getUtf16String c = .ok (some (s, c'))) :
    (utf16 s.toList).length ≤ 65535 ∧ Reads c (utf16String s.toList) c' ∧ c'.rest ≠ [] := by
  rw [getUtf16String_eq] at h
  obtain ⟨-, h₁⟩ := need_bind_eq_ok h
  obtain ⟨size, c₂, hu, h₂⟩ := bind_eq_ok.1 h₁
  have hu := getU16_eq_ok hu
  obtain ⟨hn, h₃⟩ := need_bind_eq_ok h₂
  obtain ⟨us, c₄, hus, h₄⟩ := bind_eq_ok.1 h₃
  obtain ⟨hlen, hr⟩ := getU16s_eq_ok hus
  generalize hcs : decodeUtf16 us = o at h₄
  rcases o with _ | cs
  · cases h₄
  · obtain ⟨rfl, rfl⟩ := pure_eq_ok.1 h₄
    obtain rfl := (decodeUtf16_eq_some_iff _ _).1 hcs
    have hsize := size.toNat_lt
    have hrest := hr.length_rest
    rw [length_flatMap_be16, hlen] at hrest
    rw [String.toList_ofList]
    refine ⟨by omega, ?_, fun hnil => ?_⟩
    · rw [utf16String, hlen, UInt16.ofNat_toNat]
      exact hu.trans hr
    · rw [hnil, List.length_nil] at hrest
      omega

theorem runs_getUtf16String (hW : c.rest.length ≤ 131072 → W) : Runs W X getUtf16String c := by
  rw [getUtf16String_eq]
  refine .need_bind (fun hlt => hW (by omega)) fun hn => ?_
  refine .bind (runs_getU16 hn) fun size c₂ h₂ => ?_
  have hr := (getU16_eq_ok h₂).length_rest
  have hsize := size.toNat_lt
  rw [length_be16] at hr
  refine .need_bind (fun hlt => hW (by omega)) fun hn => ?_
  refine .bind (runs_getU16s (by omega)) fun us c₄ _ => ?_
  split
  · exact .pure _ c₄
  · exact .fail _ c₄

/-! ### Fixed bytes -/

theorem isPrefixOf_append {l s : List UInt8} (h : l.length ≤ s.length) (t : List UInt8) :
    l.isPrefixOf (s ++ t) = l.isPrefixOf s := by
  rw [Bool.eq_iff_iff, List.isPrefixOf_iff_prefix, List.isPrefixOf_iff_prefix]
  exact ⟨fun hp => List.prefix_of_prefix_length_le hp (List.prefix_append s t) h,
    fun hp => hp.trans (List.prefix_append s t)⟩

theorem runs_matchBytes {bytes : List UInt8} (h : bytes.length ≤ c.rest.length)
    (hmax : c.position + bytes.length ≤ USIZE_MAX) : Runs W X (matchBytes bytes) c := by
  have happly := matchBytes_apply hmax
  have hmore : ∀ s, matchBytes bytes (c.append s) = _ := fun s =>
    matchBytes_apply (show (c.append s).position + bytes.length ≤ USIZE_MAX from hmax)
  have hpre : ∀ s, bytes.isPrefixOf (c.append s).rest = bytes.isPrefixOf c.rest := fun s =>
    isPrefixOf_append h s
  by_cases hp : bytes.isPrefixOf c.rest = true
  · rw [if_pos hp] at happly
    refine .of_ok happly fun s => ?_
    rw [hmore, hpre, if_pos hp, Cursor.append, Cursor.append, List.drop_append_of_le_length h]
  · rw [if_neg hp] at happly
    exact .of_ok happly fun s => by rw [hmore, hpre, if_neg hp]

theorem matchBytes_eq_true {bytes : List UInt8} (hmax : c.position + bytes.length ≤ USIZE_MAX)
    (h : matchBytes bytes c = .ok (some (true, c'))) : Reads c bytes c' := by
  rw [matchBytes_apply hmax] at h
  split at h
  · next hp =>
    cases h
    obtain ⟨t, ht⟩ := List.isPrefixOf_iff_prefix.1 hp
    exact ⟨by rw [← ht, List.drop_left], rfl⟩
  · cases h

end Parser
end CraftIP
