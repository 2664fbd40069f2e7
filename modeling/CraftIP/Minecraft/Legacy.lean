import CraftIP.Cursor.Strings
import CraftIP.Minecraft

/-!
# The legacy packets (`old_ping_pkg`, `old_connect_pkg`)

The wire forms of the two packets, what their parsers accept, and that a packet is accepted whatever
stands behind it. The legacy ping carries an outer length that should be seven bytes and two for every
UTF-16 unit of the host name; the parser takes two for every UTF-8 byte.
-/

namespace CraftIP
open ByteBuf Unicode Incremental

namespace MinecraftHelloPacket
open CraftIP.Parser Incremental.Parser
variable {W X : Prop} {buf : List UInt8} {c' : Cursor} {p : MinecraftHelloPacket}

/-! ### The legacy ping -/

/-- The legacy server list ping with a given outer length. -/
def oldPingWith (restData : UInt16) (version : UInt8) (hostname : List Char) (port : UInt32) : List UInt8 :=
  OLD_MINECRAFT_START ++ (be16 restData ++ (version :: (utf16String hostname ++ be32 port)))

/-- The legacy server list ping of a host. -/
def oldPing (version : UInt8) (hostname : List Char) (port : UInt32) : List UInt8 :=
  oldPingWith (UInt16.ofNat (7 + 2 * (utf16 hostname).length)) version hostname port

/-- What the parser builds of the fields. -/
def legacyPacket (length : Nat) (version : UInt8) (hostname : String) (port : UInt32) :
    MinecraftHelloPacket where
  pkgType := .legacy
  length := length
  id := 0
  version := byteVersion version
  port := port
  hostname := hostname
  forge := false

theorem toInt_byteVersion (version : UInt8) : (byteVersion version).toInt = version.toNat := by
  have hlt := version.toNat_lt
  have hv : version.toUInt32.toBitVec.toNat = version.toNat := UInt8.toNat_toUInt32 version
  show version.toUInt32.toBitVec.toInt = _
  rw [BitVec.toInt_eq_toNat_cond, hv, if_pos (by omega)]

theorem length_oldPingWith (restData : UInt16) (version : UInt8) (hostname : List Char) (port : UInt32) :
    (oldPingWith restData version hostname port).length = 36 + 2 * (utf16 hostname).length := by
  have hstart : OLD_MINECRAFT_START.length = 27 := rfl
  simp only [oldPingWith, List.length_append, List.length_cons, length_utf16String, length_be16,
    length_be32, hstart]
  omega

/-- Seven and two for every byte of a host name that was read do not overflow. -/
theorem checked_hostname {hostname : List Char} (hh : (utf16 hostname).length ≤ 65535) :
    checkedMul (String.ofList hostname).utf8ByteSize 2 =
        some ((String.ofList hostname).utf8ByteSize * 2) ∧
      checkedAdd 7 ((String.ofList hostname).utf8ByteSize * 2) =
        some (7 + (String.ofList hostname).utf8ByteSize * 2) := by
  obtain ⟨-, hle, -⟩ := utf8ByteSize_utf16 hostname
  refine ⟨checkedMul_le ?_, checkedAdd_le ?_⟩ <;> simp only [USIZE_MAX] <;> omega

/-- A legacy ping is read whatever follows it, if the outer length counts the bytes of the host name. -/
theorem oldPingPkg_append (restData : UInt16) (version : UInt8) {hostname : List Char} (port : UInt32)
    (hh : (utf16 hostname).length ≤ 65535) (s : List UInt8) :
    oldPingPkg (Cursor.new (oldPingWith restData version hostname port ++ s)) =
      if 7 + (String.ofList hostname).utf8ByteSize * 2 = restData.toNat then
        .ok (some (legacyPacket (oldPingWith restData version hostname port).length version
          (String.ofList hostname) port, ⟨(oldPingWith restData version hostname port).length, s⟩))
      else .err .notValid := by
  have hport : be32 port ++ s ≠ [] := by simp [be32]
  have hbytes : Cursor.new (oldPingWith restData version hostname port ++ s) =
      ⟨0, OLD_MINECRAFT_START ++ (be16 restData ++ (version ::
        (utf16String hostname ++ (be32 port ++ s))))⟩ := by
    simp only [oldPingWith, List.append_assoc, List.cons_append]
    rfl
  have hstart : OLD_MINECRAFT_START.length ≤ (OLD_MINECRAFT_START ++ (be16 restData ++ (version ::
      (utf16String hostname ++ (be32 port ++ s))))).length := by
    rw [List.length_append]
    exact Nat.le_add_right _ _
  obtain ⟨hmul, hadd⟩ := checked_hostname hh
  rw [hbytes, oldPingPkg, bind_some (need_apply hstart),
    bind_some (matchBytes_append 0 _ (show 0 + OLD_MINECRAFT_START.length ≤ USIZE_MAX by decide)), Bool.not_true,
    if_neg Bool.false_ne_true, bind_some (need_apply (by simp; omega)), bind_some (getU16_append _ _ _),
    bind_some (getU8_cons _ _ _), bind_some (getUtf16String_append hh _ hport), hmul,
    checked_some_bind, hadd, checked_some_bind]
  by_cases he : 7 + (String.ofList hostname).utf8ByteSize * 2 = restData.toNat
  · rw [if_neg (fun hne => hne he), if_pos he, bind_some (need_apply (by simp)),
      bind_some (getU32_append _ _ _), bind_some (position_apply _), pure_apply, length_oldPingWith]
    have hend : 0 + OLD_MINECRAFT_START.length + 2 + 1 + (2 + (utf16 hostname).length * 2) + 4 =
        36 + 2 * (utf16 hostname).length := by
      show 0 + 27 + 2 + 1 + _ + 4 = _
      omega
    rw [hend]
    rfl
  · rw [if_pos he, if_neg he]
    rfl

/-- What `oldPingPkg` accepts is a legacy ping. -/
theorem oldPingPkg_eq_ok (hp : oldPingPkg (Cursor.new buf) = .ok (some (p, c'))) :
    ∃ restData version port, (utf16 p.hostname.toList).length ≤ 65535 ∧
      Reads (Cursor.new buf) (oldPingWith restData version p.hostname.toList port) c' ∧
      7 + p.hostname.utf8ByteSize * 2 = restData.toNat ∧
      p = legacyPacket (oldPingWith restData version p.hostname.toList port).length version
        p.hostname port := by
  rw [oldPingPkg] at hp
  obtain ⟨-, h₁⟩ := need_bind_eq_ok hp
  obtain ⟨b, c₂, hm, h₂⟩ := bind_eq_ok.1 h₁
  split at h₂
  · cases h₂
  next hb =>
  obtain rfl : b = true := by simpa using hb
  have rm := matchBytes_eq_true (show 0 + 27 ≤ USIZE_MAX by decide) hm
  obtain ⟨-, h₃⟩ := need_bind_eq_ok h₂
  obtain ⟨restData, c₄, hr, h₄⟩ := bind_eq_ok.1 h₃
  have rr := getU16_eq_ok hr
  obtain ⟨version, c₅, hv, h₅⟩ := bind_eq_ok.1 h₄
  have rv := getU8_eq_ok hv
  obtain ⟨hostname, c₆, hs, h₆⟩ := bind_eq_ok.1 h₅
  obtain ⟨hlen, rs, -⟩ := getUtf16String_eq_ok hs
  obtain ⟨hmul, hadd⟩ := checked_hostname hlen
  rw [String.ofList_toList] at hmul hadd
  rw [hmul, checked_some_bind, hadd, checked_some_bind] at h₆
  split at h₆
  · cases h₆
  next he =>
  obtain ⟨-, h₉⟩ := need_bind_eq_ok h₆
  obtain ⟨port, c₁₀, hq, h₁₀⟩ := bind_eq_ok.1 h₉
  have rq := getU32_eq_ok hq
  obtain ⟨i, c₁₁, hi, h₁₁⟩ := bind_eq_ok.1 h₁₀
  obtain ⟨rfl, rfl⟩ := position_eq_ok hi
  obtain ⟨rfl, rfl⟩ := pure_eq_ok.1 h₁₁
  have hreads : Reads (Cursor.new buf) (oldPingWith restData version hostname.toList port) c' := by
    have h := (((rm.trans rr).trans rv).trans rs).trans rq
    simp only [List.append_assoc, List.singleton_append] at h
    exact h
  refine ⟨restData, version, port, hlen, hreads, Decidable.not_not.1 he, ?_⟩
  rw [← hreads.position.trans (Nat.zero_add _)]
  rfl

theorem runs_oldPingPkg (hW : buf.length < 4294967296 → W) :
    Runs W X oldPingPkg (Cursor.new buf) := by
  have hbuf : (Cursor.new buf).rest.length = buf.length := rfl
  have hstart : OLD_MINECRAFT_START.length = 27 := rfl
  rw [oldPingPkg]
  refine .need_bind (fun hlt => hW (by omega)) fun hn => ?_
  refine .bind (runs_matchBytes hn (show 0 + 27 ≤ USIZE_MAX by decide)) fun b c₂ hm => ?_
  refine .ite (fun _ => .fail _ _) fun hb => ?_
  obtain rfl : b = true := by simpa using hb
  have hm₁ := (matchBytes_eq_true (show 0 + 27 ≤ USIZE_MAX by decide) hm).length_rest
  refine .need_bind (fun hlt => hW (by omega)) fun hn => ?_
  refine .bind (runs_getU16 (by omega)) fun restData c₄ hr => ?_
  have hr₁ := (getU16_eq_ok hr).length_rest
  rw [length_be16] at hr₁
  refine .bind (runs_getU8 (by omega)) fun version c₅ hv => ?_
  have hv₁ := (getU8_eq_ok hv).length_rest
  rw [List.length_singleton] at hv₁
  refine .bind (runs_getUtf16String fun hle => hW (by omega)) fun hostname c₆ hs => ?_
  obtain ⟨hlen, rs, -⟩ := getUtf16String_eq_ok hs
  have hs₁ := rs.length_rest
  rw [length_utf16String] at hs₁
  obtain ⟨hmul, hadd⟩ := checked_hostname hlen
  rw [String.ofList_toList] at hmul hadd
  rw [hmul, checked_some_bind, hadd, checked_some_bind]
  refine .ite (fun _ => .fail _ _) fun _ => ?_
  refine .need_bind (fun hlt => hW (by omega)) fun hn => ?_
  refine .bind (runs_getU32 hn) fun port c₁₀ _ => ?_
  exact .bind (.position _) fun i c₁₁ _ => .pure _ _

/-! ### The legacy connect packet -/

/-- What `oldConnectPkg` accepts is a legacy connect packet. -/
theorem oldConnectPkg_eq_ok (hp : oldConnectPkg (Cursor.new buf) = .ok (some (p, c'))) :
    ∃ version port, ∃ username : String, (utf16 username.toList).length ≤ 65535 ∧
      (utf16 p.hostname.toList).length ≤ 65535 ∧
      Reads (Cursor.new buf) (oldConnect version username.toList p.hostname.toList port) c' ∧
      p = legacyPacket (oldConnect version username.toList p.hostname.toList port).length version
        p.hostname port := by
  rw [oldConnectPkg] at hp
  obtain ⟨b, c₂, hm, h₂⟩ := bind_eq_ok.1 hp
  split at h₂
  · cases h₂
  next hb =>
  obtain rfl : b = true := by simpa using hb
  have rm := matchBytes_eq_true (show 0 + 1 ≤ USIZE_MAX by decide) hm
  obtain ⟨-, h₃⟩ := need_bind_eq_ok h₂
  obtain ⟨version, c₅, hv, h₅⟩ := bind_eq_ok.1 h₃
  have rv := getU8_eq_ok hv
  obtain ⟨username, c₆, hu, h₆⟩ := bind_eq_ok.1 h₅
  obtain ⟨hulen, ru, -⟩ := getUtf16String_eq_ok hu
  obtain ⟨hostname, c₇, hs, h₇⟩ := bind_eq_ok.1 h₆
  obtain ⟨hlen, rs, -⟩ := getUtf16String_eq_ok hs
  obtain ⟨-, h₉⟩ := need_bind_eq_ok h₇
  obtain ⟨port, c₁₀, hq, h₁₀⟩ := bind_eq_ok.1 h₉
  have rq := getU32_eq_ok hq
  obtain ⟨i, c₁₁, hi, h₁₁⟩ := bind_eq_ok.1 h₁₀
  obtain ⟨rfl, rfl⟩ := position_eq_ok hi
  obtain ⟨rfl, rfl⟩ := pure_eq_ok.1 h₁₁
  have hreads : Reads (Cursor.new buf) (oldConnect version username.toList hostname.toList port) c' := by
    have h := (((rm.trans rv).trans ru).trans rs).trans rq
    simp only [List.append_assoc, List.singleton_append] at h
    exact h
  refine ⟨version, port, username, hulen, hlen, hreads, ?_⟩
  rw [← hreads.position.trans (Nat.zero_add _)]
  rfl

theorem runs_oldConnectPkg (h₁ : 1 ≤ buf.length) (hW : buf.length < 4294967296 → W) :
    Runs W X oldConnectPkg (Cursor.new buf) := by
  have hbuf : (Cursor.new buf).rest.length = buf.length := rfl
  rw [oldConnectPkg]
  refine .bind (runs_matchBytes h₁ (show 0 + 1 ≤ USIZE_MAX by decide)) fun b c₂ hm => ?_
  refine .ite (fun _ => .fail _ _) fun hb => ?_
  obtain rfl : b = true := by simpa using hb
  have hm₁ := (matchBytes_eq_true (show 0 + 1 ≤ USIZE_MAX by decide) hm).length_rest
  rw [List.length_singleton] at hm₁
  refine .need_bind (fun hlt => hW (by omega)) fun hn => ?_
  refine .bind (runs_getU8 hn) fun version c₅ hv => ?_
  have hv₁ := (getU8_eq_ok hv).length_rest
  rw [List.length_singleton] at hv₁
  refine .bind (runs_getUtf16String fun hle => hW (by omega)) fun username c₆ hu => ?_
  obtain ⟨hulen, ru, -⟩ := getUtf16String_eq_ok hu
  have hu₁ := ru.length_rest
  rw [length_utf16String] at hu₁
  refine .bind (runs_getUtf16String fun hle => hW (by omega)) fun hostname c₇ hs => ?_
  obtain ⟨hlen, rs, -⟩ := getUtf16String_eq_ok hs
  have hs₁ := rs.length_rest
  rw [length_utf16String] at hs₁
  refine .need_bind (fun hlt => hW (by omega)) fun hn => ?_
  refine .bind (runs_getU32 hn) fun port c₁₀ _ => ?_
  exact .bind (.position _) fun i c₁₁ _ => .pure _ _

end MinecraftHelloPacket
end CraftIP
