import CraftIP.Cursor.Strings
import CraftIP.Minecraft

/-!
# The modern handshake (`new_pkg`)

A `Handshake` is a frame of varints, a string and a port that carries the proofs that its bytes are what
its fields say. `newPkg` reads exactly the handshakes whose length prefix counts the bytes up to the
port, the prefix included (`newPkg_append`, `newPkg_eq_ok`).
-/

namespace CraftIP
open ByteBuf Unicode Incremental

@[ext] structure Handshake where
  lengthBytes : List UInt8
  length : Int32
  lengthVarint : Varint lengthBytes length
  idBytes : List UInt8
  idVarint : Varint idBytes 0
  versionBytes : List UInt8
  version : Int32
  versionVarint : Varint versionBytes version
  sizeBytes : List UInt8
  size : Int32
  hostname : String
  hostnameString : Utf8String sizeBytes size hostname
  port : UInt16
  stateBytes : List UInt8
  nextState : Int32
  stateVarint : Varint stateBytes nextState

namespace Handshake
variable (h : Handshake)

/-- The bytes up to the port. -/
def head : List UInt8 :=
  h.lengthBytes ++ h.idBytes ++ h.versionBytes ++ (h.sizeBytes ++ utf8 h.hostname) ++ be16 h.port

def bytes : List UInt8 := h.head ++ h.stateBytes

/-- The packet that `newPkg` builds of the fields. -/
def packet : MinecraftHelloPacket where
  length := h.bytes.length
  pkgType := MinecraftHelloPacket.pkgTypeOf h.nextState
  id := 0
  port := h.port.toUInt32
  version := h.version
  hostname := MinecraftHelloPacket.beforeNul h.hostname
  forge := FORGE_STRING.toList.isSuffixOf h.hostname.toList

theorem length_head : h.head.length =
    h.lengthBytes.length + h.idBytes.length + h.versionBytes.length +
      (h.sizeBytes.length + (utf8 h.hostname).length) + 2 := by
  simp only [head, List.length_append, length_be16]

theorem length_bytes : h.bytes.length = h.head.length + h.stateBytes.length := by
  rw [bytes, List.length_append]

/-- Two handshakes at the start of one buffer are cut into the same fields. -/
theorem eq_of_append_eq {h k : Handshake} {s t : List UInt8} (he : h.bytes ++ s = k.bytes ++ t) :
    h = k := by
  simp only [bytes, head, List.append_assoc] at he
  obtain ⟨hl, hlv, he⟩ := h.lengthVarint.eq_of_append_eq k.lengthVarint he
  obtain ⟨hi, -, he⟩ := h.idVarint.eq_of_append_eq k.idVarint he
  obtain ⟨hv, hvv, he⟩ := h.versionVarint.eq_of_append_eq k.versionVarint he
  obtain ⟨hs, hsv, he⟩ := h.hostnameString.varint.eq_of_append_eq k.hostnameString.varint he
  have hlen : (utf8 h.hostname).length = (utf8 k.hostname).length := by
    rw [← h.hostnameString.size_eq, ← k.hostnameString.size_eq, hsv]
  obtain ⟨hh, he⟩ := List.append_inj he hlen
  have hh : h.hostname = k.hostname :=
    Option.some.inj (by rw [← fromUtf8_utf8, hh, fromUtf8_utf8])
  have hp : h.port = k.port := by
    have hget := congrArg getU16 he
    rw [getU16_be16_append, getU16_be16_append] at hget
    exact congrArg Prod.fst (Option.some.inj hget)
  rw [hp] at he
  have he := List.append_cancel_left he
  obtain ⟨hst, hstv, -⟩ := h.stateVarint.eq_of_append_eq k.stateVarint he
  exact Handshake.ext hl hlv hi hv hvv hs hsv hh hp hst hstv

end Handshake

namespace MinecraftHelloPacket
open CraftIP.Parser Incremental.Parser

/-- A handshake is read to its port, and to its end if the length prefix is the position then. -/
theorem newPkg_append (h : Handshake) (s : List UInt8) (hmax : h.head.length ≤ USIZE_MAX) :
    newPkg (Cursor.new (h.bytes ++ s)) =
      if asUsize h.length = h.head.length then .ok (some (h.packet, ⟨h.bytes.length, s⟩))
      else .err .notValid := by
  have hlen := h.length_head
  have hbytes : Cursor.new (h.bytes ++ s) = ⟨0, h.lengthBytes ++ (h.idBytes ++ (h.versionBytes ++
      (h.sizeBytes ++ (utf8 h.hostname ++ (be16 h.port ++ (h.stateBytes ++ s))))))⟩ := by
    simp only [Handshake.bytes, Handshake.head, List.append_assoc]
    rfl
  have hpos : 0 + h.lengthBytes.length + h.idBytes.length + h.versionBytes.length +
      (h.sizeBytes.length + (utf8 h.hostname).length) + 2 = h.head.length := by
    rw [hlen, Nat.zero_add]
  rw [hbytes, newPkg, bind_some (getVarint_append h.lengthVarint _ _),
    bind_some (getVarint_append h.idVarint _ _), if_neg (fun hne => hne rfl),
    bind_some (getVarint_append h.versionVarint _ _),
    bind_some (getUtf8String_append h.hostnameString _ _ (by omega)),
    bind_some (need_apply (by simp)), bind_some (getU16_append _ _ _), bind_some (position_apply _)]
  simp only [hpos]
  by_cases hc : asUsize h.length = h.head.length
  · rw [if_neg (fun hne => hne hc.symm), if_pos hc, bind_some (getVarint_append h.stateVarint _ _),
      bind_some (position_apply _), pure_apply, Handshake.packet, h.length_bytes]
  · rw [if_pos (fun he => hc he.symm), if_neg hc]
    rfl

/-- What `newPkg` accepts is a handshake. -/
theorem newPkg_eq_ok {buf : List UInt8} {p : MinecraftHelloPacket} {c' : Cursor}
    (hp : newPkg (Cursor.new buf) = .ok (some (p, c'))) :
    ∃ h : Handshake, Reads (Cursor.new buf) h.bytes c' ∧ p = h.packet ∧
      asUsize h.length = h.head.length ∧ h.head.length ≤ USIZE_MAX := by
  rw [newPkg] at hp
  obtain ⟨length, c₁, el, h₁⟩ := bind_eq_ok.1 hp
  obtain ⟨lw, hl, rl⟩ := getVarint_eq_ok el
  obtain ⟨id, c₂, ei, h₂⟩ := bind_eq_ok.1 h₁
  obtain ⟨iw, hi, ri⟩ := getVarint_eq_ok ei
  split at h₂
  · cases h₂
  next hid =>
  obtain rfl : id = 0 := Decidable.not_not.1 hid
  obtain ⟨version, c₃, ev, h₃⟩ := bind_eq_ok.1 h₂
  obtain ⟨vw, hv, rv⟩ := getVarint_eq_ok ev
  obtain ⟨hostname, c₄, es, h₄⟩ := bind_eq_ok.1 h₃
  obtain ⟨sw, size, hs, -, rs⟩ := getUtf8String_eq_ok es
  obtain ⟨-, h₅⟩ := need_bind_eq_ok h₄
  obtain ⟨port, c₆, ep, h₆⟩ := bind_eq_ok.1 h₅
  have rp := getU16_eq_ok ep
  obtain ⟨i, c₇, hpos, h₇⟩ := bind_eq_ok.1 h₆
  obtain ⟨rfl, rfl⟩ := position_eq_ok hpos
  split at h₇
  · cases h₇
  next hcount =>
  have hcount := Decidable.not_not.1 hcount
  obtain ⟨nextState, c₈, et, h₈⟩ := bind_eq_ok.1 h₇
  obtain ⟨tw, ht, rt⟩ := getVarint_eq_ok et
  obtain ⟨j, c₉, hpos', h₉⟩ := bind_eq_ok.1 h₈
  obtain ⟨rfl, rfl⟩ := position_eq_ok hpos'
  obtain ⟨rfl, rfl⟩ := pure_eq_ok.1 h₉
  have rhead := (((rl.trans ri).trans rv).trans rs).trans rp
  have hhead := rhead.position.trans (Nat.zero_add _)
  have hend := (rhead.trans rt).position.trans (Nat.zero_add _)
  have hle := asUsize_le length
  rw [← hcount, hhead] at hle
  refine ⟨⟨lw, length, hl, iw, hi, vw, version, hv, sw, size, hostname, hs, port, tw, nextState, ht⟩,
    rhead.trans rt, ?_, hcount.symm.trans hhead, hle⟩
  rw [hend]
  rfl

/-- A length, an id of zero and a version, and then a negative size of the host name. -/
def NegativeSize (buf : List UInt8) : Prop :=
  ∃ lengthBytes length idBytes versionBytes version sizeBytes size rest,
    Varint lengthBytes length ∧ Varint idBytes 0 ∧ Varint versionBytes version ∧
      Varint sizeBytes size ∧ size.toInt < 0 ∧
      buf = lengthBytes ++ idBytes ++ versionBytes ++ sizeBytes ++ rest

/-- The parser waits on a buffer of any length only for a host name of negative size. -/
theorem runs_newPkg {W X : Prop} {buf : List UInt8} (hX : USIZE_MAX < buf.length → X)
    (hW : buf.length < 4294967296 → W) (hN : NegativeSize buf → W) :
    Runs W X newPkg (Cursor.new buf) := by
  have hbuf : (Cursor.new buf).rest.length = buf.length := rfl
  rw [newPkg]
  refine .bind (runs_getVarint fun hlt => hW (by omega)) fun length c₁ el => ?_
  obtain ⟨lw, hl, rl⟩ := getVarint_eq_ok el
  have hl₅ := hl.length_le
  have hl₁ := rl.length_rest
  refine .bind (runs_getVarint fun hlt => hW (by omega)) fun id c₂ ei => ?_
  obtain ⟨iw, hi, ri⟩ := getVarint_eq_ok ei
  have hi₅ := hi.length_le
  have hi₁ := ri.length_rest
  refine .ite (fun _ => .fail _ _) fun hid => ?_
  obtain rfl : id = 0 := Decidable.not_not.1 hid
  refine .bind (runs_getVarint fun hlt => hW (by omega)) fun version c₃ ev => ?_
  obtain ⟨vw, hv, rv⟩ := getVarint_eq_ok ev
  have hv₅ := hv.length_le
  have hv₁ := rv.length_rest
  have r₃ := (rl.trans ri).trans rv
  have hp₃ : c₃.position = 0 + (lw ++ iw ++ vw).length := r₃.position
  simp only [List.length_append] at hp₃
  -- a size that is not negative keeps the buffer short, whatever is missing behind it
  have hsize : ∀ w size c, Varint w size → Reads c₃ w c →
      (0 ≤ size.toInt → buf.length < 4294967296) → W := by
    intro w size c hw r hpos
    by_cases hneg : size.toInt < 0
    · exact hN ⟨lw, length, iw, vw, version, w, size, c.rest, hl, hi, hv, hw, hneg, (r₃.trans r).rest⟩
    · exact hW (hpos (by omega))
  refine .bind (runs_getUtf8String (fun hlt => hX (by omega)) (fun hlt => hW (by omega))
    fun w size c hw r hlt => hsize w size c hw r fun hpos => ?_) fun hostname c₄ es => ?_
  · have hlen := r.length_rest
    have hw₅ := hw.length_le
    have hsz := asUsize_lt hpos
    omega
  obtain ⟨sw, size, hs, -, rs⟩ := getUtf8String_eq_ok es
  have hs₅ := hs.varint.length_le
  have hs₁ := rs.length_rest
  have hrs : Reads c₃ sw ⟨c₃.position + sw.length, utf8 hostname ++ c₄.rest⟩ :=
    ⟨by rw [rs.rest, List.append_assoc], rfl⟩
  have hclose : c₄.rest.length < 8 → W := fun hlt =>
    hsize sw size _ hs.varint hrs fun hpos => by
      have hsz := asUsize_lt hpos
      rw [hs.size_eq] at hsz
      rw [List.length_append] at hs₁
      omega
  refine .need_bind (fun hlt => hclose (by omega)) fun hn => ?_
  refine .bind (runs_getU16 hn) fun port c₆ ep => ?_
  have hp₁ := (getU16_eq_ok ep).length_rest
  rw [length_be16] at hp₁
  refine .bind (.position _) fun i c₇ hpos => ?_
  obtain ⟨rfl, rfl⟩ := position_eq_ok hpos
  refine .ite (fun _ => .fail _ _) fun _ => ?_
  refine .bind (runs_getVarint fun hlt => hclose (by omega)) fun nextState c₈ _ => ?_
  exact .bind (.position _) fun j c₉ _ => .pure _ _

end MinecraftHelloPacket
end CraftIP
