import CraftIP.Minecraft.Stability
import Mathlib.Data.List.TakeWhile

/-!
# What the parser accepts

The modern handshake, the legacy ping and the legacy connect packet as their senders mean them, against
what `MinecraftHelloPacket::new` makes of them. `new_pkg` takes the length prefix for the position of
the next state, which is right only while the two varints are equally long; `old_ping_pkg` counts the
host name in UTF-8 bytes, which is right only for ASCII.
-/

namespace CraftIP
open ByteBuf Unicode Incremental

/-! ### The modern handshake -/

namespace Handshake
open CraftIP.Parser

/-- The length prefix is the number of bytes behind it. -/
def Framed (h : Handshake) : Prop := h.lengthBytes.length + h.length.toInt = h.bytes.length

/-- The length prefix is the number of bytes up to the port, its own included. -/
def CountsHead (h : Handshake) : Prop := h.length.toInt = h.head.length

/-- The packet says what the handshake says. -/
structure Describes (p : MinecraftHelloPacket) (h : Handshake) : Prop where
  length : p.length = h.bytes.length
  id : p.id = 0
  version : p.version = h.version
  port : p.port = h.port.toUInt32
  ping : h.nextState = 1 → p.pkgType = .ping
  connect : h.nextState = 2 → p.pkgType = .connect
  unknown : h.nextState ≠ 1 → h.nextState ≠ 2 → p.pkgType = .unknown
  hostname : ∃ rest, h.hostname.toList = p.hostname.toList ++ rest ∧ '\x00' ∉ p.hostname.toList ∧
    ∀ c ∈ rest.head?, c = '\x00'
  forge : p.forge = true ↔ "\x00FORGE".toList <:+ h.hostname.toList

theorem takeWhile_eq {l v rest : List Char} (hl : l = v ++ rest) (hv : '\x00' ∉ v)
    (hrest : ∀ c ∈ rest.head?, c = '\x00') : l.takeWhile (· ≠ '\x00') = v := by
  have hnil : rest.takeWhile (· ≠ '\x00') = [] := by
    rcases rest with _ | ⟨c, rest⟩
    · rfl
    · obtain rfl : c = '\x00' := hrest c rfl
      rfl
  have hpos : ∀ c ∈ v, decide (c ≠ '\x00') = true := by
    intro c hc
    rw [decide_eq_true_iff]
    rintro rfl
    exact hv hc
  rw [hl, List.takeWhile_append_of_pos hpos, hnil, List.append_nil]

theorem takeWhile_spec (l : List Char) : ∃ rest, l = l.takeWhile (· ≠ '\x00') ++ rest ∧
    '\x00' ∉ l.takeWhile (· ≠ '\x00') ∧ ∀ c ∈ rest.head?, c = '\x00' := by
  refine ⟨l.dropWhile (· ≠ '\x00'), List.takeWhile_append_dropWhile.symm, fun hmem => ?_, fun c hc => ?_⟩
  · have h := List.mem_takeWhile_imp hmem
    rw [decide_eq_true_iff] at h
    exact h rfl
  · have h := List.head?_dropWhile_not (· ≠ '\x00') l
    rw [Option.mem_def.1 hc] at h
    exact Decidable.not_not.1 (of_decide_eq_false h)

theorem describes_packet (h : Handshake) : Describes h.packet h where
  length := rfl
  id := rfl
  version := rfl
  port := rfl
  ping hs := if_pos hs
  connect hs := by
    show MinecraftHelloPacket.pkgTypeOf h.nextState = _
    rw [hs]
    rfl
  unknown h₁ h₂ := by
    show MinecraftHelloPacket.pkgTypeOf h.nextState = _
    rw [MinecraftHelloPacket.pkgTypeOf, if_neg h₁, if_neg h₂]
  hostname := by
    show ∃ rest, _ = (String.ofList _).toList ++ rest ∧ '\x00' ∉ (String.ofList _).toList ∧ _
    rw [String.toList_ofList]
    exact takeWhile_spec _
  forge := List.isSuffixOf_iff_suffix

theorem describes_iff {p : MinecraftHelloPacket} {h : Handshake} : Describes p h ↔ p = h.packet := by
  constructor
  · intro hd
    obtain ⟨rest, hl, hmem, hrest⟩ := hd.hostname
    have hhost : p.hostname = MinecraftHelloPacket.beforeNul h.hostname := by
      rw [MinecraftHelloPacket.beforeNul, takeWhile_eq hl hmem hrest, String.ofList_toList]
    have htype : p.pkgType = MinecraftHelloPacket.pkgTypeOf h.nextState := by
      rw [MinecraftHelloPacket.pkgTypeOf]
      split
      · next h₁ => exact hd.ping h₁
      · next h₁ =>
        split
        · next h₂ => exact hd.connect h₂
        · next h₂ => exact hd.unknown h₁ h₂
    have hforge : p.forge = FORGE_STRING.toList.isSuffixOf h.hostname.toList := by
      rw [Bool.eq_iff_iff, hd.forge, List.isSuffixOf_iff_suffix]
      rfl
    obtain ⟨length, pkgType, id, version, hostname, forge, port⟩ := p
    have h₁ := hd.length
    have h₂ := hd.id
    have h₃ := hd.version
    have h₄ := hd.port
    simp only at h₁ h₂ h₃ h₄ hhost htype hforge
    rw [packet, h₁, h₂, h₃, h₄, hhost, htype, hforge]
  · rintro rfl
    exact describes_packet h

end Handshake

namespace MinecraftHelloPacket
open CraftIP.Parser Incremental.Parser
variable {buf : List UInt8} {p : MinecraftHelloPacket}

/-- The buffer starts with the handshake, and the size of its host name is not negative. -/
structure StartsWith (buf : List UInt8) (h : Handshake) : Prop where
  isPrefix : h.bytes <+: buf
  size : 0 ≤ h.size.toInt

theorem StartsWith.eq {h k : Handshake} (hh : StartsWith buf h) (hk : StartsWith buf k) : h = k := by
  obtain ⟨s, hs⟩ := hh.isPrefix
  obtain ⟨t, ht⟩ := hk.isPrefix
  exact h.eq_of_append_eq (hs.trans ht.symm)

/-- The parser accepts exactly the handshakes whose length prefix is right. -/
def AcceptsHandshakes (buf : List UInt8) : Prop :=
  ∀ p, new buf = .ok (some p) ↔ ∃ h : Handshake, StartsWith buf h ∧ h.Framed ∧ h.Describes p

/-- What the parser really asks of a handshake. -/
theorem new_handshake (h₂ : 2 ≤ buf.length) (hping : ¬ [0xFE, 0x01] <+: buf)
    (hconnect : ¬ [0x02] <+: buf) (hmax : buf.length ≤ ISIZE_MAX) :
    new buf = .ok (some p) ↔ ∃ h : Handshake, StartsWith buf h ∧ h.CountsHead ∧ p = h.packet := by
  have hof : parserOf buf = newPkg := by
    rw [parserOf, if_neg (show ¬ OLD_MINECRAFT_START.take 2 <+: buf from hping), if_neg hconnect]
  have hconst : ISIZE_MAX ≤ USIZE_MAX := by decide
  rw [new_of_two_le h₂, hof, parse_eq_ok]
  constructor
  · rintro ⟨c, hp⟩
    obtain ⟨h, hr, rfl, hcount, -⟩ := newPkg_eq_ok hp
    have hbuf : buf = h.bytes ++ c.rest := hr.rest
    have hle := congrArg List.length hbuf
    rw [List.length_append, h.length_bytes, h.length_head] at hle
    have hlength : 0 ≤ h.length.toInt := by
      by_contra hneg
      have := asUsize_of_neg (Int.not_le.1 hneg)
      rw [hcount, h.length_head] at this
      omega
    refine ⟨h, ⟨⟨c.rest, hbuf.symm⟩, ?_⟩, ?_, rfl⟩
    · by_contra hneg
      have := asUsize_of_neg (Int.not_le.1 hneg)
      rw [h.hostnameString.size_eq] at this
      omega
    · rw [Handshake.CountsHead, ← asUsize_of_nonneg hlength, hcount]
  · rintro ⟨h, ⟨⟨s, rfl⟩, -⟩, hcount, rfl⟩
    rw [List.length_append, h.length_bytes] at hmax
    have hasUsize : asUsize h.length = h.head.length := by
      have := asUsize_of_nonneg (v := h.length) (by rw [hcount]; omega)
      rw [hcount] at this
      omega
    exact ⟨_, by rw [newPkg_append h s (by omega), if_pos hasUsize]⟩

/-- The parser takes the length prefix for the position of the next state. It accepts exactly the
handshakes of a buffer if and only if no handshake stands there whose length prefix and next state are of
different widths and whose length prefix is one of the two numbers. -/
theorem acceptsHandshakes_iff (h₂ : 2 ≤ buf.length) (hping : ¬ [0xFE, 0x01] <+: buf)
    (hconnect : ¬ [0x02] <+: buf) (hmax : buf.length ≤ ISIZE_MAX) :
    AcceptsHandshakes buf ↔
      ¬ ∃ h : Handshake, StartsWith buf h ∧ h.lengthBytes.length ≠ h.stateBytes.length ∧
        (h.Framed ∨ h.CountsHead) := by
  have hnew := fun p => new_handshake (p := p) h₂ hping hconnect hmax
  -- with prefix and state of one width the two numbers are the same
  have hwidth : ∀ h : Handshake, h.Framed → h.CountsHead →
      h.lengthBytes.length = h.stateBytes.length := by
    intro h hf hc
    rw [Handshake.Framed, hc, h.length_bytes] at hf
    omega
  have hiff : ∀ h : Handshake, h.lengthBytes.length = h.stateBytes.length →
      (h.Framed ↔ h.CountsHead) := by
    intro h hw
    rw [Handshake.Framed, Handshake.CountsHead, h.length_bytes, hw]
    omega
  constructor
  · rintro hacc ⟨h, hs, hne, hf | hc⟩
    · obtain ⟨k, hk, hkc, -⟩ := (hnew _).1 ((hacc _).2 ⟨h, hs, hf, h.describes_packet⟩)
      obtain rfl := hs.eq hk
      exact hne (hwidth h hf hkc)
    · obtain ⟨k, hk, hkf, -⟩ := (hacc _).1 ((hnew _).2 ⟨h, hs, hc, rfl⟩)
      obtain rfl := hs.eq hk
      exact hne (hwidth h hkf hc)
  · intro hcond p
    have hwidths : ∀ h : Handshake, StartsWith buf h → h.Framed ∨ h.CountsHead →
        h.lengthBytes.length = h.stateBytes.length := fun h hs hor => by
      by_contra hne
      exact hcond ⟨h, hs, hne, hor⟩
    rw [hnew]
    constructor
    · rintro ⟨h, hs, hc, rfl⟩
      exact ⟨h, hs, (hiff h (hwidths h hs (.inr hc))).2 hc, h.describes_packet⟩
    · rintro ⟨h, hs, hf, hd⟩
      exact ⟨h, hs, (hiff h (hwidths h hs (.inl hf))).1 hf, Handshake.describes_iff.1 hd⟩

/-- The handshake of a ping for the host `a`: prefix and next state take one byte each. -/
def shortHandshake : Handshake where
  lengthBytes := [7]
  length := 7
  lengthVarint := ⟨.last (by decide), by decide, by decide⟩
  idBytes := [0]
  idVarint := ⟨.last (by decide), by decide, by decide⟩
  versionBytes := [47]
  version := 47
  versionVarint := ⟨.last (by decide), by decide, by decide⟩
  sizeBytes := [1]
  size := 1
  hostname := "a"
  hostnameString := ⟨⟨.last (by decide), by decide, by decide⟩, by decide⟩
  port := 25565
  stateBytes := [1]
  nextState := 1
  stateVarint := ⟨.last (by decide), by decide, by decide⟩

theorem acceptsHandshakes_short : AcceptsHandshakes shortHandshake.bytes := by
  refine (acceptsHandshakes_iff (by decide) (by decide) (by decide) (by decide)).2 ?_
  rintro ⟨h, hs, hne, -⟩
  obtain rfl := hs.eq (k := shortHandshake) ⟨List.prefix_rfl, by decide⟩
  exact hne rfl

/-- The same for a host name of 130 bytes: the length prefix takes two bytes. -/
def longHandshake : Handshake where
  lengthBytes := [0x89, 0x01]
  length := 137
  lengthVarint := ⟨.more (by decide) (.last (by decide)), by decide, by decide⟩
  idBytes := [0]
  idVarint := ⟨.last (by decide), by decide, by decide⟩
  versionBytes := [47]
  version := 47
  versionVarint := ⟨.last (by decide), by decide, by decide⟩
  sizeBytes := [0x82, 0x01]
  size := 130
  hostname := String.ofList (List.replicate 130 'a')
  hostnameString := ⟨⟨.more (by decide) (.last (by decide)), by decide, by decide⟩, by decide +kernel⟩
  port := 25565
  stateBytes := [1]
  nextState := 1
  stateVarint := ⟨.last (by decide), by decide, by decide⟩

/-- The handshake is well formed, and it is refused. -/
theorem not_acceptsHandshakes_long :
    2 ≤ longHandshake.bytes.length ∧ ¬ [0xFE, 0x01] <+: longHandshake.bytes ∧
      ¬ [0x02] <+: longHandshake.bytes ∧ ¬ AcceptsHandshakes longHandshake.bytes := by
  refine ⟨by decide +kernel, by decide +kernel, by decide +kernel, fun hacc => ?_⟩
  have hnew : new longHandshake.bytes = .err .notValid := by decide +kernel
  have hframed : longHandshake.Framed := by
    rw [Handshake.Framed]
    decide +kernel
  have hok := (hacc _).2 ⟨longHandshake, ⟨List.prefix_rfl, by decide⟩, hframed,
    longHandshake.describes_packet⟩
  rw [hnew] at hok
  cases hok

/-! ### The legacy ping -/

/-- The parser reads the legacy ping of the host, whatever follows it. -/
def ReadsPing (version : UInt8) (hostname : String) (port : UInt32) (suffix : List UInt8) : Prop :=
  ∃ p, new (oldPing version hostname.toList port ++ suffix) = .ok (some p) ∧ p.pkgType = .legacy ∧
    p.version.toInt = version.toNat ∧ p.hostname = hostname ∧ p.port = port ∧
    p.length = 36 + 2 * (utf16 hostname.toList).length

theorem all_ascii_iff {l : List Char} : l.all (·.toNat < 128) = true ↔ ∀ c ∈ l, c.toNat < 128 := by
  rw [List.all_eq_true]
  exact forall₂_congr fun c _ => decide_eq_true_iff

theorem new_oldPing (version : UInt8) {hostname : List Char} (port : UInt32)
    (hh : (utf16 hostname).length ≤ 32764) (s : List UInt8) :
    new (oldPing version hostname port ++ s) =
      if hostname.all (·.toNat < 128) then
        .ok (some (legacyPacket (oldPing version hostname port).length version (String.ofList hostname) port))
      else .err .notValid := by
  have hlen := length_oldPingWith (UInt16.ofNat (7 + 2 * (utf16 hostname).length)) version hostname port
  have hrest : (UInt16.ofNat (7 + 2 * (utf16 hostname).length)).toNat = 7 + 2 * (utf16 hostname).length := by
    rw [UInt16.toNat_ofNat']
    omega
  have hstart : OLD_MINECRAFT_START.take 2 <+: oldPing version hostname port :=
    (List.take_prefix 2 _).trans (List.prefix_append _ _)
  obtain ⟨-, -, hascii⟩ := utf8ByteSize_utf16 hostname
  have hcount : 7 + (String.ofList hostname).utf8ByteSize * 2 =
      (UInt16.ofNat (7 + 2 * (utf16 hostname).length)).toNat ↔ hostname.all (·.toNat < 128) = true := by
    rw [hrest, all_ascii_iff, ← hascii]
    omega
  rw [new_append (by rw [oldPing]; omega), parserOf, if_pos hstart, parse, oldPing,
    oldPingPkg_append _ _ _ (by omega)]
  by_cases h : hostname.all (·.toNat < 128) = true
  · rw [if_pos (hcount.2 h), if_pos h]
  · rw [if_neg (fun he => h (hcount.1 he)), if_neg h]

/-- The parser counts the bytes of the host name where the packet counts its units: it reads the legacy
ping of exactly the ASCII host names. -/
theorem readsPing_iff (version : UInt8) (hostname : String) (port : UInt32) (suffix : List UInt8)
    (hh : (utf16 hostname.toList).length ≤ 32764) :
    ReadsPing version hostname port suffix ↔ ∀ c ∈ hostname.toList, c.toNat < 128 := by
  have hnew := new_oldPing version port hh suffix
  rw [← all_ascii_iff]
  constructor
  · rintro ⟨p, hp, -⟩
    by_contra hascii
    rw [hnew, if_neg hascii] at hp
    cases hp
  · intro hascii
    rw [if_pos hascii, String.ofList_toList] at hnew
    exact ⟨_, hnew, rfl, toInt_byteVersion version, rfl, rfl, length_oldPingWith _ _ _ _⟩

theorem readsPing_localhost : ReadsPing 74 "localhost" 25565 [1, 2] := by
  have hall : "localhost".toList.all (·.toNat < 128) = true := by decide
  exact (readsPing_iff 74 "localhost" 25565 [1, 2] (by decide)).2 (all_ascii_iff.1 hall)

/-- One character of two bytes and one unit is enough. -/
theorem not_readsPing_umlaut :
    (utf16 "ü".toList).length ≤ 32764 ∧ ¬ ReadsPing 74 "ü" 25565 [] := by
  refine ⟨by decide, ?_⟩
  rintro ⟨p, hp, -⟩
  have hnew : new (oldPing 74 "ü".toList 25565 ++ []) = .err .notValid := by decide +kernel
  rw [hnew] at hp
  cases hp

/-! ### The legacy connect packet -/

/-- A legacy connect packet is read back whatever follows it, and what is read back starts with 02 only
if it is one. -/
theorem legacy_connect_read_back :
    (∀ (version : UInt8) (username hostname : String) (port : UInt32) (suffix : List UInt8),
      (utf16 username.toList).length ≤ 65535 → (utf16 hostname.toList).length ≤ 65535 →
      ∃ p, new (oldConnect version username.toList hostname.toList port ++ suffix) = .ok (some p) ∧
        p.pkgType = .legacy ∧ p.version.toInt = version.toNat ∧ p.hostname = hostname ∧ p.port = port ∧
        p.length = (oldConnect version username.toList hostname.toList port).length) ∧
    ∀ buf p, [0x02] <+: buf → new buf = .ok (some p) →
      ∃ (version : UInt8) (username : String), (utf16 username.toList).length ≤ 65535 ∧
        (utf16 p.hostname.toList).length ≤ 65535 ∧
        buf.take p.length = oldConnect version username.toList p.hostname.toList p.port := by
  constructor
  · intro version username hostname port suffix hu hh
    have hnew := new_oldConnect version port hu hh suffix
    rw [String.ofList_toList] at hnew
    exact ⟨_, hnew, rfl, toInt_byteVersion version, rfl, rfl, rfl⟩
  · intro buf p hconnect hp
    have hping : ¬ OLD_MINECRAFT_START.take 2 <+: buf := by
      obtain ⟨s, rfl⟩ := hconnect
      intro h
      exact absurd (List.cons_prefix_cons.1 h).1 (by decide)
    have h₂ : 2 ≤ buf.length := by
      by_contra hlt
      rw [new_parserOf, if_pos (by omega)] at hp
      cases hp
    rw [new_of_two_le h₂, parserOf, if_neg hping, if_pos hconnect, parse_eq_ok] at hp
    obtain ⟨c, hp⟩ := hp
    obtain ⟨version, port, username, hulen, hlen, hr, he⟩ := oldConnectPkg_eq_ok hp
    have hport : p.port = port := by rw [he]; rfl
    have hlength : p.length = (oldConnect version username.toList p.hostname.toList port).length := by
      rw [he]; rfl
    have hbuf : buf = oldConnect version username.toList p.hostname.toList port ++ c.rest := hr.rest
    refine ⟨version, username, hulen, hlen, ?_⟩
    rw [hport, hlength, hbuf, List.take_left]

/-- A user and a host outside ASCII, a surrogate pair among them. -/
theorem legacy_connect_read_back_sample :
    (∃ p, new (oldConnect 74 "jürgen".toList "😀.example".toList 25565 ++ [1]) = .ok (some p) ∧
      p.hostname = "😀.example") := by
  obtain ⟨p, hp, -, -, hhost, -⟩ :=
    legacy_connect_read_back.1 74 "jürgen" "😀.example" 25565 [1] (by decide) (by decide)
  exact ⟨p, hp, hhost⟩

end MinecraftHelloPacket
end CraftIP
