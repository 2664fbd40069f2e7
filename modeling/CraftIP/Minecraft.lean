import CraftIP.Cursor

/-!
# The first packet of a Minecraft client (`protocol/src/minecraft.rs`)

`MinecraftHelloPacket.new` tells the three handshakes apart by their first bytes: the legacy server
list ping, the legacy connect packet and the modern handshake.
-/

namespace CraftIP
open ByteBuf Unicode Incremental

def OLD_MINECRAFT_START : List UInt8 :=
  [0xFE, 0x01, 0xFA, 0x00, 0x0B, 0x00, 0x4D, 0x00, 0x43, 0x00, 0x7C, 0x00, 0x50, 0x00, 0x69, 0x00,
    0x6E, 0x00, 0x67, 0x00, 0x48, 0x00, 0x6F, 0x00, 0x73, 0x00, 0x74]

def FORGE_STRING : String := "\x00FORGE"

inductive MinecraftHelloPacketType where
  | legacy
  | ping
  | connect
  | unknown
deriving DecidableEq, Repr

structure MinecraftHelloPacket where
  length : Nat
  pkgType : MinecraftHelloPacketType
  id : Int32
  version : Int32
  hostname : String
  forge : Bool
  port : UInt32
deriving DecidableEq, Repr

namespace MinecraftHelloPacket
open CraftIP.Parser Incremental.Parser

/-- `version as i32` -/
def byteVersion (version : UInt8) : Int32 := version.toUInt32.toInt32

def oldPingPkg : Parser MinecraftHelloPacket := do
  need OLD_MINECRAFT_START.length
  if !(← matchBytes OLD_MINECRAFT_START) then fail .notValid
  else
    need (2 + 1)
    let restData := (← getU16).toNat
    let version ← getU8
    let hostname ← getUtf16String
    let units ← checked (checkedMul hostname.utf8ByteSize 2)
    if (← checked (checkedAdd 7 units)) ≠ restData then fail .notValid
    else
      need 4
      let port ← getU32
      return {
        pkgType := .legacy
        length := ← position
        id := 0
        version := byteVersion version
        port
        forge := false
        hostname }

def oldConnectPkg : Parser MinecraftHelloPacket := do
  if !(← matchBytes [0x02]) then fail .notMatching
  else
    need 1
    let version ← getU8
    let _username ← getUtf16String
    let hostname ← getUtf16String
    need 4
    let port ← getU32
    return {
      pkgType := .legacy
      length := ← position
      id := 0
      version := byteVersion version
      port
      hostname
      forge := false }

def pkgTypeOf (nextState : Int32) : MinecraftHelloPacketType :=
  if nextState = 1 then .ping else if nextState = 2 then .connect else .unknown

/-- `hostname.split_once('\0')`, the part before -/
def beforeNul (hostname : String) : String :=
  String.ofList (hostname.toList.takeWhile (· ≠ '\x00'))

def newPkg : Parser MinecraftHelloPacket := do
  let pkgLength ← getVarint
  let pkgId ← getVarint
  if pkgId ≠ 0 then fail .notMatching
  else
    let version ← getVarint
    let hostname ← getUtf8String
    need 2
    let port ← getU16
    -- the length prefix is compared with the position behind the port, before the next state
    if (← position) ≠ asUsize pkgLength then fail .notValid
    else
      let nextState ← getVarint
      return {
        length := ← position
        pkgType := pkgTypeOf nextState
        id := pkgId
        port := port.toUInt32
        version
        hostname := beforeNul hostname
        forge := FORGE_STRING.toList.isSuffixOf hostname.toList }

/-- A parse of the whole buffer; the cursor is dropped. -/
def parse (p : Parser MinecraftHelloPacket) (buf : List UInt8) :
    Outcome PacketError (Option MinecraftHelloPacket) :=
  match p (Cursor.new buf) with
  | .ok (some (packet, _)) => .ok (some packet)
  | .ok none => .ok none
  | .err e => .err e
  | .panic => .panic

/-- `set_position(0)` on the cursor over `buf`. -/
def rewind (buf : List UInt8) : Parser Unit := fun _ => .ok (some ((), Cursor.new buf))

/-- Which of the three parsers reads the buffer. -/
def dispatch (buf : List UInt8) : Parser MinecraftHelloPacket := do
  if ← matchBytes (OLD_MINECRAFT_START.take 2) then
    rewind buf
    oldPingPkg
  else if ← matchBytes [0x02] then
    rewind buf
    oldConnectPkg
  else newPkg

/-- `MinecraftHelloPacket::new` -/
def new (buf : List UInt8) : Outcome PacketError (Option MinecraftHelloPacket) :=
  if buf.length < 2 then .ok none
  else parse (dispatch buf) buf

theorem dispatch_apply (buf : List UInt8) :
    dispatch buf (Cursor.new buf) =
      if (OLD_MINECRAFT_START.take 2).isPrefixOf buf then oldPingPkg (Cursor.new buf)
      else if List.isPrefixOf [0x02] buf then oldConnectPkg (Cursor.new buf)
      else newPkg (Cursor.new buf) := by
  have hping : matchBytes (OLD_MINECRAFT_START.take 2) (Cursor.new buf) = _ :=
    matchBytes_apply (show 0 + 2 ≤ USIZE_MAX by decide)
  have hconnect : matchBytes [0x02] (Cursor.new buf) = _ :=
    matchBytes_apply (show 0 + 1 ≤ USIZE_MAX by decide)
  rw [dispatch]
  by_cases h : (OLD_MINECRAFT_START.take 2).isPrefixOf buf = true
  · rw [if_pos (show List.isPrefixOf _ (Cursor.new buf).rest = true from h)] at hping
    rw [bind_some hping, if_pos rfl, if_pos h]
    rfl
  · rw [if_neg (show ¬ List.isPrefixOf _ (Cursor.new buf).rest = true from h)] at hping
    rw [bind_some hping, if_neg Bool.false_ne_true, if_neg h]
    by_cases h' : List.isPrefixOf [0x02] buf = true
    · rw [if_pos (show List.isPrefixOf _ (Cursor.new buf).rest = true from h')] at hconnect
      rw [bind_some hconnect, if_pos rfl, if_pos h']
      rfl
    · rw [if_neg (show ¬ List.isPrefixOf _ (Cursor.new buf).rest = true from h')] at hconnect
      rw [bind_some hconnect, if_neg Bool.false_ne_true, if_neg h']

/-- The first bytes decide which parser runs, from the start of the buffer. -/
theorem new_eq (buf : List UInt8) :
    new buf =
      if buf.length < 2 then .ok none
      else if (OLD_MINECRAFT_START.take 2).isPrefixOf buf then parse oldPingPkg buf
      else if List.isPrefixOf [0x02] buf then parse oldConnectPkg buf
      else parse newPkg buf := by
  rw [new, parse, dispatch_apply]
  simp only [parse]
  split_ifs <;> rfl

/-! ### The legacy connect packet -/

/-- The legacy connect packet of a user for a host. -/
def oldConnect (version : UInt8) (username hostname : List Char) (port : UInt32) : List UInt8 :=
  0x02 :: version :: (utf16String username ++ (utf16String hostname ++ be32 port))

theorem length_oldConnect (version : UInt8) (username hostname : List Char) (port : UInt32) :
    (oldConnect version username hostname port).length =
      10 + ((utf16 username).length + (utf16 hostname).length) * 2 := by
  simp only [oldConnect, List.length_cons, List.length_append, length_utf16String, length_be32]
  omega

theorem matchBytes_cons (b : UInt8) (s : List UInt8) :
    matchBytes [b] ⟨0, b :: s⟩ = .ok (some (true, ⟨1, s⟩)) :=
  matchBytes_append 0 s (show 0 + 1 ≤ USIZE_MAX by decide)

theorem oldConnectPkg_append (version : UInt8) {username hostname : List Char} (port : UInt32)
    (hu : (utf16 username).length ≤ 65535) (hh : (utf16 hostname).length ≤ 65535) (s : List UInt8) :
    oldConnectPkg ⟨0, oldConnect version username hostname port ++ s⟩ =
      .ok (some ({
        pkgType := .legacy
        length := (oldConnect version username hostname port).length
        id := 0
        version := byteVersion version
        port
        hostname := String.ofList hostname
        forge := false }, ⟨(oldConnect version username hostname port).length, s⟩)) := by
  have hport : be32 port ++ s ≠ [] := by simp [be32]
  have hhost : utf16String hostname ++ (be32 port ++ s) ≠ [] := by simp [utf16String, be16]
  rw [length_oldConnect, oldConnect, List.cons_append, List.cons_append, List.append_assoc,
    List.append_assoc, oldConnectPkg, bind_some (matchBytes_cons _ _), Bool.not_true,
    if_neg Bool.false_ne_true, bind_some (need_apply (by simp)), bind_some (getU8_cons _ version _),
    bind_some (getUtf16String_append hu _ hhost), bind_some (getUtf16String_append hh _ hport),
    bind_some (need_apply (by simp)), bind_some (getU32_append _ port s),
    bind_some (position_apply _), pure_apply]
  have he : 1 + 1 + (2 + (utf16 username).length * 2) + (2 + (utf16 hostname).length * 2) + 4 =
      10 + ((utf16 username).length + (utf16 hostname).length) * 2 := by omega
  rw [he]

/-- The parser reads a legacy connect packet back, whatever follows it. -/
theorem new_oldConnect (version : UInt8) {username hostname : List Char} (port : UInt32)
    (hu : (utf16 username).length ≤ 65535) (hh : (utf16 hostname).length ≤ 65535) (s : List UInt8) :
    new (oldConnect version username hostname port ++ s) = .ok (some {
      pkgType := .legacy
      length := (oldConnect version username hostname port).length
      id := 0
      version := byteVersion version
      port
      hostname := String.ofList hostname
      forge := false }) := by
  have hlen := length_oldConnect version username hostname port
  rw [new_eq, if_neg (by rw [List.length_append]; omega),
    if_neg (by simp [oldConnect, OLD_MINECRAFT_START]), if_pos (by simp [oldConnect]), parse,
    Cursor.new, oldConnectPkg_append version port hu hh s]

theorem exists_new_oldConnect (version : UInt8) (username hostname : List Char) (port : UInt32)
    (hu : (utf16 username).length ≤ 65535) (hh : (utf16 hostname).length ≤ 65535) :
    ∃ hello, hello.hostname = String.ofList hostname ∧
      new (oldConnect version username hostname port) = .ok (some hello) := by
  have hnew := new_oldConnect version port hu hh []
  rw [List.append_nil] at hnew
  refine ⟨_, ?_, hnew⟩
  rfl

/-- The parser asks for more while the username of a legacy connect packet is not whole. -/
theorem new_oldConnect_short (version : UInt8) (n : UInt16) {s : List UInt8}
    (hs : s.length ≤ n.toNat * 2) : new (0x02 :: version :: (be16 n ++ s)) = .ok none := by
  rw [new_eq, if_neg (by simp), if_neg (by simp [OLD_MINECRAFT_START]), if_pos (by simp), parse, Cursor.new,
    oldConnectPkg, bind_some (matchBytes_cons _ _), Bool.not_true, if_neg Bool.false_ne_true,
    bind_some (need_apply (by simp)), bind_some (getU8_cons _ version _)]
  have hshort : getUtf16String ⟨1 + 1, be16 n ++ s⟩ = .ok none := by
    rw [getUtf16String, bind_some (need_apply (by simp)), bind_some (getU16_append _ n s),
      checkedMul_units, checked_some_bind, bind_some (remaining_apply _), if_pos hs]
    rfl
  rw [bind_none hshort]

end MinecraftHelloPacket
end CraftIP
