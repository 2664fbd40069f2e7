import CraftIP.Lib.ByteBuf

/-!
# Packets of the tunnel and their wire form (`protocol/src/socket_packet.rs`)

A frame is a big-endian 16-bit word and a body. The top bit of the word says whether the body is raw
player data behind a 16-bit client id or a bincode form; the other fifteen bits are the body's length.
-/

namespace CraftIP
open ByteBuf

def KEY_SERVER_SUFFIX : String := ".t.craftip.net"
def MAXIMUM_CLIENTS : Nat := 255
def PROTOCOL_VERSION : UInt16 := 1
def PROXY_IDENTIFIER : String := "CraftIP"
def MAXIMUM_PACKET_SIZE : Nat := 1024 * 64

inductive PacketError where
  | notValid
  | notValidStringEncoding
  | notValidFirstPacket
  | notMatching
  | encodingError
  | tooLong
deriving DecidableEq, Repr

structure MinecraftDataPacket where
  bytes : List UInt8
deriving DecidableEq, Repr

abbrev PingPacket := UInt16
/-- `usize` on a 64-bit machine. -/
abbrev ClientID := UInt64
abbrev ChallengeDataType := Vector UInt8 64
abbrev SignatureDataType := Vector UInt8 64

structure ServerPublicKey where
  key : Vector UInt8 32
deriving DecidableEq, Repr

inductive ProxyAuthenticator where
  | publicKey (key : ServerPublicKey)
deriving DecidableEq, Repr

structure ProxyHelloPacket where
  version : UInt16
  hostname : String
  auth : ProxyAuthenticator
deriving DecidableEq, Repr

structure ProxyConnectedResponse where
  version : UInt16
deriving DecidableEq, Repr

structure ProxyDataPacket where
  clientId : ClientID
  data : MinecraftDataPacket
deriving DecidableEq, Repr

inductive SocketPacket where
  | proxyHello (packet : ProxyHelloPacket)
  | proxyAuthRequest (challenge : ChallengeDataType)
  | proxyAuthResponse (signature : SignatureDataType)
  | proxyHelloResponse (response : ProxyConnectedResponse)
  | proxyJoin (clientId : ClientID)
  | proxyDisconnect (clientId : ClientID)
  | proxyDisconnectAck (clientId : ClientID)
  | proxyError (message : String)
  | proxyData (packet : ProxyDataPacket)
  | proxyPing (ping : PingPacket)
  | proxyPong (ping : PingPacket)
  | unknown
deriving DecidableEq, Repr

/-- The `bincode` crate: the two functions the codec calls. -/
structure Bincode where
  serialize : SocketPacket → Option (List UInt8)
  deserialize : List UInt8 → Option SocketPacket

/-- `deserialize` undoes `serialize`. -/
def Bincode.Inverse (B : Bincode) : Prop :=
  ∀ p bs, B.serialize p = some bs → B.deserialize bs = some p

namespace SocketPacket
variable (B : Bincode)

/-- `encode_into`: the frame is appended to `buf`. Both lengths are cast to 16 bits unchecked. -/
def encodeInto (p : SocketPacket) (buf : List UInt8) : Except PacketError (List UInt8) :=
  match p with
  | .proxyData data =>
    let length := data.data.bytes.length + 2
    let start := UInt16.ofNat length ||| ((1 : UInt16) <<< 15)
    .ok (buf ++ (be16 start ++ be16 data.clientId.toUInt16 ++ data.data.bytes))
  | p =>
    match B.serialize p with
    | none => .error .encodingError
    | some packet => .ok (buf ++ (be16 (UInt16.ofNat packet.length) ++ packet))

/-- `decode_from`: the result and the buffer that is left. `usize` subtraction is checked. -/
def decodeFrom (buf : List UInt8) : Outcome PacketError (Option SocketPacket) × List UInt8 :=
  match getU16 buf with
  | none => (.ok none, buf)
  | some (start, _) =>
    let length := (start &&& ~~~((1 : UInt16) <<< 15)).toNat
    let isDataPacket := start &&& ((1 : UInt16) <<< 15) != 0
    if buf.length < length + 2 then (.ok none, buf)
    else if length > MAXIMUM_PACKET_SIZE then (.err .tooLong, buf)
    else
      match advance 2 buf with
      | none => (.panic, buf)
      | some buf =>
        if isDataPacket then
          match getU16 buf with
          | none => (.panic, buf)
          | some (clientId, buf) =>
            match checkedSub length 2 with
            | none => (.panic, buf)
            | some dataLen =>
              match splitTo dataLen buf with
              | none => (.panic, buf)
              | some (data, buf) =>
                (.ok (some (.proxyData ⟨clientId.toUInt64, ⟨data⟩⟩)), buf)
        else
          match splitTo length buf with
          | none => (.panic, buf)
          | some (packet, buf) =>
            match B.deserialize packet with
            | none => (.err .encodingError, buf)
            | some result => (.ok (some result), buf)

/-- The frame of a packet: what `encode_into` appends. -/
def frame (p : SocketPacket) : List UInt8 :=
  match encodeInto B p [] with
  | .ok bs => bs
  | .error _ => []

variable {B}

theorem encodeInto_proxyData (id : ClientID) (data buf : List UInt8) :
    encodeInto B (.proxyData ⟨id, ⟨data⟩⟩) buf =
      .ok (buf ++ (be16 (UInt16.ofNat (data.length + 2) ||| ((1 : UInt16) <<< 15)) ++
        be16 id.toUInt16 ++ data)) := rfl

theorem frame_proxyData (id : ClientID) (data : List UInt8) :
    frame B (.proxyData ⟨id, ⟨data⟩⟩) =
      be16 (UInt16.ofNat (data.length + 2) ||| ((1 : UInt16) <<< 15)) ++ be16 id.toUInt16 ++ data := by
  simp [frame, encodeInto_proxyData]

/-- `encode_into` appends: what was in the buffer stays in front. -/
theorem encodeInto_eq_append (p : SocketPacket) (buf : List UInt8) :
    encodeInto B p buf = (encodeInto B p []).map (buf ++ ·) := by
  cases p <;> simp only [encodeInto, List.nil_append] <;>
    first | rfl | (cases B.serialize _ <;> rfl)

theorem encodeInto_eq_ok {p : SocketPacket} {buf buf' : List UInt8}
    (h : encodeInto B p buf = .ok buf') : buf' = buf ++ frame B p := by
  rw [encodeInto_eq_append] at h
  cases hf : encodeInto B p [] with
  | error e => rw [hf] at h; cases h
  | ok f => rw [hf] at h; cases h; rw [frame, hf]

/-! ### What `decodeFrom` does, by the head word -/

/-- The declared length: the low fifteen bits of the head word. -/
def declared (hi lo : UInt8) : Nat := (hi.toNat * 256 + lo.toNat) % 32768

theorem toNat_declared (hi lo : UInt8) :
    (ofBe16 hi lo &&& ~~~((1 : UInt16) <<< 15)).toNat = declared hi lo := by
  rw [toNat_clear15, toNat_ofBe16, declared]

theorem declared_lt (hi lo : UInt8) : declared hi lo < 32768 := Nat.mod_lt _ (by decide)

theorem bit15_ofBe16 (hi lo : UInt8) :
    (ofBe16 hi lo &&& ((1 : UInt16) <<< 15) != 0) = decide (128 ≤ hi.toNat) := by
  have h := bit15_ne_zero (ofBe16 hi lo)
  rw [toNat_ofBe16] at h
  have := lo.toNat_lt
  rw [Bool.eq_iff_iff, bne_iff_ne, h, decide_eq_true_iff]
  omega

theorem decodeFrom_short {buf : List UInt8} (h : buf.length < 2) :
    decodeFrom B buf = (.ok none, buf) := by
  match buf with
  | [] => rfl
  | [_] => rfl

theorem decodeFrom_incomplete {hi lo : UInt8} {body : List UInt8}
    (h : body.length < declared hi lo) :
    decodeFrom B (hi :: lo :: body) = (.ok none, hi :: lo :: body) := by
  simp only [decodeFrom, getU16, toNat_declared, List.length_cons]
  rw [if_pos (by omega)]

theorem decodeFrom_bincode {hi lo : UInt8} {body : List UInt8} (hbit : hi.toNat < 128)
    (h : declared hi lo ≤ body.length) :
    decodeFrom B (hi :: lo :: body) =
      match B.deserialize (body.take (declared hi lo)) with
      | none => (.err .encodingError, body.drop (declared hi lo))
      | some p => (.ok (some p), body.drop (declared hi lo)) := by
  have hlt := declared_lt hi lo
  have hd : decide (128 ≤ hi.toNat) = false := decide_eq_false (by omega)
  simp only [decodeFrom, getU16, toNat_declared, bit15_ofBe16, hd, List.length_cons, advance]
  rw [if_neg (by omega), if_neg (by simp only [MAXIMUM_PACKET_SIZE]; omega), if_pos (by omega)]
  simp only [List.drop_succ_cons, List.drop_zero, Bool.false_eq_true, if_false, splitTo]
  rw [if_pos h]

theorem decodeFrom_data {hi lo c d : UInt8} {body : List UInt8} (hbit : 128 ≤ hi.toNat)
    (h2 : 2 ≤ declared hi lo) (h : declared hi lo ≤ body.length + 2) :
    decodeFrom B (hi :: lo :: c :: d :: body) =
      (.ok (some (.proxyData ⟨(ofBe16 c d).toUInt64, ⟨body.take (declared hi lo - 2)⟩⟩)),
        body.drop (declared hi lo - 2)) := by
  have hlt := declared_lt hi lo
  have hd : decide (128 ≤ hi.toNat) = true := decide_eq_true hbit
  simp only [decodeFrom, getU16, toNat_declared, bit15_ofBe16, hd, List.length_cons, advance]
  rw [if_neg (by omega), if_neg (by simp only [MAXIMUM_PACKET_SIZE]; omega), if_pos (by omega)]
  simp only [List.drop_succ_cons, List.drop_zero, if_true, checkedSub, if_pos h2, splitTo]
  rw [if_pos (by omega)]

/-- A data frame that declares fewer than the two bytes of its client id makes the decoder panic. -/
theorem decodeFrom_data_panic {hi lo : UInt8} {body : List UInt8} (hbit : 128 ≤ hi.toNat)
    (h2 : declared hi lo < 2) (h : declared hi lo ≤ body.length) :
    (decodeFrom B (hi :: lo :: body)).1 = .panic := by
  have hlt := declared_lt hi lo
  have hd : decide (128 ≤ hi.toNat) = true := decide_eq_true hbit
  simp only [decodeFrom, getU16, toNat_declared, bit15_ofBe16, hd, List.length_cons, advance]
  rw [if_neg (by omega), if_neg (by simp only [MAXIMUM_PACKET_SIZE]; omega), if_pos (by omega)]
  simp only [List.drop_succ_cons, List.drop_zero, if_true, checkedSub, if_neg (show ¬ 2 ≤ declared hi lo by omega)]
  split <;> rfl

end SocketPacket
end CraftIP
