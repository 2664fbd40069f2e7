import CraftIP.Lib.StreamDecoder
import CraftIP.Bincode

/-!
# The stream codec (`protocol/src/packet_codec.rs`)

`decode` is what the framed socket calls on its read buffer. As a decoder it is stable and reads back
the frames of `encodeInto`, so the tunnel is a stream of packets however the socket cuts it.
-/

namespace CraftIP
open ByteBuf SocketPacket StreamDecoder

inductive PacketCodecError where
  | maxLineLengthExceeded
  | packetCodec (e : PacketError)
  | io
deriving DecidableEq, Repr

namespace PacketCodec
variable {B : Bincode}

def decode (B : Bincode) (buf : List UInt8) :
    Outcome PacketCodecError (Option SocketPacket) × List UInt8 :=
  if buf.isEmpty then (.ok none, buf)
  else
    match decodeFrom B buf with
    | (.ok p, buf) => (.ok p, buf)
    | (.err e, buf) => (.err (.packetCodec e), buf)
    | (.panic, buf) => (.panic, buf)

def encode (B : Bincode) (p : SocketPacket) (buf : List UInt8) :
    Except PacketCodecError (List UInt8) :=
  match encodeInto B p buf with
  | .ok buf => .ok buf
  | .error _ => .error .io

theorem encode_eq_ok {B : Bincode} {p : SocketPacket} {buf buf' : List UInt8}
    (h : encode B p buf = .ok buf') : buf' = buf ++ frame B p := by
  rw [encode] at h
  split at h
  · next he => cases h; exact encodeInto_eq_ok he
  · cases h

/-- `decode` as a stream decoder: the framed socket stops at an error, and a panic ends its task. -/
def decoder (B : Bincode) : Decoder SocketPacket UInt8 := fun buf =>
  match decode B buf with
  | (.ok none, buf) => .wait buf
  | (.ok (some p), buf) => .item p buf
  | (.err _, _) => .stop
  | (.panic, _) => .stop

theorem decodeFrom_of_item {buf rest : List UInt8} {p : SocketPacket}
    (h : decoder B buf = .item p rest) : decodeFrom B buf = (.ok (some p), rest) := by
  match buf with
  | [] => cases h
  | b :: bs =>
    simp only [decoder, decode, List.isEmpty_cons, Bool.false_eq_true, if_false] at h
    generalize decodeFrom B (b :: bs) = r at h ⊢
    obtain ⟨o, b'⟩ := r
    match o with
    | .ok none => cases h
    | .ok (some q) => cases h; rfl
    | .err e => cases h
    | .panic => cases h

/-! ### One lemma for each shape of buffer -/

theorem decoder_short {buf : List UInt8} (h : buf.length < 2) : decoder B buf = .wait buf := by
  match buf with
  | [] => rfl
  | [_] => rfl

theorem decoder_incomplete {hi lo : UInt8} {body : List UInt8} (h : body.length < declared hi lo) :
    decoder B (hi :: lo :: body) = .wait (hi :: lo :: body) := by
  simp [decoder, decode, decodeFrom_incomplete h]

theorem decoder_bincode {hi lo : UInt8} {body : List UInt8} (hbit : hi.toNat < 128)
    (h : declared hi lo ≤ body.length) :
    decoder B (hi :: lo :: body) =
      match B.deserialize (body.take (declared hi lo)) with
      | none => .stop
      | some p => .item p (body.drop (declared hi lo)) := by
  simp only [decoder, decode, List.isEmpty_cons, decodeFrom_bincode hbit h]
  cases B.deserialize (body.take (declared hi lo)) <;> rfl

theorem decoder_data {hi lo c d : UInt8} {body : List UInt8} (hbit : 128 ≤ hi.toNat)
    (h2 : 2 ≤ declared hi lo) (h : declared hi lo ≤ body.length + 2) :
    decoder B (hi :: lo :: c :: d :: body) =
      .item (.proxyData ⟨(ofBe16 c d).toUInt64, ⟨body.take (declared hi lo - 2)⟩⟩)
        (body.drop (declared hi lo - 2)) := by
  simp [decoder, decode, decodeFrom_data hbit h2 h]

theorem decoder_data_panic {hi lo : UInt8} {body : List UInt8} (hbit : 128 ≤ hi.toNat)
    (h2 : declared hi lo < 2) (h : declared hi lo ≤ body.length) :
    decoder B (hi :: lo :: body) = .stop := by
  have hp := decodeFrom_data_panic (B := B) hbit h2 h
  simp only [decoder, decode, List.isEmpty_cons]
  generalize decodeFrom B (hi :: lo :: body) = r at hp ⊢
  obtain ⟨o, b⟩ := r
  obtain rfl : o = .panic := hp
  rfl

/-- The shapes a buffer can have. -/
inductive Shape : List UInt8 → Prop
  | short {buf : List UInt8} (h : buf.length < 2) : Shape buf
  | incomplete {hi lo : UInt8} {body : List UInt8} (h : body.length < declared hi lo) :
    Shape (hi :: lo :: body)
  | bincode {hi lo : UInt8} {body : List UInt8} (hbit : hi.toNat < 128)
    (h : declared hi lo ≤ body.length) : Shape (hi :: lo :: body)
  | data {hi lo c d : UInt8} {body : List UInt8} (hbit : 128 ≤ hi.toNat) (h2 : 2 ≤ declared hi lo)
    (h : declared hi lo ≤ body.length + 2) : Shape (hi :: lo :: c :: d :: body)
  | panic {hi lo : UInt8} {body : List UInt8} (hbit : 128 ≤ hi.toNat) (h2 : declared hi lo < 2)
    (h : declared hi lo ≤ body.length) : Shape (hi :: lo :: body)

theorem Shape.of (buf : List UInt8) : Shape buf := by
  match buf with
  | [] => exact .short (by simp)
  | [_] => exact .short (by simp)
  | hi :: lo :: body =>
    by_cases h : body.length < declared hi lo
    · exact .incomplete h
    by_cases hbit : hi.toNat < 128
    · exact .bincode hbit (by omega)
    by_cases h2 : declared hi lo < 2
    · exact .panic (by omega) h2 (by omega)
    match body with
    | [] => simp at h; omega
    | [_] => simp at h; omega
    | c :: d :: body => exact .data (by omega) (by omega) (by simp at h; omega)

theorem decoder_stable (B : Bincode) : Stable (decoder B) where
  nil := rfl
  wait_rest := by
    intro b r hb
    cases Shape.of b with
    | short h => rw [decoder_short h] at hb; cases hb; rfl
    | incomplete h => rw [decoder_incomplete h] at hb; cases hb; rfl
    | bincode hbit h => rw [decoder_bincode hbit h] at hb; split at hb <;> cases hb
    | data hbit h2 h => rw [decoder_data hbit h2 h] at hb; cases hb
    | panic hbit h2 h => rw [decoder_data_panic hbit h2 h] at hb; cases hb
  item_append := by
    intro b i r hb s
    cases Shape.of b with
    | short h => rw [decoder_short h] at hb; cases hb
    | incomplete h => rw [decoder_incomplete h] at hb; cases hb
    | @bincode hi lo body hbit h =>
      have h' : declared hi lo ≤ (body ++ s).length := by simp; omega
      rw [decoder_bincode hbit h] at hb
      rw [List.cons_append, List.cons_append, decoder_bincode hbit h', List.take_append_of_le_length h,
        List.drop_append_of_le_length h]
      revert hb
      cases B.deserialize (body.take (declared hi lo)) <;> intro hb <;> cases hb
      rfl
    | @data hi lo c d body hbit h2 h =>
      have h' : declared hi lo ≤ (body ++ s).length + 2 := by simp; omega
      rw [decoder_data hbit h2 h] at hb
      simp only [List.cons_append]
      rw [decoder_data hbit h2 h', List.take_append_of_le_length (by omega),
        List.drop_append_of_le_length (by omega)]
      cases hb; rfl
    | panic hbit h2 h => rw [decoder_data_panic hbit h2 h] at hb; cases hb
  stop_append := by
    intro b hb s
    cases Shape.of b with
    | short h => rw [decoder_short h] at hb; cases hb
    | incomplete h => rw [decoder_incomplete h] at hb; cases hb
    | @bincode hi lo body hbit h =>
      have h' : declared hi lo ≤ (body ++ s).length := by simp; omega
      rw [decoder_bincode hbit h] at hb
      rw [List.cons_append, List.cons_append, decoder_bincode hbit h', List.take_append_of_le_length h]
      revert hb
      cases B.deserialize (body.take (declared hi lo)) <;> intro hb <;> cases hb
      rfl
    | data hbit h2 h => rw [decoder_data hbit h2 h] at hb; cases hb
    | @panic hi lo body hbit h2 h =>
      exact decoder_data_panic hbit h2 (by simp; omega)
  item_lt := by
    intro b i r hb
    cases Shape.of b with
    | short h => rw [decoder_short h] at hb; cases hb
    | incomplete h => rw [decoder_incomplete h] at hb; cases hb
    | bincode hbit h =>
      rw [decoder_bincode hbit h] at hb
      split at hb <;> cases hb
      simp; omega
    | data hbit h2 h =>
      rw [decoder_data hbit h2 h] at hb
      cases hb
      simp; omega
    | panic hbit h2 h => rw [decoder_data_panic hbit h2 h] at hb; cases hb

/-! ### Whole frames -/

/-- `decode_from` returns normally, and either leaves the buffer as it is or removes one frame from its
front: the head word and as many bytes as it declares. -/
structure TakesWhole (B : Bincode) (buf : List UInt8) : Prop where
  returns : (decodeFrom B buf).1 ≠ .panic
  waits : (decodeFrom B buf).1 = .ok none → (decodeFrom B buf).2 = buf
  takes : (decodeFrom B buf).1 ≠ .ok none → ∃ hi lo body, buf = hi :: lo :: body ∧
    declared hi lo ≤ body.length ∧ (decodeFrom B buf).2 = buf.drop (2 + declared hi lo)

/-- The buffer starts with a complete data frame that has no room for the client id. -/
def IdMissing (buf : List UInt8) : Prop :=
  ∃ hi lo body, buf = hi :: lo :: body ∧ 128 ≤ hi.toNat ∧ declared hi lo < 2 ∧
    declared hi lo ≤ body.length

theorem TakesWhole.of_waits {buf : List UInt8} (hd : decodeFrom B buf = (.ok none, buf)) :
    TakesWhole B buf where
  returns := by rw [hd]; simp
  waits _ := by rw [hd]
  takes h := absurd (by rw [hd]) h

theorem TakesWhole.of_takes {hi lo : UInt8} {body : List UInt8}
    {o : Outcome PacketError (Option SocketPacket)} (h : declared hi lo ≤ body.length)
    (hd : decodeFrom B (hi :: lo :: body) = (o, body.drop (declared hi lo))) (hpanic : o ≠ .panic)
    (hnone : o ≠ .ok none) : TakesWhole B (hi :: lo :: body) where
  returns := by rw [hd]; exact hpanic
  waits he := by rw [hd] at he; exact absurd he hnone
  takes _ := by
    refine ⟨hi, lo, body, rfl, h, ?_⟩
    rw [hd, Nat.add_comm]; rfl

/-- The decoder takes whole frames from every buffer but one that starts with such a data frame. -/
theorem decodeFrom_takes_whole_iff (B : Bincode) (buf : List UInt8) :
    TakesWhole B buf ↔ ¬ IdMissing buf := by
  constructor
  · rintro h ⟨hi, lo, body, rfl, hbit, h2, hlen⟩
    exact h.returns (decodeFrom_data_panic hbit h2 hlen)
  · intro hid
    cases Shape.of buf with
    | short h => exact .of_waits (decodeFrom_short h)
    | incomplete h => exact .of_waits (decodeFrom_incomplete h)
    | @bincode hi lo body hbit h =>
      have hd := decodeFrom_bincode (B := B) hbit h
      cases hdes : B.deserialize (body.take (declared hi lo)) with
      | none => rw [hdes] at hd; exact .of_takes h hd (by simp) (by simp)
      | some p => rw [hdes] at hd; exact .of_takes h hd (by simp) (by simp)
    | @data hi lo c d body hbit h2 h =>
      have hdrop : (c :: d :: body).drop (declared hi lo) = body.drop (declared hi lo - 2) := by
        obtain ⟨n, hn⟩ : ∃ n, declared hi lo = n + 2 := ⟨declared hi lo - 2, by omega⟩
        rw [hn]; rfl
      have hd := decodeFrom_data (B := B) (c := c) (d := d) hbit h2 h
      rw [← hdrop] at hd
      exact .of_takes (by simp only [List.length_cons]; omega) hd (by simp) (by simp)
    | panic hbit h2 h => exact absurd ⟨_, _, _, rfl, hbit, h2, h⟩ hid

/-- The two bytes 80 00 are a complete data frame of length 0. -/
theorem decodeFrom_not_whole : ¬ TakesWhole BincodeFormat.crate [0x80, 0] := fun h =>
  h.returns (decodeFrom_data_panic (by decide) (by decide) (by decide))

/-! ### Frames -/

/-- The packets whose frame fits the header: a data frame's id and length fit their fields, any other
packet has a bincode form that fits. -/
def Encodable (B : Bincode) : SocketPacket → Prop
  | .proxyData packet => packet.data.bytes.length ≤ 32765 ∧ packet.clientId.toNat ≤ 65535
  | p => ∃ bs, B.serialize p = some bs ∧ bs.length ≤ 32767

/-- The head word of a frame of `n ≤ 32767` bytes. -/
theorem declared_be16 {n : Nat} (hn : n ≤ 32767) {x : UInt16} (hx : x.toNat % 32768 = n) :
    declared (x / 256).toUInt8 x.toUInt8 = n := by
  have := x.toNat_lt
  simp only [declared, UInt16.toNat_toUInt8, UInt16.toNat_div, UInt16.reduceToNat]
  omega

theorem toNat_hi (x : UInt16) : (x / 256).toUInt8.toNat = x.toNat / 256 := by
  have := x.toNat_lt
  simp only [UInt16.toNat_toUInt8, UInt16.toNat_div, UInt16.reduceToNat]
  omega

theorem ofBe16_toUInt16 {id : ClientID} (h : id.toNat ≤ 65535) : id.toUInt16.toUInt64 = id := by
  apply UInt64.toNat_inj.1
  simp only [UInt16.toNat_toUInt64, UInt64.toNat_toUInt16]
  omega

/-- The header of a data frame. -/
theorem dataHeader {n : Nat} (hn : n ≤ 32765) :
    (UInt16.ofNat (n + 2) ||| ((1 : UInt16) <<< 15)).toNat = n + 2 + 32768 := by
  rw [toNat_set15, UInt16.toNat_ofNat']; omega

theorem frame_bincode {p : SocketPacket} (hp : ∀ d, p ≠ .proxyData d) {bs : List UInt8}
    (hs : B.serialize p = some bs) : frame B p = be16 (UInt16.ofNat bs.length) ++ bs := by
  cases p <;> first | exact absurd rfl (hp _) | simp [frame, encodeInto, hs]

theorem encodable_bincode {p : SocketPacket} (hp : ∀ d, p ≠ .proxyData d) (h : Encodable B p) :
    ∃ bs, B.serialize p = some bs ∧ bs.length ≤ 32767 := by
  cases p <;> first | exact absurd rfl (hp _) | exact h

theorem decoder_data_frame {id : ClientID} {data : List UInt8} (hd : data.length ≤ 32765)
    (hid : id.toNat ≤ 65535) (rest : List UInt8) :
    decoder B (frame B (.proxyData ⟨id, ⟨data⟩⟩) ++ rest) = .item (.proxyData ⟨id, ⟨data⟩⟩) rest := by
  have hx := dataHeader hd
  rw [frame_proxyData]
  generalize UInt16.ofNat (data.length + 2) ||| ((1 : UInt16) <<< 15) = x at hx ⊢
  have hdec : declared (x / 256).toUInt8 x.toUInt8 = data.length + 2 :=
    declared_be16 (by omega) (by omega)
  simp only [be16, List.cons_append, List.nil_append]
  rw [decoder_data (by rw [toNat_hi]; omega) (by omega) (by simp; omega), hdec, Nat.add_sub_cancel,
    List.take_left, List.drop_left, ofBe16_be16, ofBe16_toUInt16 hid]

theorem decoder_bincode_frame (hB : B.Inverse) {p : SocketPacket} {bs : List UInt8}
    (hp : ∀ d, p ≠ .proxyData d) (hs : B.serialize p = some bs) (hl : bs.length ≤ 32767)
    (rest : List UInt8) : decoder B (frame B p ++ rest) = .item p rest := by
  have hx : (UInt16.ofNat bs.length).toNat = bs.length := by rw [UInt16.toNat_ofNat']; omega
  rw [frame_bincode hp hs]
  generalize UInt16.ofNat bs.length = x at hx ⊢
  have hdec : declared (x / 256).toUInt8 x.toUInt8 = bs.length := declared_be16 hl (by omega)
  simp only [be16, List.cons_append, List.nil_append]
  rw [decoder_bincode (by rw [toNat_hi]; omega) (by simp; omega), hdec, List.take_left,
    List.drop_left, hB p bs hs]

/-- The length field of a frame counts the bytes behind it. -/
theorem frame_header {p : SocketPacket} (h : Encodable B p) :
    ∃ hi lo body, frame B p = hi :: lo :: body ∧ declared hi lo = body.length := by
  by_cases hp : ∃ d, p = .proxyData d
  · obtain ⟨⟨id, ⟨data⟩⟩, rfl⟩ := hp
    have hd : data.length ≤ 32765 := h.1
    have hx := dataHeader hd
    refine ⟨_, _, be16 id.toUInt16 ++ data, frame_proxyData id data, ?_⟩
    rw [declared_be16 (n := data.length + 2) (by omega) (by omega)]
    simp; omega
  · have hp : ∀ d, p ≠ .proxyData d := fun d e => hp ⟨d, e⟩
    obtain ⟨bs, hs, hl⟩ := encodable_bincode hp h
    refine ⟨_, _, bs, frame_bincode hp hs, ?_⟩
    rw [declared_be16 hl (by rw [UInt16.toNat_ofNat']; omega)]

theorem decoder_frames (hB : B.Inverse) : Frames (decoder B) (frame B) (Encodable B) where
  whole := by
    intro p h rest
    by_cases hp : ∃ d, p = .proxyData d
    · obtain ⟨⟨id, ⟨data⟩⟩, rfl⟩ := hp
      exact decoder_data_frame h.1 h.2 rest
    · have hp : ∀ d, p ≠ .proxyData d := fun d e => hp ⟨d, e⟩
      obtain ⟨bs, hs, hl⟩ := encodable_bincode hp h
      exact decoder_bincode_frame hB hp hs hl rest
  part := by
    intro p h q hq hne
    obtain ⟨hi, lo, body, hf, hdec⟩ := frame_header h
    rw [hf] at hq hne
    match q with
    | [] => rfl
    | [_] => rfl
    | hi' :: lo' :: body' =>
      obtain ⟨h1, hq1⟩ := List.cons_prefix_cons.1 hq
      obtain ⟨h2, hq2⟩ := List.cons_prefix_cons.1 hq1
      subst h1 h2
      have hlt : body'.length < body.length :=
        Nat.lt_of_le_of_ne hq2.length_le fun e => hne (by rw [hq2.eq_of_length e])
      exact decoder_incomplete (by omega)

/-- The sender's side: the packets are encoded one after the other into one buffer. -/
def encodeAll (B : Bincode) : List SocketPacket → List UInt8 → Except PacketError (List UInt8)
  | [], buf => .ok buf
  | p :: ps, buf =>
    match encodeInto B p buf with
    | .ok buf => encodeAll B ps buf
    | .error e => .error e

theorem encodeAll_ok {ps : List SocketPacket} {buf s : List UInt8}
    (h : encodeAll B ps buf = .ok s) : s = buf ++ (ps.map (frame B)).flatten := by
  induction ps generalizing buf with
  | nil => simp only [encodeAll] at h; cases h; simp
  | cons p ps ih =>
    simp only [encodeAll] at h
    cases he : encodeInto B p buf with
    | error e => rw [he] at h; cases h
    | ok b =>
      rw [he] at h
      rw [ih h, encodeInto_eq_ok he]
      simp

/-- The codec on a stream. However the bytes are cut, the packets, the outcome and the leftover are
those of the whole stream; a concatenation of frames gives back its packets; and a part of it gives
the packets whose frames are whole in it, and waits. -/
theorem stream_codec (B : Bincode) (hB : B.Inverse) :
    (∀ cs : List (List UInt8), feedAll (decoder B) (some []) cs = drain (decoder B) cs.flatten) ∧
    (∀ (ps : List SocketPacket) (s : List UInt8), (∀ p ∈ ps, Encodable B p) →
      encodeAll B ps [] = .ok s →
      drain (decoder B) s = (ps, some []) ∧
      ∀ q, q <+: s → q ≠ s → (drain (decoder B) q).1 = fitting (frame B) ps q.length ∧
        ∃ l, (drain (decoder B) q).2 = some l) := by
  have hd := decoder_stable B
  have hf := decoder_frames hB
  refine ⟨fun cs => feedAll_eq_drain hd [] hd.nil cs, fun ps s hP hs => ?_⟩
  obtain rfl : s = (ps.map (frame B)).flatten := encodeAll_ok hs
  exact ⟨drain_frames hd hf ps hP, fun q hq _ => drain_cut hd hf ps hP hq⟩

/-- A ping and a data packet, whole and cut before the last byte. -/
theorem stream_codec_ping_data :
    let ps : List SocketPacket := [.proxyPing 1, .proxyData ⟨0x1234, ⟨[49, 50]⟩⟩]
    let s : List UInt8 := [0, 6, 9, 0, 0, 0, 1, 0, 128, 4, 0x12, 0x34, 49, 50]
    drain (decoder BincodeFormat.crate) s = (ps, some []) ∧
      (drain (decoder BincodeFormat.crate) (s.take 13)).1 = [.proxyPing 1] := by
  intro ps s
  have henc : ∀ p ∈ ps, Encodable BincodeFormat.crate p := by
    intro p hp
    simp only [ps, List.mem_cons, List.not_mem_nil, or_false] at hp
    rcases hp with rfl | rfl
    · exact ⟨_, rfl, by decide⟩
    · exact ⟨by decide, by decide⟩
  have h := (stream_codec BincodeFormat.crate BincodeFormat.crate_inverse).2 ps s henc (by decide)
  refine ⟨h.1, (h.2 (s.take 13) (List.take_prefix 13 s) (by decide)).1.trans (by decide)⟩

end PacketCodec
end CraftIP
