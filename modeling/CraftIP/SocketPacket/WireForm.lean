import CraftIP.PacketCodec

/-!
# The wire form of a packet

Which bytes the decoder takes for a packet, against the bytes that the encoder makes of it. A data frame is
the encoder's own, byte for byte. A frame of the other kind begins like the encoder's, but the deserializer does
not look at what follows the packet's form in the body.
-/

namespace CraftIP
open ByteBuf

namespace SocketPacket
variable {hi lo : UInt8} {body : List UInt8} {p : SocketPacket}

/-- The decoder takes exactly the encoder's bytes for a packet, and one for a data packet exactly if the top bit
is set. -/
def OneWireForm (B : Bincode) (buf : List UInt8) : Prop :=
  ∀ p rest, decodeFrom B buf = (.ok (some p), rest) →
    (∃ w, encodeInto B p [] = .ok w ∧ buf = w ++ rest) ∧
    ((∃ d, p = .proxyData d) ↔ ∃ hi body, buf = hi :: body ∧ 128 ≤ hi.toNat)

/-- The head word is made again from the length and the top bit. -/
theorem be16_declared (hbit : hi.toNat < 128) : be16 (UInt16.ofNat (declared hi lo)) = [hi, lo] := by
  have hlo := lo.toNat_lt
  have hx : UInt16.ofNat (declared hi lo) = ofBe16 hi lo := by
    rw [← UInt16.toNat_inj, toNat_ofBe16, UInt16.toNat_ofNat', declared]
    omega
  rw [hx, be16_ofBe16]

theorem be16_declared_set15 (hbit : 128 ≤ hi.toNat) :
    be16 (UInt16.ofNat (declared hi lo) ||| ((1 : UInt16) <<< 15)) = [hi, lo] := by
  have hhi := hi.toNat_lt
  have hlo := lo.toNat_lt
  have hx : UInt16.ofNat (declared hi lo) ||| ((1 : UInt16) <<< 15) = ofBe16 hi lo := by
    rw [← UInt16.toNat_inj, toNat_ofBe16, toNat_set15, UInt16.toNat_ofNat', declared]
    omega
  rw [hx, be16_ofBe16]

/-- The encoder makes a data frame again that the decoder took. -/
theorem encodeInto_data (B : Bincode) {c d : UInt8} (hbit : 128 ≤ hi.toNat) (h2 : 2 ≤ declared hi lo)
    (h : declared hi lo ≤ body.length + 2) :
    encodeInto B (.proxyData ⟨(ofBe16 c d).toUInt64, ⟨body.take (declared hi lo - 2)⟩⟩) [] =
      .ok (hi :: lo :: c :: d :: body.take (declared hi lo - 2)) := by
  have hlen : (body.take (declared hi lo - 2)).length + 2 = declared hi lo := by
    rw [List.length_take_of_le (by omega)]
    omega
  have hid : (ofBe16 c d).toUInt64.toUInt16 = ofBe16 c d := by
    rw [← UInt16.toNat_inj, UInt64.toNat_toUInt16, UInt16.toNat_toUInt64]
    exact Nat.mod_eq_of_lt (ofBe16 c d).toNat_lt
  rw [encodeInto_proxyData, hlen, be16_declared_set15 hbit, hid, be16_ofBe16]
  rfl

theorem encodeInto_bincode {B : Bincode} (hp : ∀ d, p ≠ .proxyData d) {form : List UInt8}
    (hform : B.serialize p = some form) :
    encodeInto B p [] = .ok (be16 (UInt16.ofNat form.length) ++ form) := by
  cases p with
  | proxyData d => exact absurd rfl (hp d)
  | _ => simp only [encodeInto, hform, List.nil_append]

/-- The encoder's frame of a form is what was taken exactly if nothing was ignored. -/
theorem frame_eq_iff {form extra rest : List UInt8} (hbit : hi.toNat < 128)
    (hlen : (form ++ extra).length = declared hi lo) :
    be16 (UInt16.ofNat form.length) ++ form ++ rest = hi :: lo :: (form ++ extra ++ rest) ↔ extra = [] := by
  constructor
  · intro h
    have hcount := congrArg List.length h
    simp only [List.length_append, List.length_cons, length_be16] at hcount
    exact List.eq_nil_of_length_eq_zero (by omega)
  · rintro rfl
    rw [List.append_nil] at hlen ⊢
    rw [hlen, be16_declared hbit]
    rfl

/-- For every buffer of which the decoder takes a packet. If the top bit of the first byte is set, it is a data
packet, and the encoder makes exactly the bytes again that were taken. If it is not and the packet is another
one, the packet's form was taken and whatever follows it in the body; the encoder makes the form behind its own
length, which are the bytes that were taken if and only if nothing follows. -/
theorem wire_form {buf rest : List UInt8} (h : decodeFrom BincodeFormat.crate buf = (.ok (some p), rest)) :
    ∃ hi lo body, buf = hi :: lo :: body ∧
      (128 ≤ hi.toNat → (∃ d, p = .proxyData d) ∧
        ∃ w, encodeInto BincodeFormat.crate p [] = .ok w ∧ w ++ rest = buf) ∧
      (hi.toNat < 128 → (∀ d, p ≠ .proxyData d) → ∃ form extra, BincodeFormat.crate.serialize p = some form ∧
        body = form ++ extra ++ rest ∧ (form ++ extra).length = declared hi lo ∧
        encodeInto BincodeFormat.crate p [] = .ok (be16 (UInt16.ofNat form.length) ++ form) ∧
        (be16 (UInt16.ofNat form.length) ++ form ++ rest = buf ↔ extra = [])) := by
  cases PacketCodec.Shape.of buf with
  | short hlt => rw [decodeFrom_short hlt] at h; cases h
  | incomplete hlt => rw [decodeFrom_incomplete hlt] at h; cases h
  | @bincode hi lo body hbit hlen =>
    refine ⟨hi, lo, body, rfl, fun hset => absurd hbit (by omega), fun _ hp => ?_⟩
    rw [decodeFrom_bincode hbit hlen] at h
    cases hdes : BincodeFormat.crate.deserialize (body.take (declared hi lo)) with
    | none => rw [hdes] at h; cases h
    | some q =>
      rw [hdes] at h
      cases h
      obtain ⟨form, extra, hform, htake⟩ := BincodeFormat.deserialize_eq_some hdes
      have hbody : body = form ++ extra ++ body.drop (declared hi lo) := by
        rw [← htake, List.take_append_drop]
      have hdeclared : (form ++ extra).length = declared hi lo := by
        rw [← htake, List.length_take_of_le hlen]
      refine ⟨form, extra, hform, hbody, hdeclared, encodeInto_bincode hp hform, ?_⟩
      have hiff := @frame_eq_iff hi lo form extra (body.drop (declared hi lo)) hbit hdeclared
      rwa [← hbody] at hiff
  | @data hi lo c d body hbit h2 hlen =>
    refine ⟨hi, lo, c :: d :: body, rfl, fun _ => ?_, fun hclear => absurd hbit (by omega)⟩
    rw [decodeFrom_data hbit h2 hlen] at h
    cases h
    refine ⟨⟨_, rfl⟩, _, encodeInto_data _ hbit h2 hlen, ?_⟩
    simp only [List.cons_append, List.take_append_drop]
  | panic hbit h2 hlen =>
    have hpanic := decodeFrom_data_panic (B := BincodeFormat.crate) hbit h2 hlen
    rw [h] at hpanic
    cases hpanic

/-- A data packet of one byte, with a byte of the next frame behind it. -/
theorem wire_form_data :
    ∃ w, encodeInto BincodeFormat.crate (.proxyData ⟨0x1234, ⟨[49]⟩⟩) [] = .ok w ∧
      w ++ [6] = [0x80, 3, 0x12, 0x34, 49, 6] := by
  have h : decodeFrom BincodeFormat.crate [0x80, 3, 0x12, 0x34, 49, 6] =
      (.ok (some (.proxyData ⟨0x1234, ⟨[49]⟩⟩)), [6]) := by decide
  obtain ⟨hi, lo, body, he, hdata, -⟩ := wire_form h
  cases he
  exact (hdata (by decide)).2

/-- A ping with a byte behind it in the frame. -/
theorem not_oneWireForm : ¬ ∀ buf, OneWireForm BincodeFormat.crate buf := by
  intro h
  obtain ⟨⟨w, hw, hbuf⟩, -⟩ := h [0, 7, 9, 0, 0, 0, 1, 0, 0] (.proxyPing 1) [] (by decide)
  have hform : encodeInto BincodeFormat.crate (.proxyPing 1) [] = .ok [0, 6, 9, 0, 0, 0, 1, 0] := by decide
  cases hw.symm.trans hform
  cases hbuf

end SocketPacket
end CraftIP
