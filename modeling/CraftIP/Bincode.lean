import CraftIP.Lib.FixInt
import CraftIP.SocketPacket

/-!
# The bincode form of a packet

`bincode 1.3` with its default options: the variant's index in 32 bits, then its fields in order,
integers little-endian and of fixed width, strings and byte strings behind a 64-bit length, arrays
without one. `deserialize` does not look at what follows the value.
-/

namespace CraftIP
open FixInt

namespace BincodeFormat

def serialize : SocketPacket → Option (List UInt8)
  | .proxyHello p => (putString p.hostname).map fun h =>
    le 4 0 ++ (le 2 p.version.toNat ++ (h ++ (match p.auth with | .publicKey k => le 4 0 ++ k.key.toList)))
  | .proxyAuthRequest c => some (le 4 1 ++ c.toList)
  | .proxyAuthResponse s => some (le 4 2 ++ s.toList)
  | .proxyHelloResponse r => some (le 4 3 ++ le 2 r.version.toNat)
  | .proxyJoin id => some (le 4 4 ++ le 8 id.toNat)
  | .proxyDisconnect id => some (le 4 5 ++ le 8 id.toNat)
  | .proxyDisconnectAck id => some (le 4 6 ++ le 8 id.toNat)
  | .proxyError e => (putString e).map (le 4 7 ++ ·)
  | .proxyData p => (putBytes p.data.bytes).map fun d => le 4 8 ++ (le 8 p.clientId.toNat ++ d)
  | .proxyPing ping => some (le 4 9 ++ le 2 ping.toNat)
  | .proxyPong ping => some (le 4 10 ++ le 2 ping.toNat)
  | .unknown => some (le 4 11)

def getU16 : Get UInt16 := fun b => (getLe 2 b).map fun (n, b) => (UInt16.ofNat n, b)
def getUsize : Get UInt64 := fun b => (getLe 8 b).map fun (n, b) => (UInt64.ofNat n, b)

def getAuthenticator : Get ProxyAuthenticator := fun b =>
  match getLe 4 b with
  | some (0, b) => (getArray 32 b).map fun (k, b) => (.publicKey ⟨k⟩, b)
  | _ => none

def getHello : Get SocketPacket := fun b => do
  let (version, b) ← getU16 b
  let (hostname, b) ← getString b
  let (auth, b) ← getAuthenticator b
  return (.proxyHello ⟨version, hostname, auth⟩, b)

def getData : Get SocketPacket := fun b => do
  let (clientId, b) ← getUsize b
  let (data, b) ← getBytes b
  return (.proxyData ⟨clientId, ⟨data⟩⟩, b)

/-- The fields of the variant with the given index. -/
def getVariant : Nat → Get SocketPacket
  | 0 => getHello
  | 1 => fun b => (getArray 64 b).map fun (c, b) => (.proxyAuthRequest c, b)
  | 2 => fun b => (getArray 64 b).map fun (s, b) => (.proxyAuthResponse s, b)
  | 3 => fun b => (getU16 b).map fun (v, b) => (.proxyHelloResponse ⟨v⟩, b)
  | 4 => fun b => (getUsize b).map fun (id, b) => (.proxyJoin id, b)
  | 5 => fun b => (getUsize b).map fun (id, b) => (.proxyDisconnect id, b)
  | 6 => fun b => (getUsize b).map fun (id, b) => (.proxyDisconnectAck id, b)
  | 7 => fun b => (getString b).map fun (e, b) => (.proxyError e, b)
  | 8 => getData
  | 9 => fun b => (getU16 b).map fun (ping, b) => (.proxyPing ping, b)
  | 10 => fun b => (getU16 b).map fun (ping, b) => (.proxyPong ping, b)
  | 11 => fun b => some (.unknown, b)
  | _ => fun _ => none

def deserialize (bs : List UInt8) : Option SocketPacket :=
  match getLe 4 bs with
  | none => none
  | some (variant, b) => (getVariant variant b).map Prod.fst

/-- The crate as the codec uses it. -/
def crate : Bincode := ⟨serialize, deserialize⟩

theorem getU16_append (x : UInt16) (b : List UInt8) : getU16 (le 2 x.toNat ++ b) = some (x, b) := by
  rw [getU16, getLe_append x.toNat_lt]; simp

theorem getUsize_append (x : UInt64) (b : List UInt8) : getUsize (le 8 x.toNat ++ b) = some (x, b) := by
  rw [getUsize, getLe_append x.toNat_lt]; simp

theorem getAuthenticator_append (k : ServerPublicKey) (b : List UInt8) :
    getAuthenticator (le 4 0 ++ k.key.toList ++ b) = some (.publicKey k, b) := by
  rw [List.append_assoc, getAuthenticator, getLe_append (by decide)]
  simp [getArray_append]

theorem deserialize_variant {n : Nat} (hn : n < 256 ^ 4) {fields : List UInt8} {p : SocketPacket}
    (h : getVariant n fields = some (p, [])) : deserialize (le 4 n ++ fields) = some p := by
  rw [deserialize, getLe_append hn]
  simp [h]

theorem getHello_append {h : List UInt8} (v : UInt16) (s : String) (k : ServerPublicKey)
    (hs : putString s = some h) :
    getHello (le 2 v.toNat ++ (h ++ (le 4 0 ++ k.key.toList))) = some (.proxyHello ⟨v, s, .publicKey k⟩, []) := by
  have hk := getAuthenticator_append k []
  rw [List.append_nil] at hk
  simp [getHello, getU16_append, getString_append hs, hk]

theorem getData_append {d s : List UInt8} (id : ClientID) (hs : putBytes s = some d) :
    getData (le 8 id.toNat ++ d) = some (.proxyData ⟨id, ⟨s⟩⟩, []) := by
  have hd := getBytes_append hs []
  rw [List.append_nil] at hd
  simp [getData, getUsize_append, hd]

theorem crate_inverse : crate.Inverse := by
  intro p bs h
  change serialize p = some bs at h
  show deserialize bs = some p
  have u16 : ∀ x : UInt16, getU16 (le 2 x.toNat) = some (x, []) := fun x => by
    simpa using getU16_append x []
  have usize : ∀ x : UInt64, getUsize (le 8 x.toNat) = some (x, []) := fun x => by
    simpa using getUsize_append x []
  have array : ∀ {n} (v : Vector UInt8 n), getArray n v.toList = some (v, []) := fun v => by
    simpa using getArray_append v []
  cases p with
  | proxyHello p =>
    obtain ⟨v, s, ⟨k⟩⟩ := p
    obtain ⟨b, hb, rfl⟩ := Option.map_eq_some_iff.1 h
    exact deserialize_variant (by decide) (getHello_append v s k hb)
  | proxyAuthRequest c => cases h; exact deserialize_variant (by decide) (by simp [getVariant, array])
  | proxyAuthResponse s => cases h; exact deserialize_variant (by decide) (by simp [getVariant, array])
  | proxyHelloResponse r => cases h; exact deserialize_variant (by decide) (by simp [getVariant, u16])
  | proxyJoin id => cases h; exact deserialize_variant (by decide) (by simp [getVariant, usize])
  | proxyDisconnect id => cases h; exact deserialize_variant (by decide) (by simp [getVariant, usize])
  | proxyDisconnectAck id => cases h; exact deserialize_variant (by decide) (by simp [getVariant, usize])
  | proxyError e =>
    obtain ⟨b, hb, rfl⟩ := Option.map_eq_some_iff.1 h
    have he := getString_append hb []
    rw [List.append_nil] at he
    exact deserialize_variant (by decide) (by simp [getVariant, he])
  | proxyData p =>
    obtain ⟨id, ⟨d⟩⟩ := p
    obtain ⟨b, hb, rfl⟩ := Option.map_eq_some_iff.1 h
    exact deserialize_variant (by decide) (getData_append id hb)
  | proxyPing ping => cases h; exact deserialize_variant (by decide) (by simp [getVariant, u16])
  | proxyPong ping => cases h; exact deserialize_variant (by decide) (by simp [getVariant, u16])
  | unknown =>
    cases h
    have hvariant : getVariant 11 [] = some (.unknown, []) := rfl
    simpa using deserialize_variant (by decide) hvariant

/-! ### What is read -/

theorem getU16_eq_some {x : UInt16} {b r : List UInt8} (h : getU16 b = some (x, r)) : b = le 2 x.toNat ++ r := by
  refine map_getLe_eq_some (fun m hm => ?_) h
  rw [UInt16.toNat_ofNat']
  exact Nat.mod_eq_of_lt hm

theorem getUsize_eq_some {x : UInt64} {b r : List UInt8} (h : getUsize b = some (x, r)) : b = le 8 x.toNat ++ r := by
  refine map_getLe_eq_some (fun m hm => ?_) h
  rw [UInt64.toNat_ofNat']
  exact Nat.mod_eq_of_lt hm

theorem getAuthenticator_eq_some {a : ProxyAuthenticator} {b r : List UInt8}
    (h : getAuthenticator b = some (a, r)) : ∃ k, a = .publicKey k ∧ b = le 4 0 ++ (k.key.toList ++ r) := by
  rw [getAuthenticator] at h
  split at h
  · next b' hn =>
    obtain ⟨⟨k, b''⟩, hk, he⟩ := Option.map_eq_some_iff.1 h
    cases he
    exact ⟨⟨k⟩, rfl, by rw [(getLe_eq_some hn).1, getArray_eq_some hk]⟩
  · cases h

theorem field_eq_some {α : Type} {get : Get α} {f : α → SocketPacket} {b r : List UInt8} {p : SocketPacket}
    (h : (get b).map (fun (x, b) => (f x, b)) = some (p, r)) : ∃ x, get b = some (x, r) ∧ p = f x := by
  obtain ⟨⟨x, b'⟩, hx, he⟩ := Option.map_eq_some_iff.1 h
  cases he
  exact ⟨x, hx, rfl⟩

theorem getHello_eq_some {b r : List UInt8} {p : SocketPacket} (h : getHello b = some (p, r)) :
    ∃ w, serialize p = some (le 4 0 ++ w) ∧ b = w ++ r := by
  simp only [getHello, bind, Option.bind_eq_some_iff] at h
  obtain ⟨⟨version, b₁⟩, hversion, ⟨hostname, b₂⟩, hhostname, ⟨auth, b₃⟩, hauth, he⟩ := h
  cases he
  obtain ⟨w, hw, hb₁ : b₁ = w ++ b₂⟩ := getString_eq_some hhostname
  obtain ⟨k, rfl, hb₂ : b₂ = le 4 0 ++ (k.key.toList ++ b₃)⟩ := getAuthenticator_eq_some hauth
  refine ⟨le 2 version.toNat ++ (w ++ (le 4 0 ++ k.key.toList)), ?_, ?_⟩
  · rw [serialize, hw]
    rfl
  · rw [getU16_eq_some hversion, hb₁, hb₂]
    simp only [List.append_assoc]

theorem getData_eq_some {b r : List UInt8} {p : SocketPacket} (h : getData b = some (p, r)) :
    ∃ w, serialize p = some (le 4 8 ++ w) ∧ b = w ++ r := by
  simp only [getData, bind, Option.bind_eq_some_iff] at h
  obtain ⟨⟨clientId, b₁⟩, hid, ⟨data, b₂⟩, hdata, he⟩ := h
  cases he
  obtain ⟨w, hw, hb₁ : b₁ = w ++ b₂⟩ := getBytes_eq_some hdata
  refine ⟨le 8 clientId.toNat ++ w, ?_, ?_⟩
  · rw [serialize, hw]
    rfl
  · rw [getUsize_eq_some hid, hb₁, List.append_assoc]

/-- What the reader of a variant takes for a packet is the packet's form behind the variant's index. -/
theorem getVariant_eq_some {n : Nat} {b r : List UInt8} {p : SocketPacket} (h : getVariant n b = some (p, r)) :
    ∃ w, serialize p = some (le 4 n ++ w) ∧ b = w ++ r := by
  unfold getVariant at h
  split at h
  · exact getHello_eq_some h
  · obtain ⟨c, hc, rfl⟩ := field_eq_some h
    exact ⟨_, rfl, getArray_eq_some hc⟩
  · obtain ⟨s, hs, rfl⟩ := field_eq_some h
    exact ⟨_, rfl, getArray_eq_some hs⟩
  · obtain ⟨v, hv, rfl⟩ := field_eq_some (f := fun v => .proxyHelloResponse ⟨v⟩) h
    exact ⟨_, rfl, getU16_eq_some hv⟩
  · obtain ⟨id, hid, rfl⟩ := field_eq_some h
    exact ⟨_, rfl, getUsize_eq_some hid⟩
  · obtain ⟨id, hid, rfl⟩ := field_eq_some h
    exact ⟨_, rfl, getUsize_eq_some hid⟩
  · obtain ⟨id, hid, rfl⟩ := field_eq_some h
    exact ⟨_, rfl, getUsize_eq_some hid⟩
  · obtain ⟨e, he, rfl⟩ := field_eq_some h
    obtain ⟨w, hw, hb⟩ := getString_eq_some he
    exact ⟨w, by rw [serialize, hw]; rfl, hb⟩
  · exact getData_eq_some h
  · obtain ⟨ping, hping, rfl⟩ := field_eq_some h
    exact ⟨_, rfl, getU16_eq_some hping⟩
  · obtain ⟨ping, hping, rfl⟩ := field_eq_some h
    exact ⟨_, rfl, getU16_eq_some hping⟩
  · cases h
    exact ⟨[], rfl, rfl⟩
  · cases h

/-- What is taken for a packet starts with the packet's form. -/
theorem deserialize_eq_some {b : List UInt8} {p : SocketPacket} (h : deserialize b = some p) :
    ∃ w extra, serialize p = some w ∧ b = w ++ extra := by
  rw [deserialize] at h
  split at h
  · cases h
  · next n b' hn =>
    obtain ⟨⟨q, r⟩, hq, he⟩ := Option.map_eq_some_iff.1 h
    cases he
    obtain ⟨w, hw, rfl⟩ := getVariant_eq_some hq
    exact ⟨le 4 n ++ w, r, hw, by rw [(getLe_eq_some hn).1, List.append_assoc]⟩

end BincodeFormat
end CraftIP
