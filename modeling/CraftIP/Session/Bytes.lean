import CraftIP.Session

/-!
# The bytes of a client id

Which messages and frames of a session name an id, and the data that a list of them carries for it.
-/

namespace CraftIP

namespace SocketPacket

/-- The frame is about the player with the id. -/
def names (id : ClientID) : SocketPacket → Bool
  | .proxyJoin id' => id' = id
  | .proxyData packet => packet.clientId = id
  | .proxyDisconnect id' => id' = id
  | _ => false

def bytesFor (id : ClientID) : SocketPacket → List UInt8
  | .proxyData packet => if packet.clientId = id then packet.data.bytes else []
  | _ => []

theorem bytesFor_eq_nil {id : ClientID} {f : SocketPacket} (h : f.names id = false) :
    f.bytesFor id = [] := by
  cases f with
  | proxyData packet => exact if_neg (of_decide_eq_false h)
  | _ => rfl

end SocketPacket

namespace ClientToProxy
variable {IdTx Tx : Type}

def names (id : ClientID) : ClientToProxy IdTx Tx → Bool
  | .packet id' _ => id' = id
  | .removeMinecraftClient id' => id' = id
  | _ => false

def bytesFor (id : ClientID) : ClientToProxy IdTx Tx → List UInt8
  | .packet id' pkg => if id' = id then pkg.bytes else []
  | _ => []

theorem bytesFor_eq_nil {id : ClientID} {m : ClientToProxy IdTx Tx} (h : m.names id = false) :
    m.bytesFor id = [] := by
  cases m with
  | packet id' pkg => exact if_neg (of_decide_eq_false h)
  | _ => rfl

end ClientToProxy

namespace BackendToProxy

def names (id : ClientID) : BackendToProxy → Bool
  | .packet id' _ => id' = id
  | .removeMinecraftClient id' => id' = id
  | _ => false

def bytesFor (id : ClientID) : BackendToProxy → List UInt8
  | .packet id' pkg => if id' = id then pkg.bytes else []
  | _ => []

theorem bytesFor_eq_nil {id : ClientID} {m : BackendToProxy} (h : m.names id = false) :
    m.bytesFor id = [] := by
  cases m with
  | packet id' pkg => exact if_neg (of_decide_eq_false h)
  | _ => rfl

end BackendToProxy

/-- The data of an id in a list of frames. -/
def dataFor {ο : Type} (id : ClientID) (l : List (Marked ο SocketPacket)) : List UInt8 :=
  l.flatMap (·.val.bytesFor id)

/-- The data of an id that comes before the disconnect. -/
def dataBefore {ο : Type} (id : ClientID) (l : List (Marked ο SocketPacket)) : List UInt8 :=
  dataFor id (l.takeWhile (·.val ≠ .proxyDisconnect id))

/-- The data of an id in a list of messages to `handle_writer`. -/
def queuedFor (id : ClientID) (q : List (Marked Player (ClientToProxy Player Player))) : List UInt8 :=
  q.flatMap (·.val.bytesFor id)

/-- The data of an id in a list of messages to `writer_handler`. -/
def backendFor (id : ClientID) (q : List (Marked Conn BackendToProxy)) : List UInt8 :=
  q.flatMap (·.val.bytesFor id)

/-- The bytes of a list of chunks. -/
def chunks {ο : Type} (l : List (Marked ο (List UInt8))) : List UInt8 := l.flatMap (·.val)

section
variable {ο : Type} {id : ClientID} {l l' : List (Marked ο SocketPacket)}

@[simp] theorem dataFor_nil : dataFor id ([] : List (Marked ο SocketPacket)) = [] := rfl

@[simp] theorem dataFor_append : dataFor id (l ++ l') = dataFor id l ++ dataFor id l' :=
  List.flatMap_append

@[simp] theorem dataFor_singleton (f : Marked ο SocketPacket) : dataFor id [f] = f.val.bytesFor id :=
  List.flatMap_singleton _ _

theorem dataFor_eq_nil (h : ∀ f ∈ l, f.val.names id = false) : dataFor id l = [] :=
  List.flatMap_eq_nil_iff.2 fun f hf => SocketPacket.bytesFor_eq_nil (h f hf)

/-- What follows a disconnect changes nothing. -/
theorem dataBefore_append (h : ∃ f ∈ l, f.val = .proxyDisconnect id) :
    dataBefore id (l ++ l') = dataBefore id l := by
  obtain ⟨f, hf, he⟩ := h
  rw [dataBefore, List.takeWhile_append, if_neg, dataBefore]
  intro hlen
  have hall := List.takeWhile_eq_self_iff.1 ((List.takeWhile_prefix _).eq_of_length hlen) f hf
  exact of_decide_eq_true hall he

theorem dataBefore_concat (h : ∀ f ∈ l, f.val ≠ .proxyDisconnect id) {f : Marked ο SocketPacket}
    (hf : f.val = .proxyDisconnect id) : dataBefore id (l ++ [f]) = dataFor id l := by
  rw [dataBefore, List.takeWhile_append_of_pos fun g hg => decide_eq_true (h g hg)]
  simp [hf]

@[simp] theorem chunks_nil : chunks ([] : List (Marked ο (List UInt8))) = [] := rfl

@[simp] theorem chunks_append (l l' : List (Marked ο (List UInt8))) :
    chunks (l ++ l') = chunks l ++ chunks l' := List.flatMap_append

@[simp] theorem chunks_singleton (x : Marked ο (List UInt8)) : chunks [x] = x.val :=
  List.flatMap_singleton _ _

end

section
variable {id : ClientID} {q : List (Marked Conn BackendToProxy)}

@[simp] theorem backendFor_append (q' : List (Marked Conn BackendToProxy)) :
    backendFor id (q ++ q') = backendFor id q ++ backendFor id q' := List.flatMap_append

@[simp] theorem backendFor_cons (m : Marked Conn BackendToProxy) :
    backendFor id (m :: q) = m.val.bytesFor id ++ backendFor id q := List.flatMap_cons

@[simp] theorem backendFor_nil : backendFor id [] = [] := rfl

theorem backendFor_eq_nil (h : ∀ m ∈ q, m.val.names id = false) : backendFor id q = [] :=
  List.flatMap_eq_nil_iff.2 fun m hm => BackendToProxy.bytesFor_eq_nil (h m hm)

end

section
variable {id : ClientID} {q : List (Marked Player (ClientToProxy Player Player))}

@[simp] theorem queuedFor_append (q' : List (Marked Player (ClientToProxy Player Player))) :
    queuedFor id (q ++ q') = queuedFor id q ++ queuedFor id q' := List.flatMap_append

@[simp] theorem queuedFor_cons (m : Marked Player (ClientToProxy Player Player)) :
    queuedFor id (m :: q) = m.val.bytesFor id ++ queuedFor id q := List.flatMap_cons

@[simp] theorem queuedFor_nil : queuedFor id [] = [] := rfl

theorem queuedFor_eq_nil (h : ∀ m ∈ q, m.val.names id = false) : queuedFor id q = [] :=
  List.flatMap_eq_nil_iff.2 fun m hm => ClientToProxy.bytesFor_eq_nil (h m hm)

end

end CraftIP
