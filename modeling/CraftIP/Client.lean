import CraftIP.Lib.Slots
import CraftIP.SocketPacket

/-!
# The connections of the client (`client/src/client.rs`)

Which backend connection serves which client id: a table of `MAXIMUM_CLIENTS` slots with the senders of
the connections' channels, their number, and what is reported of it.
-/

namespace CraftIP

inductive Stats where
  | connected
  | clientsConnected (n : Nat)
  | ping (ping : UInt16)
deriving DecidableEq, Repr

/-- `stats` is what was sent to the receiver of the stats. -/
structure Client (Tx : Type) where
  connections : Slots MAXIMUM_CLIENTS Tx
  connectionsLen : Nat
  stats : List Stats

namespace Client
variable {Tx : Type}

def new : Client Tx := ⟨Slots.empty, 0, []⟩

/-- `connections.get_mut(id)` and its sender. -/
def connection (c : Client Tx) (id : ClientID) : Option Tx := c.connections.get id.toNat

/-- The counter saturates at the largest `usize`. -/
def addConnection (c : Client Tx) (id : ClientID) (tx : Tx) : Client Tx :=
  let connectionsLen :=
    if id.toNat < MAXIMUM_CLIENTS then min (c.connectionsLen + 1) (2 ^ 64 - 1) else c.connectionsLen
  { connections := c.connections.put id.toNat tx
    connectionsLen
    stats := c.stats ++ [.clientsConnected connectionsLen] }

def removeConnection (c : Client Tx) (id : ClientID) : Client Tx :=
  if id.toNat < MAXIMUM_CLIENTS ∧ c.connections.get id.toNat = none then c
  else
    let connectionsLen := if id.toNat < MAXIMUM_CLIENTS then c.connectionsLen - 1 else c.connectionsLen
    { connections := c.connections.clear id.toNat
      connectionsLen
      stats := c.stats ++ [.clientsConnected connectionsLen] }

@[simp] theorem connection_new (id : ClientID) : (new : Client Tx).connection id = none :=
  Slots.get_empty _

theorem lt_of_connection {c : Client Tx} {id : ClientID} {tx : Tx} (h : c.connection id = some tx) :
    id.toNat < MAXIMUM_CLIENTS := Slots.lt_of_get h

theorem connection_addConnection (c : Client Tx) (id id' : ClientID) (tx : Tx) :
    (c.addConnection id tx).connection id' =
      if id = id' ∧ id.toNat < MAXIMUM_CLIENTS then some tx else c.connection id' := by
  simp only [connection, addConnection, Slots.get_put, UInt64.toNat_inj]

theorem connection_removeConnection (c : Client Tx) (id id' : ClientID) :
    (c.removeConnection id).connection id' = if id = id' then none else c.connection id' := by
  rw [removeConnection]
  split
  · next h =>
    split
    · next he => subst he; exact h.2
    · rfl
  · simp only [connection, Slots.get_clear, UInt64.toNat_inj]

end Client
end CraftIP
