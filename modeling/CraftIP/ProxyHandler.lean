import CraftIP.Lib.Slots
import CraftIP.Register

/-!
# The distributor of a proxy session (`server/src/proxy_handler.rs`)

Who holds which client id: a table of `MAXIMUM_CLIENTS` slots with the senders of the players' channels.
-/

namespace CraftIP

structure Distributor (Tx : Type) where
  clientsId : Slots MAXIMUM_CLIENTS Tx

/-- The messages of the players' tasks and of `handle_reader` to `handle_writer`. -/
inductive ClientToProxy (IdTx Tx : Type) where
  | packet (id : ClientID) (pkg : MinecraftDataPacket)
  | addMinecraftClient (idSender : IdTx) (tx : Tx)
  | removeMinecraftClient (id : ClientID)
  | answerPingPacket (ping : PingPacket)
deriving DecidableEq, Repr

namespace Distributor
variable {Tx : Type}

def default : Distributor Tx := ⟨Slots.empty⟩

/-- The first free slot gets the sender, and its number is the id. -/
def insert (d : Distributor Tx) (tx : Tx) : Except DistributorError (ClientID × Distributor Tx) :=
  match d.clientsId.firstFree with
  | some i => .ok (UInt64.ofNat i, ⟨d.clientsId.put i tx⟩)
  | none => .error .tooManyClients

/-- Whether the table has the id, and the table without its sender. -/
def removeById (d : Distributor Tx) (id : ClientID) : Bool × Distributor Tx :=
  if id.toNat < MAXIMUM_CLIENTS then (true, ⟨d.clientsId.clear id.toNat⟩) else (false, d)

def getById (d : Distributor Tx) (id : ClientID) : Option Tx := d.clientsId.get id.toNat

@[simp] theorem getById_default (id : ClientID) : (default : Distributor Tx).getById id = none :=
  Slots.get_empty _

/-- What `insert` does when it gives an id: the id was free, is below `MAXIMUM_CLIENTS`, and now has
the sender; the other ids keep theirs. -/
theorem insert_eq_ok {d d' : Distributor Tx} {tx : Tx} {id : ClientID}
    (h : d.insert tx = .ok (id, d')) :
    id.toNat < MAXIMUM_CLIENTS ∧ d.getById id = none ∧
      ∀ id', d'.getById id' = if id = id' then some tx else d.getById id' := by
  rw [insert] at h
  split at h
  · next i hi =>
    obtain ⟨hlt, hnone, -⟩ := Slots.firstFree_eq_some hi
    have hn : (UInt64.ofNat i).toNat = i := by
      rw [UInt64.toNat_ofNat']; rw [MAXIMUM_CLIENTS] at hlt; omega
    cases h
    refine ⟨by rw [hn]; exact hlt, by rw [getById, hn]; exact hnone, fun id' => ?_⟩
    by_cases he : UInt64.ofNat i = id'
    · subst he
      rw [if_pos rfl, getById, hn, Slots.get_put_self hlt]
    · rw [if_neg he, getById, Slots.get_put_ne]; · rfl
      rintro rfl
      exact he (UInt64.ofNat_toNat)
  · cases h

/-- `insert` fails exactly when every slot is taken. -/
theorem insert_eq_error_iff {d : Distributor Tx} {tx : Tx} :
    (∃ e, d.insert tx = .error e) ↔ ∀ i < MAXIMUM_CLIENTS, ∃ x, d.clientsId.get i = some x := by
  rw [insert, ← Slots.firstFree_eq_none_iff]
  cases d.clientsId.firstFree <;> simp

/-- The answer of `removeById` is about the number, not about the slot. -/
theorem removeById_fst (d : Distributor Tx) (id : ClientID) :
    (d.removeById id).1 = true ↔ id.toNat < MAXIMUM_CLIENTS := by
  rw [removeById]
  split
  · next h => simp [h]
  · next h => simp [h]

theorem getById_removeById (d : Distributor Tx) (id id' : ClientID) :
    (d.removeById id).2.getById id' = if id = id' then none else d.getById id' := by
  by_cases hlt : id.toNat < MAXIMUM_CLIENTS
  · simp only [removeById, if_pos hlt, getById, Slots.get_clear, UInt64.toNat_inj]
  · simp only [removeById, if_neg hlt]
    split
    · next h => subst h; exact Slots.get_eq_none_of_le (by omega)
    · rfl

end Distributor
end CraftIP
