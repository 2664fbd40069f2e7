import CraftIP.Session.Delivery

/-!
# Forwarding in a session

When no id is given twice, first packets are short and no socket operation fails, each direction of a
player's connection is forwarded in order, without loss before its end and without doubling, and what was
forwarded before the other side's disconnect is written (`forwarding`).
-/

namespace CraftIP
open Function (update)

namespace Session

/-- First packets are short, no id is given twice, and no socket operation fails. -/
def Lossless (s : Session) (a : Action) : Prop :=
  ShortStart a ∧ (∀ id ∈ s.givenId a, s.owner id = none) ∧ a.socketFails = false

instance (s : Session) (a : Action) : Decidable (s.Lossless a) :=
  inferInstanceAs (Decidable (_ ∧ _ ∧ _))

/-- What the two sockets of a player have seen of each other: a player has at most one backend
connection, each of the two writes what the other read, and a side whose channel closed after a disconnect
wrote all data that was forwarded before it. -/
structure Forwarded (s : Session) : Prop where
  single : ∀ c c' P, (s.conns c).openedFor = some P → (s.conns c').openedFor = some P → c = c'
  toBackend : ∀ c P, (s.conns c).openedFor = some P → (s.conns c).bytesWritten <+: (s.players P).bytesRead
  toPlayer : ∀ c P, (s.conns c).openedFor = some P → (s.players P).bytesWritten <+: (s.conns c).bytesRead
  unconnected : ∀ P, (∀ c, (s.conns c).openedFor ≠ some P) → (s.players P).bytesWritten = []
  backendDrained : ∀ c, (s.conns c).needForClose = false → (s.conns c).disconnected = true →
    (s.conns c).bytesWritten = dataBefore (s.conns c).clientId s.down.history
  playerDrained : ∀ P id, (s.players P).phase.id? = some id → (s.players P).writer = .closed →
    (s.players P).disconnected = true →
    (s.players P).bufWriter = [] ∧ (s.players P).bytesWritten = dataBefore id s.up.history

/-- The queues of a session against each other. -/
structure Pipeline (s : Session) : Prop where
  clean : Clean s
  assigned : Assigned s
  sent : Sent s
  arrived : Arrived s
  answered : Answered s
  delivered : Delivered s

theorem pipeline_init : Pipeline init :=
  ⟨clean_init, assigned_init, sent_init, arrived_init, answered_init, delivered_init⟩

variable {s s' : Session}

theorem Pipeline.step {a : Action} (h : Pipeline s) (hc : s.Lossless a) (hs : s.step a = some s') :
    Pipeline s' where
  clean := h.clean.step hc.1 hs
  assigned := h.assigned.step hc.2.1 hs
  sent := h.sent.step h.assigned h.clean hc.2.1 hs
  arrived := h.arrived.step h.sent h.clean hc.2.1 hc.2.2 hs
  answered := h.answered.step h.arrived h.sent h.clean hc.2.2 hs
  delivered := h.delivered.step h.assigned h.answered h.arrived h.sent h.clean hc.2.1 hc.2.2 hs

theorem Pipeline.lt_opened (h : Pipeline s) {c : Conn} {P : Player} (hc : (s.conns c).openedFor = some P) :
    c < s.opened := by
  by_contra hle
  rw [h.arrived.fresh c (Nat.le_of_not_lt hle)] at hc
  cases hc

/-- A connection's id is owned by the player that it was opened for. -/
theorem Pipeline.owner (h : Pipeline s) {c : Conn} {P : Player} (hc : (s.conns c).openedFor = some P) :
    s.owner (s.conns c).clientId = some P :=
  (h.arrived.conn c (h.lt_opened hc)).openedFor.symm.trans hc

theorem dataFor_taken_prefix {ο : Type} {l : Link (Marked ο SocketPacket)} {id : ClientID} :
    dataFor id l.taken <+: dataFor id l.history := by
  rw [Link.history, dataFor_append]
  exact List.prefix_append _ _

theorem chunks_taken_prefix {ο : Type} (c : Channel (Marked ο (List UInt8))) :
    chunks c.taken <+: chunks c.history := by
  rw [Channel.history, chunks_append]
  exact List.prefix_append _ _

theorem Pipeline.toBackend (h : Pipeline s) {c : Conn} {P : Player}
    (hc : (s.conns c).openedFor = some P) : (s.conns c).bytesWritten <+: (s.players P).bytesRead := by
  have hconn := h.arrived.conn c (h.lt_opened hc)
  calc (s.conns c).bytesWritten
    _ <+: chunks (s.conns c).rx.taken := hconn.written ▸ List.prefix_append _ _
    _ <+: chunks (s.conns c).rx.history := chunks_taken_prefix _
    _ <+: dataFor (s.conns c).clientId s.down.taken := hconn.received
    _ <+: dataFor (s.conns c).clientId s.down.history := dataFor_taken_prefix
    _ <+: (s.players P).bytesRead := h.sent.history P _ (h.owner hc)

theorem Pipeline.written (h : Pipeline s) {P : Player} {id : ClientID} (hid : s.owner id = some P) :
    (s.players P).bytesWritten <+: dataFor id s.up.history := by
  have hplayer := h.delivered.player P
  calc (s.players P).bytesWritten
    _ <+: chunks (s.players P).rx.taken := hplayer.written ▸ List.prefix_append _ _
    _ <+: chunks (s.players P).rx.history := chunks_taken_prefix _
    _ <+: dataFor id s.up.taken := hplayer.received id hid
    _ <+: dataFor id s.up.history := dataFor_taken_prefix

theorem Pipeline.unconnected (h : Pipeline s) {P : Player} (hno : ∀ c, (s.conns c).openedFor ≠ some P) :
    (s.players P).bytesWritten = [] := by
  have hplayer := h.delivered.player P
  by_cases hown : ∃ id, s.owner id = some P
  · obtain ⟨id, hid⟩ := hown
    have hdata : dataFor id s.up.history = [] := by
      refine dataFor_eq_nil fun f hf => Bool.eq_false_iff.2 fun he => ?_
      obtain ⟨c, hc, rfl⟩ := h.answered.frames f (List.mem_append_left _ hf) id he
      exact hno c ((h.arrived.conn c hc).openedFor.trans hid)
    exact List.prefix_nil.1 (hdata ▸ h.written hid)
  · have hrx := (hplayer.fresh fun id hid => hown ⟨id, hid⟩).1
    have htaken : (s.players P).rx.taken = [] := (List.append_eq_nil_iff.1 hrx).1
    have hwritten := hplayer.written
    rw [htaken] at hwritten
    exact (List.append_eq_nil_iff.1 hwritten).1

theorem Pipeline.forwarded (h : Pipeline s) : Forwarded s where
  single c c' P hc hc' :=
    h.arrived.inj c (h.lt_opened hc) c' (h.lt_opened hc')
      (h.assigned.inj _ _ P (h.owner hc) (h.owner hc'))
  toBackend c P hc := h.toBackend hc
  toPlayer c P hc := (h.written (h.owner hc)).trans (h.answered.history c (h.lt_opened hc))
  unconnected P hno := h.unconnected hno
  backendDrained c hclose hdis := by
    have hc : c < s.opened := by
      by_contra hle
      rw [h.arrived.fresh c (Nat.le_of_not_lt hle)] at hclose
      cases hclose
    have hconn := h.arrived.conn c hc
    obtain ⟨htask, hpending⟩ := hconn.closed hclose
    obtain ⟨hmem, hchunks⟩ := hconn.disconnected hdis
    have hwritten := hconn.written
    rw [htask, show HandleClient.ended.rest = [] from rfl, List.append_nil] at hwritten
    rw [Channel.history, hpending, List.append_nil] at hchunks
    rw [hwritten, hchunks, Link.history, dataBefore_append hmem]
  playerDrained P id hid hclose hdis := by
    have hplayer := h.delivered.player P
    have howner := (h.assigned.player P).given id (ClientPhase.given?_of_id? hid)
    have hbuf := hplayer.flushed (.inr hclose)
    obtain ⟨hpending, -⟩ := hplayer.closed hclose
    obtain ⟨hmem, hchunks⟩ := hplayer.disconnected id howner hdis
    have hwritten := hplayer.written
    rw [hbuf, List.append_nil] at hwritten
    have hall := hchunks (by rw [hclose]; simp)
    rw [Channel.history, hpending, List.append_nil] at hall
    exact ⟨hbuf, by rw [hwritten, hall, Link.history, dataBefore_append hmem]⟩

/-- In a run in which no id is given twice, first packets are short and no socket operation fails, what is
read from one socket of a player is forwarded to the other. -/
theorem forwarding (h : Lts.Reach step Lossless init s) : Forwarded s :=
  (h.invariant (I := Pipeline) pipeline_init fun _ hp hc hs => hp.step hc hs).forwarded

/-- Players 0 and 1 are sent data; the backend of player 0 closes, and player 1 leaves. -/
def closeAndLeave : List Action :=
  joinBoth ++ receives 1 1 1 [2, 3] ++
    [.backendReadEnds 0, .writerHandler ⟨.removeMinecraftClient 0, some 0⟩,
      .writerHandlerFeed ⟨.proxyDisconnect 0, some 0⟩, .readerDisconnect 0, .upWrite 1,
      .handleReader ⟨.proxyDisconnect 0, some 0⟩, .clientWriterClosed 0] ++
    leaves 1 1 1

theorem forwarding_closeAndLeave :
    ∃ s, Lts.run step init closeAndLeave = some s ∧ Forwarded s ∧
      ((s.players 0).writer = .closed ∧ (s.players 0).disconnected = true ∧ (s.players 0).bytesWritten = [1]) ∧
      (s.conns 1).needForClose = false ∧ (s.conns 1).disconnected = true ∧
      (s.conns 1).bytesWritten = samplePacket := by
  obtain ⟨s, hrun, hsides⟩ : ∃ s, Lts.run step init closeAndLeave = some s ∧
      ((s.players 0).writer = .closed ∧ (s.players 0).disconnected = true ∧ (s.players 0).bytesWritten = [1]) ∧
      (s.conns 1).needForClose = false ∧ (s.conns 1).disconnected = true ∧
      (s.conns 1).bytesWritten = samplePacket := by
    decide +kernel
  exact ⟨s, hrun, forwarding (Lts.Reach.of_run hrun (by decide +kernel)), hsides⟩

end Session
end CraftIP
