import CraftIP.Client
import CraftIP.ClientHandler
import CraftIP.Link

/-!
# A proxy session

The server's `ProxyClient::handle` with `handle_reader` and `handle_writer`, the tasks of the players
(`MCClient`), and at the other end of the tunnel the client's `reader_handler` and `writer_handler` with
the backend connections (`ClientConnection`). An `Action` is what one task does between two points where
others may run; any action that is enabled may come next.

Every message carries a mark that says whose it is: `handle_writer`'s answer to a message gets the
message's mark, a backend connection marks what it sends with itself. No code looks at the marks.
-/

namespace CraftIP

/-- A Minecraft client of the server. Its number also names its two channels. -/
abbrev Player := Nat

/-- A backend connection of the client, and its channel. -/
abbrev Conn := Nat

structure Marked (ο α : Type) where
  val : α
  of : Option ο
deriving DecidableEq, Repr

/-- An unbounded channel with what was received from it. -/
structure Channel (α : Type) where
  taken : List α
  pending : List α
deriving DecidableEq, Repr

namespace Channel
variable {α : Type}

def empty : Channel α := ⟨[], []⟩

def history (c : Channel α) : List α := c.taken ++ c.pending

def send (c : Channel α) (x : α) : Channel α := { c with pending := c.pending ++ [x] }

def pop (c : Channel α) (x : α) : Channel α := ⟨c.taken ++ [x], c.pending.tail⟩

theorem history_send (c : Channel α) (x : α) : (c.send x).history = c.history ++ [x] := by
  simp [history, send]

theorem history_pop {c : Channel α} {x : α} (h : c.pending.head? = some x) :
    (c.pop x).history = c.history := by
  obtain ⟨rest, hrest⟩ := List.head?_eq_some_iff.1 h
  simp [history, pop, hrest]

end Channel

/-! ### The tasks -/

/-- `MCClient::new` and `MCClient::handle`. -/
inductive ClientPhase where
  | absent
  | awaitId (startData : List UInt8)
  | hasId (id : ClientID) (startData : List UInt8)
  | handling (id : ClientID)
  | finished (id : ClientID)
  | failed
deriving DecidableEq, Repr

/-- The id, once the tasks of `handle` run. -/
def ClientPhase.id? : ClientPhase → Option ClientID
  | .handling id => some id
  | .finished id => some id
  | _ => none

def ClientPhase.isFinished : ClientPhase → Bool
  | .finished _ => true
  | _ => false

/-- In `MCClient::new`, where a closed channel ends it. -/
def ClientPhase.joining : ClientPhase → Bool
  | .absent => true
  | .awaitId _ => true
  | .hasId _ _ => true
  | _ => false

/-- Where `client_writer` is; `closed` is its end after `recv` gave `None`, `ended` any other end. -/
inductive ClientWriter where
  | recv
  | drain
  | flush
  | closed
  | ended
deriving DecidableEq, Repr

/-- A player at the server. `bytesRead` and `bytesWritten` are what went through its socket;
`disconnected`: its slot was emptied by a `ProxyDisconnect`. -/
structure PlayerState where
  phase : ClientPhase
  reading : Bool
  writer : ClientWriter
  rx : Channel (Marked Conn (List UInt8))
  bufWriter : List UInt8
  bytesRead : List UInt8
  bytesWritten : List UInt8
  disconnected : Bool
deriving DecidableEq, Repr

namespace PlayerState

def initial : PlayerState := ⟨.absent, false, .recv, .empty, [], [], [], false⟩

/-- `client_writer` holds the receiver. -/
def rxOpen (p : PlayerState) : Bool := p.writer ≠ .closed ∧ p.writer ≠ .ended

/-- `tx.send(data)` on the player's channel. -/
def send (p : PlayerState) (data : Marked Conn (List UInt8)) : PlayerState :=
  if p.rxOpen then { p with rx := p.rx.send data } else p

end PlayerState

/-- Where `handle_writer` is: `feed` holds what it is about to write. -/
inductive HandleWriter where
  | recv
  | feed (packet : Marked Player SocketPacket)
  | tryRecv
  | flush
  | ended
deriving DecidableEq, Repr

/-- The client's `ClientToProxy`: from the backend connections to `writer_handler`. -/
inductive BackendToProxy where
  | packet (id : ClientID) (pkg : MinecraftDataPacket)
  | removeMinecraftClient (id : ClientID)
  | ping (ping : PingPacket)
  | death (error : String)
deriving DecidableEq, Repr

/-- Where `writer_handler` is. -/
inductive WriterHandler where
  | tryRecv
  | flush
  | recv
  | feed (packet : Marked Conn SocketPacket)
  | ended
deriving DecidableEq, Repr

/-- Where `handle_client` is; `dropping` is between `drop` and the end of the receiver. -/
inductive HandleClient where
  | connecting
  | select
  | writing (rest : List UInt8)
  | dropping
  | ended
deriving DecidableEq, Repr

/-- A backend connection. `openedFor` is the mark of the `ProxyJoin` it was opened for;
`disconnected`: its slot was emptied by a `ProxyDisconnect`. -/
structure ClientConnection where
  clientId : ClientID
  task : HandleClient
  needForClose : Bool
  rx : Channel (Marked Player (List UInt8))
  openedFor : Option Player
  bytesRead : List UInt8
  bytesWritten : List UInt8
  disconnected : Bool
deriving DecidableEq, Repr

namespace ClientConnection

def unused : ClientConnection := ⟨0, .ended, true, .empty, none, [], [], false⟩

def new (id : ClientID) (openedFor : Option Player) : ClientConnection :=
  ⟨id, .connecting, true, .empty, openedFor, [], [], false⟩

/-- `handle_client` still reads from the backend. -/
def live (c : ClientConnection) : Bool := c.task ≠ .dropping ∧ c.task ≠ .ended

end ClientConnection

/-- `distributor` to `players` are the server's, `client` to `opened` the client's; `serving`: `handle`
has not returned. `owner` is the player that was given the id last. -/
structure Session where
  distributor : Distributor Player
  queue : List (Marked Player (ClientToProxy Player Player))
  writer : HandleWriter
  reader : Bool
  serving : Bool
  players : Player → PlayerState
  owner : ClientID → Option Player
  down : Link (Marked Player SocketPacket)
  up : Link (Marked Conn SocketPacket)
  client : Client Conn
  toProxy : List (Marked Conn BackendToProxy)
  disconnectRx : List ClientID
  clientWriter : WriterHandler
  clientReader : Bool
  conns : Conn → ClientConnection
  opened : Conn

inductive Action where
  | connect (P : Player) (startData : List UInt8)
  | joinFails (P : Player)
  | sendStart (P : Player) (id : ClientID) (startData : List UInt8)
  | clientRead (P : Player) (id : ClientID) (chunk : List UInt8)
  | clientReadEnds (P : Player)
  | clientWriterTake (P : Player) (data : Marked Conn (List UInt8))
  | clientWriterDrained (P : Player)
  | clientWriterWrite (P : Player) (n : Nat)
  | clientWriterFlushed (P : Player)
  | clientWriterFlushFails (P : Player)
  | clientWriterClosed (P : Player)
  | clientWriterFails (P : Player)
  | clientWriterAborted (P : Player)
  | clientFinish (P : Player) (id : ClientID)
  | handleWriter (m : Marked Player (ClientToProxy Player Player))
  | handleWriterFeed (f : Marked Player SocketPacket)
  | handleWriterEmpty
  | handleWriterFlushed
  | handleWriterFails
  | handleWriterAborted
  | handleReader (f : Marked Conn SocketPacket)
  | handleReaderEnds
  | handleEnds
  | downWrite (n : Nat)
  | upWrite (n : Nat)
  | readerHandler (f : Marked Player SocketPacket)
  | readerDisconnect (id : ClientID)
  | readerDisconnectClosed
  | readerPing (time : PingPacket)
  | readerEnds
  | writerHandler (m : Marked Conn BackendToProxy)
  | writerHandlerFeed (f : Marked Conn SocketPacket)
  | writerHandlerEmpty
  | writerHandlerFlushed
  | writerHandlerFails
  | writerHandlerAborted
  | backendConnected (c : Conn)
  | backendConnectFails (c : Conn) (error : String)
  | backendRecv (c : Conn) (data : Marked Player (List UInt8))
  | backendWrite (c : Conn) (rest : List UInt8) (n : Nat)
  | backendWritten (c : Conn)
  | backendWriteFails (c : Conn) (rest : List UInt8)
  | backendClosed (c : Conn)
  | backendRead (c : Conn) (chunk : List UInt8)
  | backendReadEnds (c : Conn)
  | backendDropped (c : Conn)
deriving DecidableEq, Repr

/-- Who takes an action of a session: a player's tasks, `ProxyClient::handle` and what it runs, or the client
at the other end of the tunnel. -/
inductive SessionTask where
  | player (P : Player)
  | handle
  | client
deriving DecidableEq, Repr

def Action.task : Action → SessionTask
  | .connect P _ | .joinFails P | .sendStart P _ _ | .clientRead P _ _ | .clientReadEnds P
  | .clientWriterTake P _ | .clientWriterDrained P | .clientWriterWrite P _ | .clientWriterFlushed P
  | .clientWriterFlushFails P | .clientWriterClosed P | .clientWriterFails P | .clientWriterAborted P
  | .clientFinish P _ => .player P
  | .handleWriter _ | .handleWriterFeed _ | .handleWriterEmpty | .handleWriterFlushed | .handleWriterFails
  | .handleWriterAborted | .handleReader _ | .handleReaderEnds | .handleEnds | .downWrite _ => .handle
  | .upWrite _ | .readerHandler _ | .readerDisconnect _ | .readerDisconnectClosed | .readerPing _ | .readerEnds
  | .writerHandler _ | .writerHandlerFeed _ | .writerHandlerEmpty | .writerHandlerFlushed | .writerHandlerFails
  | .writerHandlerAborted | .backendConnected _ | .backendConnectFails _ _ | .backendRecv _ _
  | .backendWrite _ _ _ | .backendWritten _ | .backendWriteFails _ _ | .backendClosed _ | .backendRead _ _
  | .backendReadEnds _ | .backendDropped _ => .client

namespace Session
open Function (update)

def init : Session where
  distributor := .default
  queue := []
  writer := .recv
  reader := true
  serving := true
  players := fun _ => .initial
  owner := fun _ => none
  down := .empty
  up := .empty
  client := .new
  toProxy := []
  disconnectRx := []
  clientWriter := .tryRecv
  clientReader := true
  conns := fun _ => .unused
  opened := 0

/-! ### The channels -/

/-- `proxy_tx.send(m)`: lost once `handle_writer` has dropped the receiver. -/
def offer (s : Session) (m : Marked Player (ClientToProxy Player Player)) :
    List (Marked Player (ClientToProxy Player Player)) :=
  if s.writer = .ended then s.queue else s.queue ++ [m]

/-- `to_proxy_tx.send(m)` at the client. -/
def offerBackend (s : Session) (m : Marked Conn BackendToProxy) : List (Marked Conn BackendToProxy) :=
  if s.clientWriter = .ended then s.toProxy else s.toProxy ++ [m]

/-- A sender of the player's channel is left: in a slot, or in a message on its way to one. -/
def SenderAlive (s : Session) (P : Player) : Prop :=
  s.serving = true ∧
    (some P ∈ s.distributor.clientsId.cells ∨ ∃ m ∈ s.queue, m.val = .addMinecraftClient P P)

/-- A sender of the connection's channel is left. -/
def ConnAlive (s : Session) (c : Conn) : Prop := some c ∈ s.client.connections.cells

instance (s : Session) (P : Player) : Decidable (s.SenderAlive P) :=
  inferInstanceAs (Decidable (_ ∧ (_ ∨ _)))

instance (s : Session) (c : Conn) : Decidable (s.ConnAlive c) :=
  inferInstanceAs (Decidable (_ ∈ _))

/-- What `handle_writer` holds and has not written. -/
def HandleWriter.held : HandleWriter → List (Marked Player SocketPacket)
  | .feed f => [f]
  | _ => []

def WriterHandler.held : WriterHandler → List (Marked Conn SocketPacket)
  | .feed f => [f]
  | _ => []

/-! ### `handle_writer` and `handle_reader` -/

/-- `handle_writer` returns: its receiver is dropped with the messages in it. -/
def endWriter (s : Session) : Session := { s with writer := .ended, queue := [] }

/-- The `match` of `handle_writer` on a message that was taken off the queue. -/
def handleMessage (s : Session) (m : Marked Player (ClientToProxy Player Player)) : Session :=
  match m.val with
  | .addMinecraftClient idSender tx =>
    match s.distributor.insert tx with
    | .error _ => s.endWriter
    | .ok (id, distributor) =>
      match (s.players idSender).phase with
      | .awaitId startData =>
        { s with
          distributor
          players := update s.players idSender { s.players idSender with phase := .hasId id startData }
          owner := update s.owner id (some tx)
          writer := .feed ⟨.proxyJoin id, some tx⟩ }
      | _ => { s.endWriter with distributor, owner := update s.owner id (some tx) }
  | .packet id pkg => { s with writer := .feed ⟨.proxyData ⟨id, pkg⟩, m.of⟩ }
  | .answerPingPacket ping => { s with writer := .feed ⟨.proxyPong ping, none⟩ }
  | .removeMinecraftClient id =>
    if (s.distributor.removeById id).1 then
      { s with
        distributor := (s.distributor.removeById id).2
        writer := .feed ⟨.proxyDisconnect id, m.of⟩ }
    else { s with distributor := (s.distributor.removeById id).2, writer := .tryRecv }

/-- The `match` of `handle_reader` on a packet of the proxy client. -/
def handleFrame (s : Session) (f : Marked Conn SocketPacket) : Session :=
  match f.val with
  | .proxyDisconnect id =>
    { s with
      distributor := (s.distributor.removeById id).2
      players :=
        match s.distributor.getById id with
        | some P => update s.players P { s.players P with disconnected := true }
        | none => s.players }
  | .proxyData packet =>
    match s.distributor.getById packet.clientId with
    | none => s
    | some P => { s with players := update s.players P ((s.players P).send ⟨packet.data.bytes, f.of⟩) }
  | .proxyPing ping => { s with queue := s.offer ⟨.answerPingPacket ping, none⟩ }
  | _ => s

/-! ### `reader_handler` and `writer_handler` -/

/-- `writer_handler` returns. -/
def endClientWriter (s : Session) : Session := { s with clientWriter := .ended, toProxy := [] }

/-- `send_to`: a connection that no longer receives is removed. -/
def sendTo (s : Session) (id : ClientID) (msg : Marked Player (List UInt8)) :
    Except DistributorError Session :=
  match s.client.connection id with
  | none => .error .clientNotFound
  | some c =>
    if (s.conns c).task = .ended then .ok { s with client := s.client.removeConnection id }
    else .ok { s with conns := update s.conns c { s.conns c with rx := (s.conns c).rx.send msg } }

/-- The `match` of `reader_handler` on a packet of the server. -/
def readerFrame (s : Session) (f : Marked Player SocketPacket) : Session :=
  match f.val with
  | .proxyJoin id =>
    { s with
      client := s.client.addConnection id s.opened
      conns := update s.conns s.opened (.new id f.of)
      opened := s.opened + 1 }
  | .proxyData packet =>
    match s.sendTo packet.clientId ⟨packet.data.bytes, f.of⟩ with
    | .ok s => s
    | .error _ => { s with clientReader := false }
  | .proxyDisconnect id =>
    { s with
      client := s.client.removeConnection id
      conns :=
        match s.client.connection id with
        | some c => update s.conns c { s.conns c with disconnected := true }
        | none => s.conns }
  | .proxyPong _ => s
  | _ => { s with clientReader := false }

/-- The `match` of `writer_handler` on a message that was taken off its channel. -/
def backendMessage (s : Session) (m : Marked Conn BackendToProxy) : Session :=
  match m.val with
  | .packet id pkg => { s with clientWriter := .feed ⟨.proxyData ⟨id, pkg⟩, m.of⟩ }
  | .removeMinecraftClient id =>
    if s.clientReader then
      { s with
        disconnectRx := s.disconnectRx ++ [id]
        clientWriter := .feed ⟨.proxyDisconnect id, m.of⟩ }
    else s.endClientWriter
  | .death _ => s.endClientWriter
  | .ping ping => { s with clientWriter := .feed ⟨.proxyPing ping, none⟩ }

/-! ### What the four functions come to -/

/-- The ends of `handleMessage`. -/
@[elab_as_elim]
theorem handleMessage_cases {motive : Session → Prop} (s : Session)
    (m : Marked Player (ClientToProxy Player Player))
    (full : ∀ {idSender tx}, m.val = .addMinecraftClient idSender tx →
      (∃ e, s.distributor.insert tx = .error e) → motive s.endWriter)
    (joined : ∀ {idSender tx id d startData}, m.val = .addMinecraftClient idSender tx →
      s.distributor.insert tx = .ok (id, d) → (s.players idSender).phase = .awaitId startData →
      motive { s with
        distributor := d
        players := update s.players idSender { s.players idSender with phase := .hasId id startData }
        owner := update s.owner id (some tx)
        writer := .feed ⟨.proxyJoin id, some tx⟩ })
    (gone : ∀ {idSender tx id d}, m.val = .addMinecraftClient idSender tx →
      s.distributor.insert tx = .ok (id, d) →
      (∀ startData, (s.players idSender).phase ≠ .awaitId startData) →
      motive { s.endWriter with distributor := d, owner := update s.owner id (some tx) })
    (packet : ∀ {id pkg}, m.val = .packet id pkg →
      motive { s with writer := .feed ⟨.proxyData ⟨id, pkg⟩, m.of⟩ })
    (ping : ∀ {ping}, m.val = .answerPingPacket ping →
      motive { s with writer := .feed ⟨.proxyPong ping, none⟩ })
    (removed : ∀ {id}, m.val = .removeMinecraftClient id → id.toNat < MAXIMUM_CLIENTS →
      motive { s with
        distributor := (s.distributor.removeById id).2
        writer := .feed ⟨.proxyDisconnect id, m.of⟩ })
    (unknown : ∀ {id}, m.val = .removeMinecraftClient id → ¬ id.toNat < MAXIMUM_CLIENTS →
      motive { s with distributor := (s.distributor.removeById id).2, writer := .tryRecv }) :
    motive (s.handleMessage m) := by
  simp only [handleMessage]
  split
  · next idSender tx hm =>
    split
    · next e he => exact full hm ⟨e, he⟩
    · next id d hd =>
      split
      · next startData hp => exact joined hm hd hp
      · next hp => exact gone hm hd hp
  · next id pkg hm => exact packet hm
  · next p hm => exact ping hm
  · next id hm =>
    split
    · next hr =>
      refine removed hm ?_
      by_contra hlt
      simp [Distributor.removeById, hlt] at hr
    · next hr =>
      refine unknown hm fun hlt => hr ?_
      simp [Distributor.removeById, hlt]

/-- The ends of `handleFrame`. -/
@[elab_as_elim]
theorem handleFrame_cases {motive : Session → Prop} (s : Session) (f : Marked Conn SocketPacket)
    (disconnect : ∀ {id P}, f.val = .proxyDisconnect id → s.distributor.getById id = some P →
      motive { s with
        distributor := (s.distributor.removeById id).2
        players := update s.players P { s.players P with disconnected := true } })
    (disconnectNone : ∀ {id}, f.val = .proxyDisconnect id → s.distributor.getById id = none →
      motive { s with distributor := (s.distributor.removeById id).2 })
    (data : ∀ {id pkg P}, f.val = .proxyData ⟨id, pkg⟩ → s.distributor.getById id = some P →
      motive { s with players := update s.players P ((s.players P).send ⟨pkg.bytes, f.of⟩) })
    (dataNone : ∀ {id pkg}, f.val = .proxyData ⟨id, pkg⟩ → s.distributor.getById id = none → motive s)
    (ping : ∀ {ping}, f.val = .proxyPing ping →
      motive { s with queue := s.offer ⟨.answerPingPacket ping, none⟩ })
    (other : (∀ packet, f.val ≠ .proxyData packet) → (∀ id, f.val ≠ .proxyDisconnect id) → motive s) :
    motive (s.handleFrame f) := by
  simp only [handleFrame]
  split
  · next id hf =>
    cases hg : s.distributor.getById id with
    | none => exact disconnectNone hf hg
    | some P => exact disconnect hf hg
  · next packet hf =>
    split
    · next hg => exact dataNone hf hg
    · next P hg => exact data hf hg
  · next p hf => exact ping hf
  · next hdis hdata _ => exact other hdata hdis

/-- The ends of `readerFrame`. -/
@[elab_as_elim]
theorem readerFrame_cases {motive : Session → Prop} (s : Session) (f : Marked Player SocketPacket)
    (join : ∀ {id}, f.val = .proxyJoin id →
      motive { s with
        client := s.client.addConnection id s.opened
        conns := update s.conns s.opened (.new id f.of)
        opened := s.opened + 1 })
    (data : ∀ {id pkg c}, f.val = .proxyData ⟨id, pkg⟩ → s.client.connection id = some c →
      (s.conns c).task ≠ .ended →
      motive { s with
        conns := update s.conns c { s.conns c with rx := (s.conns c).rx.send ⟨pkg.bytes, f.of⟩ } })
    (dataLost : ∀ {id pkg c}, f.val = .proxyData ⟨id, pkg⟩ → s.client.connection id = some c →
      (s.conns c).task = .ended → motive { s with client := s.client.removeConnection id })
    (dataNone : ∀ {id pkg}, f.val = .proxyData ⟨id, pkg⟩ → s.client.connection id = none →
      motive { s with clientReader := false })
    (disconnect : ∀ {id c}, f.val = .proxyDisconnect id → s.client.connection id = some c →
      motive { s with
        client := s.client.removeConnection id
        conns := update s.conns c { s.conns c with disconnected := true } })
    (disconnectNone : ∀ {id}, f.val = .proxyDisconnect id → s.client.connection id = none →
      motive { s with client := s.client.removeConnection id })
    (pong : ∀ {ping}, f.val = .proxyPong ping → motive s)
    (unexpected : (∀ id, f.val ≠ .proxyJoin id) → (∀ packet, f.val ≠ .proxyData packet) →
      (∀ id, f.val ≠ .proxyDisconnect id) → motive { s with clientReader := false }) :
    motive (s.readerFrame f) := by
  simp only [readerFrame]
  split
  · next id hf => exact join hf
  · next packet hf =>
    simp only [sendTo]
    cases hc : s.client.connection packet.clientId with
    | none => exact dataNone hf hc
    | some c =>
      by_cases ht : (s.conns c).task = .ended
      · simp only [ht, if_true]; exact dataLost hf hc ht
      · simp only [if_neg ht]; exact data hf hc ht
  · next id hf =>
    cases hc : s.client.connection id with
    | none => exact disconnectNone hf hc
    | some c => exact disconnect hf hc
  · next p hf => exact pong hf
  · next hjoin hdata hdis _ => exact unexpected hjoin hdata hdis

/-- The ends of `backendMessage`. -/
@[elab_as_elim]
theorem backendMessage_cases {motive : Session → Prop} (s : Session) (m : Marked Conn BackendToProxy)
    (packet : ∀ {id pkg}, m.val = .packet id pkg →
      motive { s with clientWriter := .feed ⟨.proxyData ⟨id, pkg⟩, m.of⟩ })
    (remove : ∀ {id}, m.val = .removeMinecraftClient id →
      motive { s with
        disconnectRx := s.disconnectRx ++ [id]
        clientWriter := .feed ⟨.proxyDisconnect id, m.of⟩ })
    (ping : ∀ {ping}, m.val = .ping ping →
      motive { s with clientWriter := .feed ⟨.proxyPing ping, none⟩ })
    (ends : motive s.endClientWriter) : motive (s.backendMessage m) := by
  simp only [backendMessage]
  split
  · next id pkg hm => exact packet hm
  · next id hm =>
    split
    · exact remove hm
    · exact ends
  · exact ends
  · next p hm => exact ping hm

/-! ### Steps -/

def enabled (s : Session) : Action → Bool
  | .connect P _ => (s.players P).phase = .absent ∧ s.writer ≠ .ended
  | .joinFails P => (s.players P).phase.joining = true ∧ s.writer = .ended
  | .sendStart P id startData => (s.players P).phase = .hasId id startData ∧ s.writer ≠ .ended
  | .clientRead P id chunk =>
    (s.players P).reading = true ∧ (s.players P).phase.id? = some id ∧ chunk ≠ [] ∧ chunk.length ≤ 2048
  | .clientReadEnds P => (s.players P).reading = true
  | .clientWriterTake P data =>
    (s.players P).phase.id?.isSome ∧ ((s.players P).writer = .recv ∨ (s.players P).writer = .drain) ∧
      (s.players P).rx.pending.head? = some data
  | .clientWriterDrained P => (s.players P).writer = .drain ∧ (s.players P).rx.pending = []
  | .clientWriterWrite P _ => (s.players P).rxOpen = true
  | .clientWriterFlushed P => (s.players P).writer = .flush ∧ (s.players P).bufWriter = []
  | .clientWriterFlushFails P => (s.players P).writer = .flush
  | .clientWriterClosed P =>
    (s.players P).phase.id?.isSome ∧ (s.players P).writer = .recv ∧ (s.players P).rx.pending = [] ∧
      ¬ s.SenderAlive P
  | .clientWriterFails P => (s.players P).phase.id?.isSome ∧ (s.players P).rxOpen = true
  | .clientWriterAborted P =>
    (s.players P).phase.isFinished = true ∧ (s.players P).rxOpen = true
  | .clientFinish P id =>
    (s.players P).phase = .handling id ∧ ((s.players P).reading = false ∨ (s.players P).rxOpen = false)
  | .handleWriter m => (s.writer = .recv ∨ s.writer = .tryRecv) ∧ s.queue.head? = some m
  | .handleWriterFeed f => s.writer = .feed f
  | .handleWriterEmpty => s.writer = .tryRecv ∧ s.queue = []
  | .handleWriterFlushed => s.writer = .flush ∧ s.down.buffered = []
  | .handleWriterFails => s.writer ≠ .ended
  | .handleWriterAborted => s.writer ≠ .ended ∧ s.reader = false
  | .handleReader f => s.reader = true ∧ s.up.Gives f
  | .handleReaderEnds => s.reader = true
  | .handleEnds => s.reader = false ∧ s.writer = .ended ∧ s.serving = true
  | .downWrite _ => s.writer ≠ .ended
  | .upWrite _ => s.clientWriter ≠ .ended
  | .readerHandler f => s.clientReader = true ∧ s.down.Gives f
  | .readerDisconnect id => s.clientReader = true ∧ s.disconnectRx.head? = some id
  | .readerDisconnectClosed =>
    s.clientReader = true ∧ s.disconnectRx = [] ∧ s.clientWriter = .ended
  | .readerPing _ => s.clientReader = true
  | .readerEnds => s.clientReader = true
  | .writerHandler m =>
    (s.clientWriter = .tryRecv ∨ s.clientWriter = .recv) ∧ s.toProxy.head? = some m
  | .writerHandlerFeed f => s.clientWriter = .feed f
  | .writerHandlerEmpty => s.clientWriter = .tryRecv ∧ s.toProxy = []
  | .writerHandlerFlushed => s.clientWriter = .flush ∧ s.up.buffered = []
  | .writerHandlerFails => s.clientWriter ≠ .ended
  | .writerHandlerAborted => s.clientWriter ≠ .ended ∧ s.clientReader = false
  | .backendConnected c => (s.conns c).task = .connecting
  | .backendConnectFails c _ => (s.conns c).task = .connecting
  | .backendRecv c data => (s.conns c).task = .select ∧ (s.conns c).rx.pending.head? = some data
  | .backendWrite c rest _ => (s.conns c).task = .writing rest
  | .backendWritten c => (s.conns c).task = .writing []
  | .backendWriteFails c rest => (s.conns c).task = .writing rest
  | .backendClosed c =>
    (s.conns c).task = .select ∧ (s.conns c).rx.pending = [] ∧ ¬ s.ConnAlive c
  | .backendRead c chunk => (s.conns c).task = .select ∧ chunk ≠ [] ∧ chunk.length ≤ 16384
  | .backendReadEnds c => (s.conns c).task = .select
  | .backendDropped c => (s.conns c).task = .dropping

def next (s : Session) : Action → Session
  | .connect P startData =>
    { s with
      players := update s.players P
        { s.players P with phase := .awaitId startData, bytesRead := startData }
      queue := s.queue ++ [⟨.addMinecraftClient P P, some P⟩] }
  | .joinFails P =>
    { s with players := update s.players P { s.players P with phase := .failed, writer := .ended } }
  | .sendStart P id startData =>
    { s with
      players := update s.players P { s.players P with phase := .handling id, reading := true }
      queue := s.queue ++ [⟨.packet id ⟨startData⟩, some P⟩] }
  | .clientRead P id chunk =>
    { s with
      players := update s.players P
        { s.players P with
          bytesRead := (s.players P).bytesRead ++ chunk
          -- a send that fails ends the loop
          reading := s.writer ≠ .ended }
      queue := s.offer ⟨.packet id ⟨chunk⟩, some P⟩ }
  | .clientReadEnds P => { s with players := update s.players P { s.players P with reading := false } }
  | .clientWriterTake P data =>
    { s with
      players := update s.players P
        { s.players P with
          rx := (s.players P).rx.pop data
          bufWriter := (s.players P).bufWriter ++ data.val
          writer := .drain } }
  | .clientWriterDrained P =>
    { s with players := update s.players P { s.players P with writer := .flush } }
  | .clientWriterWrite P n =>
    { s with
      players := update s.players P
        { s.players P with
          bufWriter := (s.players P).bufWriter.drop n
          bytesWritten := (s.players P).bytesWritten ++ (s.players P).bufWriter.take n } }
  | .clientWriterFlushed P =>
    { s with players := update s.players P { s.players P with writer := .recv } }
  | .clientWriterFlushFails P =>
    { s with players := update s.players P { s.players P with writer := .recv } }
  | .clientWriterClosed P =>
    { s with players := update s.players P { s.players P with writer := .closed } }
  | .clientWriterFails P =>
    { s with players := update s.players P { s.players P with writer := .ended } }
  | .clientWriterAborted P =>
    { s with players := update s.players P { s.players P with writer := .ended } }
  | .clientFinish P id =>
    { s with
      players := update s.players P { s.players P with phase := .finished id }
      queue := s.offer ⟨.removeMinecraftClient id, some P⟩ }
  | .handleWriter m => { s with queue := s.queue.tail }.handleMessage m
  | .handleWriterFeed f => { s with down := s.down.feed (fits f.val) f, writer := .tryRecv }
  | .handleWriterEmpty => { s with writer := .flush }
  | .handleWriterFlushed => { s with writer := .recv }
  | .handleWriterFails => s.endWriter
  | .handleWriterAborted => s.endWriter
  | .handleReader f => { s with up := s.up.pop f }.handleFrame f
  | .handleReaderEnds => { s with reader := false }
  | .handleEnds => { s with serving := false }
  | .downWrite n => { s with down := s.down.write n }
  | .upWrite n => { s with up := s.up.write n }
  | .readerHandler f => { s with down := s.down.pop f }.readerFrame f
  | .readerDisconnect id =>
    { s with client := s.client.removeConnection id, disconnectRx := s.disconnectRx.tail }
  | .readerDisconnectClosed => { s with clientReader := false }
  | .readerPing time =>
    { s with
      toProxy := s.offerBackend ⟨.ping time, none⟩
      clientReader := s.clientWriter ≠ .ended }
  | .readerEnds => { s with clientReader := false }
  | .writerHandler m => { s with toProxy := s.toProxy.tail }.backendMessage m
  | .writerHandlerFeed f => { s with up := s.up.feed (fits f.val) f, clientWriter := .tryRecv }
  | .writerHandlerEmpty => { s with clientWriter := .flush }
  | .writerHandlerFlushed => { s with clientWriter := .recv }
  | .writerHandlerFails => s.endClientWriter
  | .writerHandlerAborted => s.endClientWriter
  | .backendConnected c => { s with conns := update s.conns c { s.conns c with task := .select } }
  | .backendConnectFails c error =>
    { s with
      conns := update s.conns c { s.conns c with task := .dropping }
      -- `set_death`, then `drop`
      toProxy :=
        { s with toProxy := s.offerBackend ⟨.death error, some c⟩ }.offerBackend
          ⟨.removeMinecraftClient (s.conns c).clientId, some c⟩ }
  | .backendRecv c data =>
    { s with
      conns := update s.conns c
        { s.conns c with rx := (s.conns c).rx.pop data, task := .writing data.val } }
  | .backendWrite c rest n =>
    { s with
      conns := update s.conns c
        { s.conns c with
          task := .writing (rest.drop n)
          bytesWritten := (s.conns c).bytesWritten ++ rest.take n } }
  | .backendWritten c => { s with conns := update s.conns c { s.conns c with task := .select } }
  | .backendWriteFails c _ =>
    { s with
      conns := update s.conns c { s.conns c with task := .dropping }
      toProxy := s.offerBackend ⟨.removeMinecraftClient (s.conns c).clientId, some c⟩ }
  | .backendClosed c =>
    { s with conns := update s.conns c { s.conns c with task := .ended, needForClose := false } }
  | .backendRead c chunk =>
    { s with
      conns := update s.conns c
        { s.conns c with
          bytesRead := (s.conns c).bytesRead ++ chunk
          task := if s.clientWriter = .ended then .dropping else .select }
      toProxy := s.offerBackend ⟨.packet (s.conns c).clientId ⟨chunk⟩, some c⟩ }
  | .backendReadEnds c =>
    { s with
      conns := update s.conns c { s.conns c with task := .dropping }
      toProxy := s.offerBackend ⟨.removeMinecraftClient (s.conns c).clientId, some c⟩ }
  | .backendDropped c => { s with conns := update s.conns c { s.conns c with task := .ended } }

def step (s : Session) (a : Action) : Option Session := if s.enabled a then some (s.next a) else none

theorem step_eq_some {s s' : Session} {a : Action} (h : s.step a = some s') :
    s.enabled a = true ∧ s' = s.next a := by
  rw [step] at h
  split at h
  · next ha => cases h; exact ⟨ha, rfl⟩
  · cases h

/-! ### Membership in what an action changes -/

theorem forall_mem_append_singleton {α : Type} {l : List α} {m : α} {p : α → Prop}
    (h : ∀ x ∈ l, p x) (hm : p m) : ∀ x ∈ l ++ [m], p x := by
  intro x hx
  rcases List.mem_append.1 hx with hx | hx
  · exact h x hx
  · obtain rfl := List.mem_singleton.1 hx; exact hm

theorem forall_mem_offer {s : Session} {m : Marked Player (ClientToProxy Player Player)}
    {p : Marked Player (ClientToProxy Player Player) → Prop} (h : ∀ x ∈ s.queue, p x) (hm : p m) :
    ∀ x ∈ s.offer m, p x := by
  intro x hx
  rw [offer] at hx
  split at hx
  · exact h x hx
  · exact forall_mem_append_singleton h hm x hx

theorem forall_mem_offerBackend {s : Session} {m : Marked Conn BackendToProxy}
    {p : Marked Conn BackendToProxy → Prop} (h : ∀ x ∈ s.toProxy, p x) (hm : p m) :
    ∀ x ∈ s.offerBackend m, p x := by
  intro x hx
  rw [offerBackend] at hx
  split at hx
  · exact h x hx
  · exact forall_mem_append_singleton h hm x hx

theorem forall_mem_tail {α : Type} {l : List α} {p : α → Prop} (h : ∀ x ∈ l, p x) :
    ∀ x ∈ l.tail, p x := fun x hx => h x (List.mem_of_mem_tail hx)

theorem forall_players {s : Session} {R : Player → PlayerState → Prop}
    (h : ∀ Q, R Q (s.players Q)) {P : Player} {p : PlayerState} (hp : R P p) :
    ∀ Q, R Q (update s.players P p Q) := by
  intro Q
  rw [Function.update_apply]
  split
  · next he => subst he; exact hp
  · exact h Q

theorem forall_conns {s : Session} {R : Conn → ClientConnection → Prop}
    (h : ∀ c, R c (s.conns c)) {c : Conn} {x : ClientConnection} (hx : R c x) :
    ∀ d, R d (update s.conns c x d) := by
  intro d
  rw [Function.update_apply]
  split
  · next he => subst he; exact hx
  · exact h d

end Session
end CraftIP
