import CraftIP.Session.Downlink

/-!
# Who is disconnected

Both `handle_writer` and `handle_reader` empty a slot by its number. Where an id is only given when no
message that removes it is left of an earlier holder, and none can still come, every removal empties the
slot of the player it was meant for (`removal_hits_holder`).
-/

namespace CraftIP
open Function (update)

/-- The id that the task of `MCClient` will remove at its end. -/
def ClientPhase.removes? : ClientPhase → Option ClientID
  | .hasId id _ => some id
  | .handling id => some id
  | _ => none

namespace Session

/-- No `RemoveMinecraftClient` with the id is left, and the last holder will send none. -/
def RemoveGone (s : Session) (id : ClientID) : Prop :=
  (∀ m ∈ s.queue, m.val ≠ .removeMinecraftClient id) ∧
    ∀ P ∈ s.owner id, (s.players P).phase.removes? ≠ some id

/-- No disconnect with the id is on its way to the server. -/
def DisconnectGone (s : Session) (id : ClientID) : Prop :=
  (∀ m ∈ s.toProxy, m.val ≠ .removeMinecraftClient id) ∧ ∀ f ∈ s.upstream, f.val ≠ .proxyDisconnect id

instance (s : Session) (id : ClientID) : Decidable (s.RemoveGone id) :=
  inferInstanceAs (Decidable (_ ∧ _))

instance (s : Session) (id : ClientID) : Decidable (s.DisconnectGone id) :=
  inferInstanceAs (Decidable (_ ∧ _))

/-- First packets are short, and an id is given when the earlier holder's removal by its own task is done
and its backend connection can no longer cause one. -/
def RemovalFree (s : Session) (a : Action) : Prop :=
  ShortStart a ∧ ∀ id ∈ s.givenId a, s.BackendGone id ∧ s.DisconnectGone id ∧ s.RemoveGone id

instance (s : Session) (a : Action) : Decidable (s.RemovalFree a) :=
  inferInstanceAs (Decidable (_ ∧ _))

/-- The messages that remove an id, and the players that will send one, are its owner's. -/
structure Removing (s : Session) : Prop where
  add : ∀ m ∈ s.queue, ∀ idSender tx, m.val = .addMinecraftClient idSender tx → idSender = tx
  player : ∀ P id, (s.players P).phase.removes? = some id → s.owner id = some P
  queue : ∀ m ∈ s.queue, ∀ id, m.val = .removeMinecraftClient id → m.of = s.owner id

/-- What the client sends to remove an id is of a backend connection of its owner, too. -/
structure RemovalOwned (s : Session) : Prop where
  add : ∀ m ∈ s.queue, ∀ idSender tx, m.val = .addMinecraftClient idSender tx → idSender = tx
  player : ∀ P id, (s.players P).phase.removes? = some id → s.owner id = some P
  queue : ∀ m ∈ s.queue, ∀ id, m.val = .removeMinecraftClient id → m.of = s.owner id
  toProxy : ∀ m ∈ s.toProxy, ∀ id, m.val = .removeMinecraftClient id → s.OpenedFor m.of (s.owner id)
  up : ∀ f ∈ s.upstream, ∀ id, f.val = .proxyDisconnect id → s.OpenedFor f.of (s.owner id)

variable {s s' : Session}

/-! ### The server's removals -/

theorem removing_init : Removing init where
  add := by simp [init]
  player _ id h := by cases h
  queue := by simp [init]

theorem Removing.endWriter (h : Removing s) : Removing s.endWriter :=
  { h with add := (fun _ hm => by cases hm), queue := (fun _ hm => by cases hm) }

theorem Removing.update_player (h : Removing s) {P : Player} {p : PlayerState}
    {q : List (Marked Player (ClientToProxy Player Player))}
    (hp : ∀ id, p.phase.removes? = some id → s.owner id = some P)
    (hadd : ∀ m ∈ q, ∀ idSender tx, m.val = .addMinecraftClient idSender tx → idSender = tx)
    (hq : ∀ m ∈ q, ∀ id, m.val = .removeMinecraftClient id → m.of = s.owner id) :
    Removing { s with players := update s.players P p, queue := q } where
  add := hadd
  player := forall_players (R := fun P p => ∀ id, p.phase.removes? = some id → s.owner id = some P) h.player hp
  queue := hq

/-- A player goes on and sends nothing. -/
theorem Removing.update_phase (h : Removing s) {P : Player} {p : PlayerState}
    (hp : ∀ id, p.phase.removes? = some id → (s.players P).phase.removes? = some id) :
    Removing { s with players := update s.players P p } :=
  h.update_player (q := s.queue) (fun id he => h.player P id (hp id he)) h.add h.queue

/-- Giving an id that nothing is left to remove takes nothing from its owner. -/
theorem Removing.stay (h : Removing s) {id : ClientID} (hr : s.RemoveGone id) (tx : Player) :
    ∀ P id', (s.players P).phase.removes? = some id' → update s.owner id (some tx) id' = some P := by
  intro P id' he
  have hne : id' ≠ id := by rintro rfl; exact hr.2 P (h.player P id' he) he
  rw [Function.update_of_ne hne]
  exact h.player P id' he

/-- `s` has the message taken off the queue. -/
theorem Removing.handleMessage (h : Removing s) {m : Marked Player (ClientToProxy Player Player)}
    (hadd : ∀ idSender tx, m.val = .addMinecraftClient idSender tx → idSender = tx)
    (hfree : ∀ id ∈ s.givenId (.handleWriter m), s.RemoveGone id) : Removing (s.handleMessage m) := by
  apply handleMessage_cases (motive := Removing) s m
  case full => intros; exact h.endWriter
  case joined =>
    intro idSender tx id d startData hv hins hphase
    have hr := hfree id (givenId_eq_some hv hins)
    obtain rfl := hadd idSender tx hv
    exact
      { add := h.add
        player := by
          refine forall_players (R := fun P p => ∀ id', p.phase.removes? = some id' →
            update s.owner id (some idSender) id' = some P) (h.stay hr idSender) fun id' he => ?_
          obtain rfl : id = id' := Option.some.inj he
          exact Function.update_self id (some idSender) s.owner
        queue := fun m hm id' he => by
          have hne : id' ≠ id := by rintro rfl; exact hr.1 m hm he
          exact (h.queue m hm id' he).trans (Function.update_of_ne hne _ _).symm }
  case gone =>
    intro idSender tx id d hv hins _
    exact { h.endWriter with
      player := h.stay (hfree id (givenId_eq_some hv hins)) tx
      queue := (fun _ hm => by cases hm) }
  case packet => intros; exact { h with }
  case ping => intros; exact { h with }
  case removed => intros; exact { h with }
  case unknown => intros; exact { h with }

theorem Removing.handleFrame (h : Removing s) (f : Marked Conn SocketPacket) :
    Removing (s.handleFrame f) := by
  apply handleFrame_cases (motive := Removing) s f
  case disconnect =>
    intro id P hv hg
    exact { h.update_phase (P := P) (p := { s.players P with disconnected := true }) (fun _ he => he) with }
  case data =>
    intro id pkg P hv hg
    exact h.update_phase (by rw [PlayerState.send]; split <;> exact fun _ he => he)
  case disconnectNone => intros; exact { h with }
  case dataNone => intros; exact h
  case ping =>
    intros
    exact { h with
      add := forall_mem_offer h.add (by simp)
      queue := forall_mem_offer h.queue (by simp) }
  case other => intros; exact h

theorem Removing.readerFrame (h : Removing s) (f : Marked Player SocketPacket) :
    Removing (s.readerFrame f) := by
  apply readerFrame_cases (motive := Removing) s f <;> intros <;> exact { h with }

theorem Removing.backendMessage (h : Removing s) (m : Marked Conn BackendToProxy) :
    Removing (s.backendMessage m) := by
  apply backendMessage_cases (motive := Removing) s m <;> intros <;> exact { h with }

theorem Removing.step {a : Action} (h : Removing s) (hfree : ∀ id ∈ s.givenId a, s.RemoveGone id)
    (hs : s.step a = some s') : Removing s' := by
  obtain ⟨ha, rfl⟩ := step_eq_some hs
  cases a with
  | connect P startData =>
    exact h.update_player (fun _ he => by cases he)
      (forall_mem_append_singleton h.add (by rintro _ _ he; cases he; rfl))
      (forall_mem_append_singleton h.queue (by simp))
  | joinFails P => exact h.update_phase (fun _ he => by cases he)
  | sendStart P id startData =>
    have hp := (of_decide_eq_true ha).1
    exact h.update_player (fun id' he => h.player P id' (by rw [hp]; exact he))
      (forall_mem_append_singleton h.add (by simp)) (forall_mem_append_singleton h.queue (by simp))
  | clientRead P id chunk =>
    exact h.update_player (h.player P) (forall_mem_offer h.add (by simp)) (forall_mem_offer h.queue (by simp))
  | clientFinish P id =>
    have hp := (of_decide_eq_true ha).1
    have howner : s.owner id = some P := h.player P id (by rw [hp]; rfl)
    exact h.update_player (fun _ he => by cases he) (forall_mem_offer h.add (by simp))
      (forall_mem_offer h.queue fun id' he => by cases he; exact howner.symm)
  | clientReadEnds P | clientWriterTake P _ | clientWriterDrained P | clientWriterWrite P _
  | clientWriterFlushed P | clientWriterFlushFails P | clientWriterClosed P | clientWriterFails P
  | clientWriterAborted P => exact h.update_phase (fun _ he => he)
  | handleWriter m =>
    obtain ⟨-, hm⟩ := of_decide_eq_true ha
    have hs : Removing { s with queue := s.queue.tail } :=
      { h with add := forall_mem_tail h.add, queue := forall_mem_tail h.queue }
    exact hs.handleMessage (h.add m (List.mem_of_mem_head? hm)) fun id hid =>
      ⟨fun m hm => (hfree id hid).1 m (List.mem_of_mem_tail hm), (hfree id hid).2⟩
  | handleWriterFails | handleWriterAborted => exact h.endWriter
  | handleReader f =>
    have hs : Removing { s with up := s.up.pop f } := { h with }
    exact hs.handleFrame f
  | readerHandler f =>
    have hs : Removing { s with down := s.down.pop f } := { h with }
    exact hs.readerFrame f
  | writerHandler m =>
    have hs : Removing { s with toProxy := s.toProxy.tail } := { h with }
    exact hs.backendMessage m
  | handleWriterFeed | handleWriterEmpty | handleWriterFlushed | handleReaderEnds | handleEnds | downWrite
  | upWrite | readerDisconnect | readerDisconnectClosed | readerPing | readerEnds | writerHandlerFeed
  | writerHandlerEmpty | writerHandlerFlushed | writerHandlerFails | writerHandlerAborted
  | backendConnected | backendConnectFails | backendRecv | backendWrite | backendWritten
  | backendWriteFails | backendClosed | backendRead | backendReadEnds | backendDropped => exact { h with }

/-! ### The client's removals -/

theorem RemovalOwned.removing (h : RemovalOwned s) : Removing s := ⟨h.add, h.player, h.queue⟩

theorem RemovalOwned.of_removing (hr : Removing s)
    (htoProxy : ∀ m ∈ s.toProxy, ∀ id, m.val = .removeMinecraftClient id → s.OpenedFor m.of (s.owner id))
    (hup : ∀ f ∈ s.upstream, ∀ id, f.val = .proxyDisconnect id → s.OpenedFor f.of (s.owner id)) :
    RemovalOwned s :=
  ⟨hr.add, hr.player, hr.queue, htoProxy, hup⟩

theorem removalOwned_init : RemovalOwned init :=
  .of_removing removing_init (by simp [init])
    (by simp [init, upstream, WriterHandler.held, Link.inFlight, Link.empty])

/-- Giving an id that no disconnect is left of takes nothing from its owner. -/
theorem RemovalOwned.stay (h : RemovalOwned s) {id : ClientID} (hd : s.DisconnectGone id) (tx : Player) :
    (∀ m ∈ s.toProxy, ∀ id', m.val = .removeMinecraftClient id' →
      s.OpenedFor m.of (update s.owner id (some tx) id')) ∧
    ∀ f ∈ s.upstream, ∀ id', f.val = .proxyDisconnect id' →
      s.OpenedFor f.of (update s.owner id (some tx) id') := by
  refine ⟨fun m hm id' he => ?_, fun f hf id' he => ?_⟩
  · have hne : id' ≠ id := by rintro rfl; exact hd.1 m hm he
    rw [Function.update_of_ne hne]; exact h.toProxy m hm id' he
  · have hne : id' ≠ id := by rintro rfl; exact hd.2 f hf he
    rw [Function.update_of_ne hne]; exact h.up f hf id' he

/-- `s` has the message taken off the queue. -/
theorem RemovalOwned.handleMessage (h : RemovalOwned s) {m : Marked Player (ClientToProxy Player Player)}
    (hfree : ∀ id ∈ s.givenId (.handleWriter m), s.DisconnectGone id) (hr : Removing (s.handleMessage m)) :
    RemovalOwned (s.handleMessage m) := by
  revert hr
  apply handleMessage_cases (motive := fun t => Removing t → RemovalOwned t) s m
  case full => intro _ _ _ _ hr; exact .of_removing hr h.toProxy h.up
  case joined =>
    intro _ tx id _ _ hv hins _ hr
    obtain ⟨htoProxy, hup⟩ := h.stay (hfree id (givenId_eq_some hv hins)) tx
    exact .of_removing hr htoProxy hup
  case gone =>
    intro _ tx id _ hv hins _ hr
    obtain ⟨htoProxy, hup⟩ := h.stay (hfree id (givenId_eq_some hv hins)) tx
    exact .of_removing hr htoProxy hup
  case packet => intro _ _ _ hr; exact .of_removing hr h.toProxy h.up
  case ping => intro _ _ hr; exact .of_removing hr h.toProxy h.up
  case removed => intro _ _ _ hr; exact .of_removing hr h.toProxy h.up
  case unknown => intro _ _ _ hr; exact .of_removing hr h.toProxy h.up

theorem RemovalOwned.handleFrame (h : RemovalOwned s) (f : Marked Conn SocketPacket) :
    RemovalOwned (s.handleFrame f) := by
  have hr := h.removing.handleFrame f
  revert hr
  apply handleFrame_cases (motive := fun t => Removing t → RemovalOwned t) s f
  case disconnect => intro _ _ _ _ hr; exact .of_removing hr h.toProxy h.up
  case disconnectNone => intro _ _ _ hr; exact .of_removing hr h.toProxy h.up
  case data => intro _ _ _ _ _ hr; exact .of_removing hr h.toProxy h.up
  case dataNone => intros; exact h
  case ping => intro _ _ hr; exact .of_removing hr h.toProxy h.up
  case other => intros; exact h

theorem RemovalOwned.update_conn (h : RemovalOwned s) {c : Conn} {x : ClientConnection}
    (hx : x.openedFor = (s.conns c).openedFor) :
    RemovalOwned { s with conns := update s.conns c x } :=
  { h with
    toProxy := fun m hm id he => (h.toProxy m hm id he).update_conn hx
    up := fun f hf id he => (h.up f hf id he).update_conn hx }

theorem RemovalOwned.readerFrame (h : RemovalOwned s) (f : Marked Player SocketPacket) :
    RemovalOwned (s.readerFrame f) := by
  apply readerFrame_cases (motive := RemovalOwned) s f
  case join =>
    intro id hv
    exact { h with
      toProxy := fun m hm id he => (h.toProxy m hm id he).join _ _
      up := fun f hf id he => (h.up f hf id he).join _ _ }
  case data => intros; exact h.update_conn rfl
  case disconnect =>
    intro id c hv hc
    have hs := h.update_conn (c := c) (x := { s.conns c with disconnected := true }) rfl
    exact { hs with }
  case dataLost => intros; exact { h with }
  case dataNone => intros; exact { h with }
  case disconnectNone => intros; exact { h with }
  case pong => intros; exact h
  case unexpected => intros; exact { h with }

theorem RemovalOwned.backendMessage (h : RemovalOwned s) {m : Marked Conn BackendToProxy}
    (hm : ∀ id, m.val = .removeMinecraftClient id → s.OpenedFor m.of (s.owner id)) :
    RemovalOwned (s.backendMessage m) := by
  apply backendMessage_cases (motive := RemovalOwned) s m
  case packet => intros; exact { h with up := forall_upstream_append (s := s) h.up (fun _ he => by cases he) }
  case remove =>
    intro id hv
    exact { h with
      up := forall_upstream_append (s := s) h.up fun id' he => by cases he; exact hm _ hv }
  case ping => intros; exact { h with up := forall_upstream_append (s := s) h.up (fun _ he => by cases he) }
  case ends => exact { h with toProxy := (fun _ hm => by cases hm), up := forall_upstream (s := s) h.up }

theorem RemovalOwned.step {a : Action} (h : RemovalOwned s) (hb : BackendOwned s) (hclean : Clean s)
    (hfree : ∀ id ∈ s.givenId a, s.DisconnectGone id ∧ s.RemoveGone id) (hs : s.step a = some s') :
    RemovalOwned s' := by
  have hr := h.removing.step (fun id hid => (hfree id hid).2) hs
  obtain ⟨ha, rfl⟩ := step_eq_some hs
  -- a backend connection that ends asks for the removal of its own id
  have hdrop : ∀ {c : Conn} {x : ClientConnection} {l : List (Marked Conn BackendToProxy)},
      (s.conns c).live = true → x.openedFor = (s.conns c).openedFor →
      (∀ m ∈ l, ∀ id, m.val = .removeMinecraftClient id → s.OpenedFor m.of (s.owner id)) →
      RemovalOwned { s with
        conns := update s.conns c x
        toProxy :=
          { s with toProxy := l }.offerBackend
            ⟨.removeMinecraftClient (s.conns c).clientId, some c⟩ } := by
    intro c x l hlive hx hl
    refine { h.update_conn hx with toProxy := fun m hm id he => OpenedFor.update_conn ?_ hx }
    refine forall_mem_offerBackend (s := { s with toProxy := l })
      (p := fun m => ∀ id, m.val = .removeMinecraftClient id → s.OpenedFor m.of (s.owner id)) hl ?_ m hm id he
    intro id he
    cases he
    exact ⟨c, hb.conn_lt hlive, rfl, hb.conn c hlive⟩
  cases a with
  | handleWriter m =>
    have hs : RemovalOwned { s with queue := s.queue.tail } :=
      { h with add := forall_mem_tail h.add, queue := forall_mem_tail h.queue }
    exact hs.handleMessage (fun id hid => (hfree id hid).1) hr
  | handleReader f =>
    obtain ⟨-, hg⟩ := of_decide_eq_true ha
    obtain ⟨-, hin, -, -⟩ := Link.pop_of_gives hclean.up hg
    have hs : RemovalOwned { s with up := s.up.pop f } :=
      { h with up := fun g hg => h.up g (by rw [upstream, hin]; exact List.mem_cons_of_mem _ hg) }
    exact hs.handleFrame f
  | readerHandler f =>
    have hs : RemovalOwned { s with down := s.down.pop f } := { h with }
    exact hs.readerFrame f
  | writerHandler m =>
    have hm := (of_decide_eq_true ha).2
    have hs : RemovalOwned { s with toProxy := s.toProxy.tail } :=
      { h with toProxy := forall_mem_tail h.toProxy }
    exact hs.backendMessage (h.toProxy m (List.mem_of_mem_head? hm))
  | writerHandlerFeed f =>
    have hw := of_decide_eq_true ha
    exact { h with up := forall_upstream_feed h.up hw (fits f.val) }
  | upWrite n => exact { h with up := forall_upstream_write h.up n }
  | writerHandlerEmpty | writerHandlerFlushed => exact { h with up := forall_upstream (s := s) h.up }
  | writerHandlerFails | writerHandlerAborted =>
    exact { h with toProxy := (fun _ hm => by cases hm), up := forall_upstream (s := s) h.up }
  | readerPing time => exact { h with toProxy := forall_mem_offerBackend h.toProxy (by simp) }
  | backendConnected | backendRecv | backendWrite | backendWritten | backendClosed | backendDropped =>
    exact h.update_conn rfl
  | backendConnectFails c error =>
    have hlive : (s.conns c).live = true := by simp [ClientConnection.live, of_decide_eq_true ha]
    exact hdrop hlive rfl (forall_mem_offerBackend h.toProxy (by simp))
  | backendWriteFails c rest =>
    have hlive : (s.conns c).live = true := by simp [ClientConnection.live, of_decide_eq_true ha]
    exact hdrop hlive rfl h.toProxy
  | backendReadEnds c =>
    have hlive : (s.conns c).live = true := by simp [ClientConnection.live, of_decide_eq_true ha]
    exact hdrop hlive rfl h.toProxy
  | backendRead c chunk =>
    have hs := h.update_conn (c := c) (x := { s.conns c with
      bytesRead := (s.conns c).bytesRead ++ chunk
      task := if s.clientWriter = .ended then .dropping else .select }) rfl
    exact { hs with toProxy := forall_mem_offerBackend hs.toProxy (by simp) }
  | connect | joinFails | sendStart | clientRead | clientReadEnds | clientWriterTake | clientWriterDrained
  | clientWriterWrite | clientWriterFlushed | clientWriterFlushFails | clientWriterClosed
  | clientWriterFails | clientWriterAborted | clientFinish | handleWriterFeed | handleWriterEmpty
  | handleWriterFlushed | handleWriterFails | handleWriterAborted | handleReaderEnds | handleEnds
  | downWrite | readerDisconnect | readerDisconnectClosed | readerEnds =>
    exact .of_removing hr h.toProxy h.up

/-! ### What empties a slot -/

theorem getById_insert {d d' : Distributor Player} {tx P : Player} {id id' : ClientID}
    (hins : d.insert tx = .ok (id, d')) (hslot : d.getById id' = some P) : d'.getById id' = some P := by
  obtain ⟨-, hfree, hget⟩ := Distributor.insert_eq_ok hins
  have hne : id ≠ id' := by rintro rfl; rw [hslot] at hfree; cases hfree
  rw [hget, if_neg hne, hslot]

theorem removeById_hits {d : Distributor Player} {P : Player} {id id' : ClientID} (hslot : d.getById id = some P)
    (hgone : (d.removeById id').2.getById id ≠ some P) : id' = id := by
  by_contra hne
  rw [Distributor.getById_removeById, if_neg hne] at hgone
  exact hgone hslot

theorem handleMessage_removes {m : Marked Player (ClientToProxy Player Player)} {id : ClientID} {P : Player}
    (hslot : s.distributor.getById id = some P)
    (hgone : (s.handleMessage m).distributor.getById id ≠ some P) : m.val = .removeMinecraftClient id := by
  revert hgone
  apply handleMessage_cases
    (motive := fun t => t.distributor.getById id ≠ some P → m.val = .removeMinecraftClient id) s m
  case full => intro _ _ _ _ h; exact absurd hslot h
  case joined => intro _ _ _ _ _ _ hins _ h; exact absurd (getById_insert hins hslot) h
  case gone => intro _ _ _ _ _ hins _ h; exact absurd (getById_insert hins hslot) h
  case packet => intro _ _ _ h; exact absurd hslot h
  case ping => intro _ _ h; exact absurd hslot h
  case removed => intro id' hv _ h; rw [hv, removeById_hits hslot h]
  case unknown => intro id' hv _ h; rw [hv, removeById_hits hslot h]

theorem handleFrame_removes {f : Marked Conn SocketPacket} {id : ClientID} {P : Player}
    (hslot : s.distributor.getById id = some P)
    (hgone : (s.handleFrame f).distributor.getById id ≠ some P) : f.val = .proxyDisconnect id := by
  revert hgone
  apply handleFrame_cases
    (motive := fun t => t.distributor.getById id ≠ some P → f.val = .proxyDisconnect id) s f
  case disconnect => intro id' _ hv _ h; rw [hv, removeById_hits hslot h]
  case disconnectNone => intro id' hv _ h; rw [hv, removeById_hits hslot h]
  case data => intro _ _ _ _ _ h; exact absurd hslot h
  case dataNone => intro _ _ _ _ h; exact absurd hslot h
  case ping => intro _ _ h; exact absurd hslot h
  case other => intro _ _ h; exact absurd hslot h

theorem readerFrame_distributor (f : Marked Player SocketPacket) :
    (s.readerFrame f).distributor = s.distributor := by
  apply readerFrame_cases (motive := fun t => t.distributor = s.distributor) s f <;> intros <;> rfl

theorem backendMessage_distributor (m : Marked Conn BackendToProxy) :
    (s.backendMessage m).distributor = s.distributor := by
  apply backendMessage_cases (motive := fun t => t.distributor = s.distributor) s m <;> intros <;> rfl

/-- A slot is emptied by its holder's own message or by a disconnect of a backend connection that was
opened for its holder. -/
def RemovedFor (s : Session) (a : Action) (id : ClientID) (P : Player) : Prop :=
  (∃ m, a = .handleWriter m ∧ m.val = .removeMinecraftClient id ∧ m.of = some P) ∨
    ∃ f c, a = .handleReader f ∧ f.val = .proxyDisconnect id ∧ f.of = some c ∧
      (s.conns c).openedFor = some P

/-- In a run in which ids are only given when nothing is left that would remove the earlier holder, the
slot of a player is emptied for that player only. -/
theorem removal_hits_holder (h : Lts.Reach step RemovalFree init s) {a : Action} (hs : s.step a = some s')
    {id : ClientID} {P : Player} (hslot : s.distributor.getById id = some P)
    (hgone : s'.distributor.getById id ≠ some P) : RemovedFor s a id P := by
  obtain ⟨hclean, hb, hr⟩ := h.invariant (I := fun s => Clean s ∧ BackendOwned s ∧ RemovalOwned s)
    ⟨clean_init, backendOwned_init, removalOwned_init⟩ fun {s a s'} _ ⟨hclean, hb, hr⟩ hc hs =>
      ⟨hclean.step hc.1 hs, hb.step hclean (fun id hid => (hc.2 id hid).1) hs,
        hr.step hb hclean (fun id hid => (hc.2 id hid).2) hs⟩
  have howner := hb.slot id P hslot
  obtain ⟨ha, rfl⟩ := step_eq_some hs
  cases a with
  | handleWriter m =>
    have hv := handleMessage_removes (s := { s with queue := s.queue.tail }) hslot hgone
    have hm := List.mem_of_mem_head? (of_decide_eq_true ha).2
    exact .inl ⟨m, rfl, hv, (hr.queue m hm id hv).trans howner⟩
  | handleReader f =>
    have hv := handleFrame_removes (s := { s with up := s.up.pop f }) hslot hgone
    obtain ⟨-, hin, -, -⟩ := Link.pop_of_gives hclean.up (of_decide_eq_true ha).2
    have hmem : f ∈ s.upstream := by rw [upstream, hin]; exact List.mem_cons_self
    obtain ⟨c, -, hc, hfor⟩ := hr.up f hmem id hv
    exact .inr ⟨f, c, rfl, hv, hc, hfor.trans howner⟩
  | readerHandler f =>
    refine absurd (Eq.trans ?_ hslot) hgone
    exact congrArg (·.getById id) (readerFrame_distributor (s := { s with down := s.down.pop f }) f)
  | writerHandler m =>
    refine absurd (Eq.trans ?_ hslot) hgone
    exact congrArg (·.getById id)
      (backendMessage_distributor (s := { s with toProxy := s.toProxy.tail }) m)
  | connect | joinFails | sendStart | clientRead | clientFinish | clientReadEnds | clientWriterTake
  | clientWriterDrained | clientWriterWrite | clientWriterFlushed | clientWriterFlushFails
  | clientWriterClosed | clientWriterFails | clientWriterAborted | handleWriterFeed | handleWriterEmpty
  | handleWriterFlushed | handleWriterFails | handleWriterAborted | handleReaderEnds | handleEnds
  | downWrite | upWrite | readerDisconnect | readerDisconnectClosed | readerPing | readerEnds
  | writerHandlerFeed | writerHandlerEmpty | writerHandlerFlushed | writerHandlerFails
  | writerHandlerAborted | backendConnected | backendConnectFails | backendRecv | backendWrite
  | backendWritten | backendWriteFails | backendClosed | backendRead | backendReadEnds | backendDropped =>
    exact absurd hslot hgone

/-- Both sides close at once: the client's disconnect empties the slot of player 0, which is given to
player 1 before the final message of player 0 is handled. -/
def closeBothAndJoin : List Action :=
  [.backendReadEnds 0, .writerHandlerFlushed, .writerHandler ⟨.removeMinecraftClient 0, some 0⟩,
    .writerHandlerFeed ⟨.proxyDisconnect 0, some 0⟩, .writerHandlerEmpty, .upWrite 1,
    .handleReader ⟨.proxyData ⟨0, ⟨[1]⟩⟩, some 0⟩, .handleReader ⟨.proxyDisconnect 0, some 0⟩,
    .connect 1 samplePacket, .clientReadEnds 0, .clientFinish 0 0,
    .handleWriter ⟨.addMinecraftClient 1 1, some 1⟩, .handleWriterFeed ⟨.proxyJoin 0, some 1⟩]

theorem removal_hits_next_holder :
    ∃ s s' a id P, Lts.Reach step (fun _ _ => True) init s ∧ s.step a = some s' ∧
      s.distributor.getById id = some P ∧ s'.distributor.getById id ≠ some P ∧ ¬ RemovedFor s a id P := by
  obtain ⟨s, hrun, hslot, s', hs', hgone⟩ : ∃ s, Lts.run step init (joinAndRead ++ closeBothAndJoin) = some s ∧
      s.distributor.getById 0 = some 1 ∧
      ∃ s', s.step (.handleWriter ⟨.removeMinecraftClient 0, some 0⟩) = some s' ∧
        s'.distributor.getById 0 = none := by
    decide +kernel
  refine ⟨s, s', _, 0, 1, Lts.Reach.of_run hrun (.of_forall (fun _ _ => trivial) _ _), hs', hslot,
    by rw [hgone]; simp, ?_⟩
  rintro (⟨m, hm, -, hof⟩ | ⟨f, c, hf, -⟩)
  · cases hm; cases hof
  · cases hf

/-- Player 2, which has the id that player 0 had, leaves, too. -/
def rejoinAndLeave : List Action := leaveAndRejoin ++ [.clientReadEnds 2, .clientFinish 2 0]

theorem removal_hits_player_two :
    ∃ s s', Lts.run step init rejoinAndLeave = some s ∧
      s.step (.handleWriter ⟨.removeMinecraftClient 0, some 2⟩) = some s' ∧
      s.distributor.getById 0 = some 2 ∧ s'.distributor.getById 0 = none ∧
      RemovedFor s (.handleWriter ⟨.removeMinecraftClient 0, some 2⟩) 0 2 := by
  obtain ⟨s, hrun, hslot, s', hs', hgone⟩ : ∃ s, Lts.run step init rejoinAndLeave = some s ∧
      s.distributor.getById 0 = some 2 ∧
      ∃ s', s.step (.handleWriter ⟨.removeMinecraftClient 0, some 2⟩) = some s' ∧
        s'.distributor.getById 0 = none := by
    decide +kernel
  exact ⟨s, s', hrun, hs', hslot, hgone, removal_hits_holder (Lts.Reach.of_run hrun (by decide +kernel)) hs' hslot
    (by rw [hgone]; simp)⟩

end Session
end CraftIP
