import CraftIP.Session.Frames

/-!
# Whose data a player gets

Client ids are given again while something of an earlier holder may be left: a join on its way, a backend
connection that still reads, data on its way to the server. Where an id is only given when nothing of the
kind is left, everything in the session that names an id is its present owner's, and a player gets data
of its own backend connection only (`downlink_isolated`).
-/

namespace CraftIP
open Function (update)

/-- The data packets for an id. -/
def SocketPacket.dataFor (id : ClientID) : SocketPacket → Bool
  | .proxyData packet => packet.clientId = id
  | _ => false

def BackendToProxy.packetFor (id : ClientID) : BackendToProxy → Bool
  | .packet id' _ => id' = id
  | _ => false

namespace Session

/-- The id that the action gives to a player. -/
def givenId (s : Session) : Action → Option ClientID
  | .handleWriter m =>
    match m.val with
    | .addMinecraftClient _ tx =>
      match s.distributor.insert tx with
      | .ok (id, _) => some id
      | .error _ => none
    | _ => none
  | _ => none

/-- No join with the id is on its way and no backend connection with the id reads. -/
def BackendGone (s : Session) (id : ClientID) : Prop :=
  (∀ f ∈ s.downstream, f.val ≠ .proxyJoin id) ∧
    ∀ c < s.opened, (s.conns c).live = true → (s.conns c).clientId ≠ id

/-- No data with the id is on its way to the server. -/
def DataGone (s : Session) (id : ClientID) : Prop :=
  (∀ m ∈ s.toProxy, m.val.packetFor id = false) ∧ ∀ f ∈ s.upstream, f.val.dataFor id = false

instance (s : Session) (id : ClientID) : Decidable (s.BackendGone id) :=
  inferInstanceAs (Decidable (_ ∧ _))

instance (s : Session) (id : ClientID) : Decidable (s.DataGone id) :=
  inferInstanceAs (Decidable (_ ∧ _))

/-- First packets are short, and an id is given when no backend connection of an earlier holder reads or
will, and no data of one is on its way. -/
def DownlinkFree (s : Session) (a : Action) : Prop :=
  ShortStart a ∧ ∀ id ∈ s.givenId a, s.BackendGone id ∧ s.DataGone id

instance (s : Session) (a : Action) : Decidable (s.DownlinkFree a) :=
  inferInstanceAs (Decidable (_ ∧ _))

/-- Slots, joins and backend connections that read are their id's owner's. -/
structure BackendOwned (s : Session) : Prop where
  slot : ∀ id P, s.distributor.getById id = some P → s.owner id = some P
  join : ∀ f ∈ s.downstream, ∀ id, f.val = .proxyJoin id → f.of = s.owner id
  conn : ∀ c, (s.conns c).live = true → (s.conns c).openedFor = s.owner (s.conns c).clientId
  fresh : ∀ c, s.opened ≤ c → (s.conns c).live = false

variable {s s' : Session}

theorem backendOwned_init : BackendOwned init where
  slot id P h := by simp [init] at h
  join := by simp [init, downstream, HandleWriter.held, Link.inFlight, Link.empty]
  conn c h := by cases h
  fresh _ _ := rfl

theorem givenId_eq_some {m : Marked Player (ClientToProxy Player Player)} {idSender tx : Player}
    {id : ClientID} {d : Distributor Player} (hm : m.val = .addMinecraftClient idSender tx)
    (hins : s.distributor.insert tx = .ok (id, d)) : s.givenId (.handleWriter m) = some id := by
  simp only [givenId, hm, hins]

theorem getById_removeById_eq_some {d : Distributor Player} {id id' : ClientID} {P : Player}
    (h : (d.removeById id).2.getById id' = some P) : d.getById id' = some P := by
  rw [Distributor.getById_removeById] at h
  split at h
  · cases h
  · exact h

/-- The new owner of an id that is given. -/
theorem slot_insert {tx : Player} {id : ClientID} {d : Distributor Player}
    (h : ∀ id P, s.distributor.getById id = some P → s.owner id = some P)
    (hins : s.distributor.insert tx = .ok (id, d)) :
    ∀ id' P, d.getById id' = some P → update s.owner id (some tx) id' = some P := by
  intro id' P hg
  rw [(Distributor.insert_eq_ok hins).2.2 id'] at hg
  rw [Function.update_apply]
  by_cases he : id = id'
  · rw [if_pos he] at hg
    rw [if_pos he.symm]; exact hg
  · rw [if_neg he] at hg
    rw [if_neg (Ne.symm he)]; exact h id' P hg

theorem BackendOwned.endWriter (h : BackendOwned s) : BackendOwned s.endWriter :=
  { h with join := forall_inFlight (s := s) h.join }

theorem BackendOwned.conn_lt (h : BackendOwned s) {c : Conn} (hc : (s.conns c).live = true) :
    c < s.opened := by
  by_contra hlt
  rw [h.fresh c (Nat.le_of_not_lt hlt)] at hc
  cases hc

/-- Giving an id of which nothing is left takes nothing from its owner. -/
theorem BackendOwned.stay (h : BackendOwned s) {id : ClientID} (hgone : s.BackendGone id) (tx : Player) :
    (∀ f ∈ s.downstream, ∀ id', f.val = .proxyJoin id' → f.of = update s.owner id (some tx) id') ∧
      ∀ c, (s.conns c).live = true →
        (s.conns c).openedFor = update s.owner id (some tx) (s.conns c).clientId := by
  refine ⟨fun f hf id' he => ?_, fun c hc => ?_⟩
  · have hne : id' ≠ id := by rintro rfl; exact hgone.1 f hf he
    exact (h.join f hf id' he).trans (Function.update_of_ne hne _ _).symm
  · have hne := hgone.2 c (h.conn_lt hc) hc
    exact (h.conn c hc).trans (Function.update_of_ne hne _ _).symm

theorem BackendOwned.handleMessage (h : BackendOwned s)
    {m : Marked Player (ClientToProxy Player Player)}
    (hfree : ∀ id ∈ s.givenId (.handleWriter m), s.BackendGone id) :
    BackendOwned (s.handleMessage m) := by
  apply handleMessage_cases (motive := BackendOwned) s m
  case full => intros; exact h.endWriter
  case joined =>
    intro idSender tx id d startData hv hins hphase
    have hstay := h.stay (hfree id (givenId_eq_some hv hins)) tx
    exact
      { h with
        slot := slot_insert h.slot hins
        join := forall_inFlight_append (s := s) hstay.1 fun id' he => by
          cases he; exact (Function.update_self id (some tx) s.owner).symm
        conn := hstay.2 }
  case gone =>
    intro idSender tx id d hv hins _
    have hstay := h.stay (hfree id (givenId_eq_some hv hins)) tx
    exact
      { h.endWriter with
        slot := slot_insert h.slot hins
        join := forall_inFlight (s := s) hstay.1
        conn := hstay.2 }
  case packet => intros; exact { h with join := forall_inFlight_append (s := s) h.join (by simp) }
  case ping => intros; exact { h with join := forall_inFlight_append (s := s) h.join (by simp) }
  case removed =>
    intros
    exact { h with
      slot := fun id P hg => h.slot id P (getById_removeById_eq_some hg)
      join := forall_inFlight_append (s := s) h.join (by simp) }
  case unknown =>
    intros
    exact { h with
      slot := fun id P hg => h.slot id P (getById_removeById_eq_some hg)
      join := forall_inFlight (s := s) h.join }

theorem BackendOwned.handleFrame (h : BackendOwned s) (f : Marked Conn SocketPacket) :
    BackendOwned (s.handleFrame f) := by
  apply handleFrame_cases (motive := BackendOwned) s f
  case disconnect =>
    intros; exact { h with slot := fun id P hg => h.slot id P (getById_removeById_eq_some hg) }
  case disconnectNone =>
    intros; exact { h with slot := fun id P hg => h.slot id P (getById_removeById_eq_some hg) }
  case data => intros; exact { h with }
  case dataNone => intros; exact h
  case ping => intros; exact { h with }
  case other => intros; exact h

/-- A backend connection that keeps its id and its mark, and does not start to read again. -/
theorem BackendOwned.update_conn (h : BackendOwned s) {c : Conn} {x : ClientConnection}
    (hfor : x.openedFor = (s.conns c).openedFor) (hid : x.clientId = (s.conns c).clientId)
    (hlive : x.live = true → (s.conns c).live = true) :
    (∀ d, (update s.conns c x d).live = true →
      (update s.conns c x d).openedFor = s.owner (update s.conns c x d).clientId) ∧
    ∀ d, s.opened ≤ d → (update s.conns c x d).live = false := by
  refine ⟨forall_conns (R := fun _ x => x.live = true → x.openedFor = s.owner x.clientId) h.conn ?_,
    forall_conns (R := fun d x => s.opened ≤ d → x.live = false) h.fresh ?_⟩
  · intro hx; rw [hfor, hid]; exact h.conn c (hlive hx)
  · intro hd
    rw [← Bool.not_eq_true]
    intro hx
    exact Nat.lt_irrefl _ (Nat.lt_of_lt_of_le (h.conn_lt (hlive hx)) hd)

theorem BackendOwned.readerFrame (h : BackendOwned s) {f : Marked Player SocketPacket}
    (hf : ∀ id, f.val = .proxyJoin id → f.of = s.owner id) : BackendOwned (s.readerFrame f) := by
  apply readerFrame_cases (motive := BackendOwned) s f
  case join =>
    intro id hv
    refine { h with
      conn := forall_conns (R := fun _ x => x.live = true → x.openedFor = s.owner x.clientId) h.conn
        fun _ => hf id hv
      fresh := forall_conns (R := fun d x => s.opened + 1 ≤ d → x.live = false)
        (fun d hd => h.fresh d (Nat.le_of_succ_le hd)) fun hd => absurd hd (Nat.not_succ_le_self _) }
  case data =>
    intro id pkg c hv hc ht
    obtain ⟨hconn, hfresh⟩ := h.update_conn (c := c)
      (x := { s.conns c with rx := (s.conns c).rx.send ⟨pkg.bytes, f.of⟩ }) rfl rfl fun hx => hx
    exact { h with conn := hconn, fresh := hfresh }
  case disconnect =>
    intro id c hv hc
    obtain ⟨hconn, hfresh⟩ := h.update_conn (c := c)
      (x := { s.conns c with disconnected := true }) rfl rfl fun hx => hx
    exact { h with conn := hconn, fresh := hfresh }
  case dataLost => intros; exact { h with }
  case dataNone => intros; exact { h with }
  case disconnectNone => intros; exact { h with }
  case pong => intros; exact h
  case unexpected => intros; exact { h with }

theorem BackendOwned.backendMessage (h : BackendOwned s) (m : Marked Conn BackendToProxy) :
    BackendOwned (s.backendMessage m) := by
  apply backendMessage_cases (motive := BackendOwned) s m
  case packet => intros; exact { h with }
  case remove => intros; exact { h with }
  case ping => intros; exact { h with }
  case ends => exact { h with }

/-- Every step that gives an id only when no backend connection is left of an earlier holder. -/
theorem BackendOwned.step {a : Action} (h : BackendOwned s) (hclean : Clean s)
    (hfree : ∀ id ∈ s.givenId a, s.BackendGone id) (hs : s.step a = some s') : BackendOwned s' := by
  obtain ⟨ha, rfl⟩ := step_eq_some hs
  have hstop : ∀ {c : Conn} {x : ClientConnection}, x.openedFor = (s.conns c).openedFor →
      x.clientId = (s.conns c).clientId → (x.live = true → (s.conns c).live = true) →
      BackendOwned { s with conns := update s.conns c x } := fun hfor hid hlive =>
    { h with
      conn := (h.update_conn hfor hid hlive).1
      fresh := (h.update_conn hfor hid hlive).2 }
  have hlive : ∀ {c : Conn}, (s.conns c).task = .connecting ∨ (s.conns c).task = .select ∨
      (∃ rest, (s.conns c).task = .writing rest) → (s.conns c).live = true := by
    intro c hc
    rcases hc with hc | hc | ⟨rest, hc⟩ <;> simp [ClientConnection.live, hc]
  cases a with
  | handleWriter m =>
    have hs : BackendOwned { s with queue := s.queue.tail } := { h with }
    exact hs.handleMessage hfree
  | handleWriterFeed f =>
    have hw := of_decide_eq_true ha
    exact { h with join := forall_inFlight_feed h.join hw (fits f.val) }
  | handleWriterEmpty | handleWriterFlushed =>
    exact { h with join := forall_inFlight (s := s) h.join }
  | handleWriterFails | handleWriterAborted => exact h.endWriter
  | handleReader f =>
    have hs : BackendOwned { s with up := s.up.pop f } := { h with }
    exact hs.handleFrame f
  | downWrite n => exact { h with join := forall_inFlight_write h.join n }
  | readerHandler f =>
    obtain ⟨-, hg⟩ := of_decide_eq_true ha
    obtain ⟨-, hin, -, -⟩ := Link.pop_of_gives hclean.down hg
    have hs : BackendOwned { s with down := s.down.pop f } :=
      { h with join := fun g hg => h.join g (by rw [downstream, hin]; exact List.mem_cons_of_mem _ hg) }
    refine hs.readerFrame fun id he => h.join f ?_ id he
    rw [downstream, hin]; exact List.mem_cons_self
  | writerHandler m =>
    have hs : BackendOwned { s with toProxy := s.toProxy.tail } := { h with }
    exact hs.backendMessage m
  | backendConnected c =>
    exact hstop rfl rfl fun _ => hlive (.inl (of_decide_eq_true ha))
  | backendRecv c data =>
    exact hstop rfl rfl fun _ => hlive (.inr (.inl (of_decide_eq_true ha).1))
  | backendWrite c rest n =>
    exact hstop rfl rfl fun _ => hlive (.inr (.inr ⟨rest, of_decide_eq_true ha⟩))
  | backendWritten c =>
    exact hstop rfl rfl fun _ => hlive (.inr (.inr ⟨[], of_decide_eq_true ha⟩))
  | backendRead c chunk =>
    have hs := hstop (c := c) (x := { s.conns c with
      bytesRead := (s.conns c).bytesRead ++ chunk
      task := if s.clientWriter = .ended then .dropping else .select }) rfl rfl
      fun _ => hlive (.inr (.inl (of_decide_eq_true ha).1))
    exact { hs with }
  | backendConnectFails c error =>
    have hs := hstop (c := c) (x := { s.conns c with task := .dropping }) rfl rfl (fun hx => by cases hx)
    exact { hs with }
  | backendWriteFails c rest =>
    have hs := hstop (c := c) (x := { s.conns c with task := .dropping }) rfl rfl (fun hx => by cases hx)
    exact { hs with }
  | backendReadEnds c =>
    have hs := hstop (c := c) (x := { s.conns c with task := .dropping }) rfl rfl (fun hx => by cases hx)
    exact { hs with }
  | backendClosed c => exact hstop rfl rfl (fun hx => by cases hx)
  | backendDropped c => exact hstop rfl rfl (fun hx => by cases hx)
  | connect | joinFails | sendStart | clientRead | clientFinish | clientReadEnds | clientWriterTake
  | clientWriterDrained | clientWriterWrite | clientWriterFlushed | clientWriterFlushFails
  | clientWriterClosed | clientWriterFails | clientWriterAborted | handleReaderEnds | handleEnds | upWrite
  | readerDisconnect | readerDisconnectClosed | readerPing | readerEnds | writerHandlerFeed
  | writerHandlerEmpty | writerHandlerFlushed | writerHandlerFails | writerHandlerAborted =>
    exact { h with }

/-! ### Data -/

/-- The mark is that of a backend connection that was opened for the player. -/
def OpenedFor (s : Session) (mark : Option Conn) (P : Option Player) : Prop :=
  ∃ c < s.opened, mark = some c ∧ (s.conns c).openedFor = P

/-- Data on its way to the server and data that a player got are their owner's. -/
structure DataOwned (s : Session) : Prop where
  toProxy : ∀ m ∈ s.toProxy, ∀ id, m.val.packetFor id = true → s.OpenedFor m.of (s.owner id)
  up : ∀ f ∈ s.upstream, ∀ id, f.val.dataFor id = true → s.OpenedFor f.of (s.owner id)
  received : ∀ P, ∀ x ∈ (s.players P).rx.history, s.OpenedFor x.of (some P)

theorem dataOwned_init : DataOwned init where
  toProxy := by simp [init]
  up := by simp [init, upstream, WriterHandler.held, Link.inFlight, Link.empty]
  received := by simp [init, PlayerState.initial, Channel.history, Channel.empty]

theorem OpenedFor.update_conn {mark : Option Conn} {P : Option Player} (h : s.OpenedFor mark P) {c : Conn}
    {x : ClientConnection} (hx : x.openedFor = (s.conns c).openedFor) :
    OpenedFor { s with conns := update s.conns c x } mark P := by
  obtain ⟨d, hd, hmark, hP⟩ := h
  refine ⟨d, hd, hmark, ?_⟩
  show (update s.conns c x d).openedFor = P
  rw [Function.update_apply]
  split
  · next he => subst he; rw [hx, hP]
  · exact hP

theorem OpenedFor.join {mark : Option Conn} {P : Option Player} (h : s.OpenedFor mark P)
    (x : ClientConnection) (client : Client Conn) :
    OpenedFor { s with client, conns := update s.conns s.opened x, opened := s.opened + 1 } mark P := by
  obtain ⟨d, hd, hmark, hP⟩ := h
  refine ⟨d, Nat.lt_succ_of_lt hd, hmark, ?_⟩
  show (update s.conns s.opened x d).openedFor = P
  rw [Function.update_of_ne (Nat.ne_of_lt hd)]
  exact hP

/-- The frames that stay on their way when `writer_handler` holds none. -/
theorem forall_upstream {p : Marked Conn SocketPacket → Prop} (h : ∀ f ∈ s.upstream, p f) :
    ∀ f ∈ s.up.inFlight ++ [], p f := by
  intro f hf
  rw [List.append_nil] at hf
  exact h f (List.mem_append_left _ hf)

/-- The frames on their way when `writer_handler` has taken up a new one. -/
theorem forall_upstream_append {p : Marked Conn SocketPacket → Prop} (h : ∀ f ∈ s.upstream, p f)
    {g : Marked Conn SocketPacket} (hg : p g) : ∀ f ∈ s.up.inFlight ++ [g], p f :=
  forall_mem_append_singleton (fun f hf => h f (List.mem_append_left _ hf)) hg

/-- The frame that `writer_handler` holds goes to the others. -/
theorem forall_upstream_feed {p : Marked Conn SocketPacket → Prop} (h : ∀ f ∈ s.upstream, p f)
    {g : Marked Conn SocketPacket} (hw : s.clientWriter = .feed g) (fit : Bool) :
    ∀ f ∈ (s.up.feed fit g).inFlight ++ [], p f := by
  rw [upstream, hw] at h
  rw [Link.inFlight_feed, List.append_nil]
  exact h

theorem forall_upstream_write {p : Marked Conn SocketPacket → Prop} (h : ∀ f ∈ s.upstream, p f) (n : Nat) :
    ∀ f ∈ (s.up.write n).inFlight ++ WriterHandler.held s.clientWriter, p f := by
  rw [Link.inFlight_write]
  exact h

/-- Giving an id of which no data is left takes nothing from its owner. -/
theorem DataOwned.stay (h : DataOwned s) {id : ClientID} (hgone : s.DataGone id) (tx : Player) :
    (∀ m ∈ s.toProxy, ∀ id', m.val.packetFor id' = true →
      s.OpenedFor m.of (update s.owner id (some tx) id')) ∧
    ∀ f ∈ s.upstream, ∀ id', f.val.dataFor id' = true →
      s.OpenedFor f.of (update s.owner id (some tx) id') := by
  refine ⟨fun m hm id' he => ?_, fun f hf id' he => ?_⟩
  · have hne : id' ≠ id := by rintro rfl; rw [hgone.1 m hm] at he; cases he
    rw [Function.update_of_ne hne]; exact h.toProxy m hm id' he
  · have hne : id' ≠ id := by rintro rfl; rw [hgone.2 f hf] at he; cases he
    rw [Function.update_of_ne hne]; exact h.up f hf id' he

theorem DataOwned.handleMessage (h : DataOwned s) {m : Marked Player (ClientToProxy Player Player)}
    (hfree : ∀ id ∈ s.givenId (.handleWriter m), s.DataGone id) : DataOwned (s.handleMessage m) := by
  apply handleMessage_cases (motive := DataOwned) s m
  case joined =>
    intro idSender tx id d startData hv hins hphase
    have hstay := h.stay (hfree id (givenId_eq_some hv hins)) tx
    exact
      { toProxy := hstay.1
        up := hstay.2
        received := forall_players (R := fun P p => ∀ x ∈ p.rx.history, s.OpenedFor x.of (some P))
          h.received (h.received idSender) }
  case gone =>
    intro idSender tx id d hv hins _
    have hstay := h.stay (hfree id (givenId_eq_some hv hins)) tx
    exact { h with toProxy := hstay.1, up := hstay.2 }
  case full => intros; exact { h with }
  case packet => intros; exact { h with }
  case ping => intros; exact { h with }
  case removed => intros; exact { h with }
  case unknown => intros; exact { h with }

theorem DataOwned.handleFrame (h : DataOwned s) {f : Marked Conn SocketPacket}
    (hf : ∀ id P, f.val.dataFor id = true → s.distributor.getById id = some P →
      s.OpenedFor f.of (some P)) : DataOwned (s.handleFrame f) := by
  apply handleFrame_cases (motive := DataOwned) s f
  case disconnect =>
    intro id P hv hg
    exact { h with
      received := forall_players (R := fun P p => ∀ x ∈ p.rx.history, s.OpenedFor x.of (some P))
        h.received (h.received P) }
  case data =>
    intro id pkg P hv hg
    refine { h with
      received := forall_players (R := fun P p => ∀ x ∈ p.rx.history, s.OpenedFor x.of (some P))
        h.received ?_ }
    rw [PlayerState.send]
    split
    · rw [Channel.history_send]
      refine forall_mem_append_singleton (h.received P) (hf id P ?_ hg)
      rw [hv]; exact decide_eq_true rfl
    · exact h.received P
  case disconnectNone => intros; exact { h with }
  case dataNone => intros; exact h
  case ping => intros; exact { h with }
  case other => intros; exact h

theorem DataOwned.update_conn (h : DataOwned s) {c : Conn} {x : ClientConnection}
    (hx : x.openedFor = (s.conns c).openedFor) : DataOwned { s with conns := update s.conns c x } where
  toProxy m hm id he := (h.toProxy m hm id he).update_conn hx
  up f hf id he := (h.up f hf id he).update_conn hx
  received P y hy := (h.received P y hy).update_conn hx

theorem DataOwned.readerFrame (h : DataOwned s) (f : Marked Player SocketPacket) :
    DataOwned (s.readerFrame f) := by
  apply readerFrame_cases (motive := DataOwned) s f
  case join =>
    intro id hv
    exact
      { toProxy := fun m hm id he => (h.toProxy m hm id he).join _ _
        up := fun f hf id he => (h.up f hf id he).join _ _
        received := fun P y hy => (h.received P y hy).join _ _ }
  case data => intros; exact h.update_conn rfl
  case disconnect =>
    intro id c hv hc
    have hs := h.update_conn (c := c) (x := { s.conns c with disconnected := true }) rfl
    exact { hs with }
  case dataLost => intros; exact { h with }
  case dataNone => intros; exact { h with }
  case disconnectNone => intros; exact { h with }
  case pong => intros; exact h
  case unexpected => intros; exact { h with }

theorem DataOwned.backendMessage (h : DataOwned s) {m : Marked Conn BackendToProxy}
    (hm : ∀ id, m.val.packetFor id = true → s.OpenedFor m.of (s.owner id)) :
    DataOwned (s.backendMessage m) := by
  apply backendMessage_cases (motive := DataOwned) s m
  case packet =>
    intro id pkg hv
    refine { h with up := forall_upstream_append (s := s) h.up fun id' he => hm id' ?_ }
    rw [hv]; exact he
  case remove =>
    intros; exact { h with up := forall_upstream_append (s := s) h.up fun _ he => by cases he }
  case ping => intros; exact { h with up := forall_upstream_append (s := s) h.up fun _ he => by cases he }
  case ends => exact { h with toProxy := (fun _ hm => by cases hm), up := forall_upstream (s := s) h.up }

theorem DataOwned.step {a : Action} (h : DataOwned s) (hb : BackendOwned s) (hclean : Clean s)
    (hfree : ∀ id ∈ s.givenId a, s.DataGone id) (hs : s.step a = some s') : DataOwned s' := by
  obtain ⟨ha, rfl⟩ := step_eq_some hs
  have hplayer : ∀ {P : Player} {p : PlayerState}, p.rx.history = (s.players P).rx.history →
      ∀ Q, ∀ x ∈ (update s.players P p Q).rx.history, s.OpenedFor x.of (some Q) := fun {P} _ hp =>
    forall_players (R := fun P p => ∀ x ∈ p.rx.history, s.OpenedFor x.of (some P)) h.received
      (hp ▸ h.received P)
  -- what a backend connection sends when its reading ends is no data
  have hdrop : ∀ {c : Conn} {x : ClientConnection} {l : List (Marked Conn BackendToProxy)},
      x.openedFor = (s.conns c).openedFor →
      (∀ m ∈ l, ∀ id, m.val.packetFor id = true → s.OpenedFor m.of (s.owner id)) →
      DataOwned { s with conns := update s.conns c x, toProxy := l } := fun hx hl =>
    { h.update_conn hx with toProxy := fun m hm id he => (hl m hm id he).update_conn hx }
  cases a with
  | connect | joinFails | sendStart | clientRead | clientFinish | clientReadEnds | clientWriterDrained
  | clientWriterWrite | clientWriterFlushed | clientWriterFlushFails | clientWriterClosed
  | clientWriterFails | clientWriterAborted => exact { h with received := hplayer rfl }
  | clientWriterTake P data =>
    exact { h with received := hplayer (Channel.history_pop (of_decide_eq_true ha).2.2) }
  | handleWriter m =>
    have hs : DataOwned { s with queue := s.queue.tail } := { h with }
    exact hs.handleMessage hfree
  | handleReader f =>
    obtain ⟨-, hg⟩ := of_decide_eq_true ha
    obtain ⟨-, hin, -, -⟩ := Link.pop_of_gives hclean.up hg
    have hs : DataOwned { s with up := s.up.pop f } :=
      { h with up := fun g hg => h.up g (by rw [upstream, hin]; exact List.mem_cons_of_mem _ hg) }
    refine hs.handleFrame fun id P he hslot => ?_
    have hmem : f ∈ s.upstream := by rw [upstream, hin]; exact List.mem_cons_self
    exact hb.slot id P hslot ▸ h.up f hmem id he
  | readerHandler f =>
    have hs : DataOwned { s with down := s.down.pop f } := { h with }
    exact hs.readerFrame f
  | writerHandler m =>
    have hm := (of_decide_eq_true ha).2
    have hs : DataOwned { s with toProxy := s.toProxy.tail } :=
      { h with toProxy := forall_mem_tail h.toProxy }
    exact hs.backendMessage (h.toProxy m (List.mem_of_mem_head? hm))
  | writerHandlerFeed f =>
    have hw := of_decide_eq_true ha
    exact { h with up := forall_upstream_feed h.up hw (fits f.val) }
  | upWrite n => exact { h with up := forall_upstream_write h.up n }
  | writerHandlerEmpty | writerHandlerFlushed => exact { h with up := forall_upstream (s := s) h.up }
  | writerHandlerFails | writerHandlerAborted =>
    exact { h with toProxy := (fun _ hm => by cases hm), up := forall_upstream (s := s) h.up }
  | readerPing time =>
    exact { h with toProxy := forall_mem_offerBackend h.toProxy (by simp [BackendToProxy.packetFor]) }
  | backendConnected | backendRecv | backendWrite | backendWritten | backendClosed | backendDropped =>
    exact h.update_conn rfl
  | backendConnectFails c error =>
    exact hdrop rfl (forall_mem_offerBackend (forall_mem_offerBackend h.toProxy (fun _ he => by cases he))
      (fun _ he => by cases he))
  | backendWriteFails c rest =>
    exact hdrop rfl (forall_mem_offerBackend h.toProxy (fun _ he => by cases he))
  | backendReadEnds c =>
    exact hdrop rfl (forall_mem_offerBackend h.toProxy (fun _ he => by cases he))
  | backendRead c chunk =>
    have hlive : (s.conns c).live = true := by simp [ClientConnection.live, (of_decide_eq_true ha).1]
    refine hdrop rfl (forall_mem_offerBackend h.toProxy fun id he => ?_)
    obtain rfl : (s.conns c).clientId = id := of_decide_eq_true he
    exact ⟨c, hb.conn_lt hlive, rfl, hb.conn c hlive⟩
  | handleWriterFeed | handleWriterEmpty | handleWriterFlushed | handleWriterFails | handleWriterAborted
  | handleReaderEnds | handleEnds | downWrite | readerDisconnect | readerDisconnectClosed | readerEnds =>
    exact { h with }

/-- In a run in which ids are only given when the earlier holder's backend connection and data are gone,
a player gets data of the backend connection that was opened for its own join, and of no other. -/
theorem downlink_isolated (h : Lts.Reach step DownlinkFree init s) (P : Player)
    (x : Marked Conn (List UInt8)) (hx : x ∈ (s.players P).rx.history) :
    ∃ c, x.of = some c ∧ (s.conns c).openedFor = some P := by
  have hinv := h.invariant (I := fun s => Clean s ∧ BackendOwned s ∧ DataOwned s)
    ⟨clean_init, backendOwned_init, dataOwned_init⟩ fun {s a s'} _ ⟨hclean, hb, hd⟩ hc hs =>
      ⟨hclean.step hc.1 hs, hb.step hclean (fun id hid => (hc.2 id hid).1) hs,
        hd.step hb hclean (fun id hid => (hc.2 id hid).2) hs⟩
  obtain ⟨c, -, hmark, hP⟩ := hinv.2.2.received P x hx
  exact ⟨c, hmark, hP⟩

/-! ### An id given too early -/

/-- Player 0 joins with id 0 and its backend sends a byte. -/
def joinAndRead : List Action :=
  [.connect 0 samplePacket,
    .handleWriter ⟨.addMinecraftClient 0 0, some 0⟩, .handleWriterFeed ⟨.proxyJoin 0, some 0⟩,
    .sendStart 0 0 samplePacket,
    .handleWriter ⟨.packet 0 ⟨samplePacket⟩, some 0⟩,
    .handleWriterFeed ⟨.proxyData ⟨0, ⟨samplePacket⟩⟩, some 0⟩,
    .handleWriterEmpty, .downWrite 2, .handleWriterFlushed,
    .readerHandler ⟨.proxyJoin 0, some 0⟩, .backendConnected 0,
    .readerHandler ⟨.proxyData ⟨0, ⟨samplePacket⟩⟩, some 0⟩,
    .backendRead 0 [1], .writerHandler ⟨.packet 0 ⟨[1]⟩, some 0⟩,
    .writerHandlerFeed ⟨.proxyData ⟨0, ⟨[1]⟩⟩, some 0⟩, .writerHandlerEmpty, .upWrite 1]

/-- Player 0 leaves while the byte is on its way, and player 1 joins with id 0. -/
def leaveAndJoin : List Action :=
  [.clientReadEnds 0, .clientFinish 0 0,
    .handleWriter ⟨.removeMinecraftClient 0, some 0⟩, .handleWriterFeed ⟨.proxyDisconnect 0, some 0⟩,
    .connect 1 samplePacket, .handleWriter ⟨.addMinecraftClient 1 1, some 1⟩]

theorem downlink_not_isolated :
    ∃ s, Lts.Reach step (fun _ _ => True) init s ∧
      ∃ P x, x ∈ (s.players P).rx.history ∧ ¬ ∃ c, x.of = some c ∧ (s.conns c).openedFor = some P := by
  obtain ⟨s, hrun, hrx, hfor⟩ : ∃ s, Lts.run step init
      (joinAndRead ++ leaveAndJoin ++ [.handleReader ⟨.proxyData ⟨0, ⟨[1]⟩⟩, some 0⟩]) = some s ∧
      (s.players 1).rx.history = [⟨[1], some 0⟩] ∧ (s.conns 0).openedFor = some 0 := by
    decide +kernel
  refine ⟨s, Lts.Reach.of_run hrun (.of_forall (fun _ _ => trivial) _ _), 1, ⟨[1], some 0⟩,
    by rw [hrx]; exact List.mem_singleton_self _, ?_⟩
  rintro ⟨c, hc, hP⟩
  obtain rfl : 0 = c := Option.some.inj hc
  rw [hfor] at hP
  cases hP

/-! ### An id given again -/

/-- The player gets the id and the connection, and the backend its first packet. -/
def joins (P : Player) (id : ClientID) (c : Conn) : List Action :=
  [.connect P samplePacket, .handleWriter ⟨.addMinecraftClient P P, some P⟩,
    .handleWriterFeed ⟨.proxyJoin id, some P⟩, .sendStart P id samplePacket,
    .handleWriter ⟨.packet id ⟨samplePacket⟩, some P⟩,
    .handleWriterFeed ⟨.proxyData ⟨id, ⟨samplePacket⟩⟩, some P⟩, .handleWriterEmpty, .downWrite 2,
    .handleWriterFlushed, .readerHandler ⟨.proxyJoin id, some P⟩, .backendConnected c,
    .readerHandler ⟨.proxyData ⟨id, ⟨samplePacket⟩⟩, some P⟩, .backendRecv c ⟨samplePacket, some P⟩,
    .backendWrite c samplePacket samplePacket.length, .backendWritten c]

/-- The player gets the bytes from its backend. -/
def receives (P : Player) (id : ClientID) (c : Conn) (bytes : List UInt8) : List Action :=
  [.backendRead c bytes, .writerHandler ⟨.packet id ⟨bytes⟩, some c⟩,
    .writerHandlerFeed ⟨.proxyData ⟨id, ⟨bytes⟩⟩, some c⟩, .writerHandlerEmpty, .upWrite 1, .writerHandlerFlushed,
    .handleReader ⟨.proxyData ⟨id, ⟨bytes⟩⟩, some c⟩, .clientWriterTake P ⟨bytes, some c⟩,
    .clientWriterDrained P, .clientWriterWrite P bytes.length, .clientWriterFlushed P]

/-- The player leaves, and the client closes the connection. -/
def leaves (P : Player) (id : ClientID) (c : Conn) : List Action :=
  [.clientReadEnds P, .clientFinish P id, .clientWriterAborted P,
    .handleWriter ⟨.removeMinecraftClient id, some P⟩, .handleWriterFeed ⟨.proxyDisconnect id, some P⟩,
    .handleWriterEmpty, .downWrite 1, .handleWriterFlushed, .readerHandler ⟨.proxyDisconnect id, some P⟩,
    .backendClosed c]

/-- Players 0 and 1 join. -/
def joinBoth : List Action :=
  [.writerHandlerEmpty, .writerHandlerFlushed] ++ joins 0 0 0 ++ receives 0 0 0 [1] ++ joins 1 1 1

/-- Player 0 leaves, and player 2 gets its id. -/
def leaveAndRejoin : List Action := joinBoth ++ leaves 0 0 0 ++ joins 2 0 2 ++ receives 2 0 2 [2]

theorem downlink_isolated_leaveAndRejoin :
    ∃ s, Lts.run step init leaveAndRejoin = some s ∧ s.owner 0 = some 2 ∧
      (s.players 0).rx.history = [⟨[1], some 0⟩] ∧ (s.players 2).rx.history = [⟨[2], some 2⟩] ∧
      ∀ P, ∀ x ∈ (s.players P).rx.history, ∃ c, x.of = some c ∧ (s.conns c).openedFor = some P := by
  obtain ⟨s, hrun, howner, hfirst, hsecond⟩ : ∃ s, Lts.run step init leaveAndRejoin = some s ∧
      s.owner 0 = some 2 ∧ (s.players 0).rx.history = [⟨[1], some 0⟩] ∧
      (s.players 2).rx.history = [⟨[2], some 2⟩] := by
    decide +kernel
  exact ⟨s, hrun, howner, hfirst, hsecond, downlink_isolated (Lts.Reach.of_run hrun (by decide +kernel))⟩

end Session
end CraftIP
