import CraftIP.Session

/-!
# Frames of a session

When every player's first packet is short, every frame of the session fits its header (`Clean`), so
neither direction of the tunnel is ever garbled and its packets are a queue.
-/

namespace CraftIP
open Function (update)

/-- The first packet of a player that connects. -/
def Action.startData : Action → List UInt8
  | .connect _ startData => startData
  | _ => []

namespace Session

/-- The frames on their way to the client, with the one `handle_writer` holds. -/
def downstream (s : Session) : List (Marked Player SocketPacket) :=
  s.down.inFlight ++ HandleWriter.held s.writer

/-- The frames on their way to the server, with the one `writer_handler` holds. -/
def upstream (s : Session) : List (Marked Conn SocketPacket) :=
  s.up.inFlight ++ WriterHandler.held s.clientWriter

/-- The first packet of a player that connects is at most 32765 bytes long. -/
def ShortStart (a : Action) : Prop := a.startData.length ≤ 32765

instance : DecidablePred ShortStart := fun a => inferInstanceAs (Decidable (a.startData.length ≤ 32765))

/-- Only the id that is there is tried, not every one of the finitely many. -/
instance decidableForallId (id : Option ClientID) (p : ClientID → Prop) [DecidablePred p] :
    Decidable (∀ i ∈ id, p i) :=
  Option.decidableForallMem id

/-- What a player in this phase may yet send fits its frame. -/
def PhaseFits : ClientPhase → Prop
  | .awaitId startData => startData.length ≤ 32765
  | .hasId id startData => startData.length ≤ 32765 ∧ id.toNat < MAXIMUM_CLIENTS
  | .handling id => id.toNat < MAXIMUM_CLIENTS
  | .finished id => id.toNat < MAXIMUM_CLIENTS
  | _ => True

theorem PhaseFits.of_id? {phase : ClientPhase} {id : ClientID} (h : PhaseFits phase)
    (hid : phase.id? = some id) : id.toNat < MAXIMUM_CLIENTS := by
  cases phase <;> simp only [ClientPhase.id?, Option.some.injEq, reduceCtorEq] at hid
  · exact hid ▸ h
  · exact hid ▸ h

theorem fits_data {id : ClientID} {data : List UInt8} (hid : id.toNat < MAXIMUM_CLIENTS)
    (hd : data.length ≤ 32765) : fits (.proxyData ⟨id, ⟨data⟩⟩) = true := by
  rw [MAXIMUM_CLIENTS] at hid
  exact decide_eq_true ⟨hd, show id.toNat ≤ 65535 by omega⟩

/-- No frame is, or is going to be, too long for its header. -/
structure Clean (s : Session) : Prop where
  down : s.down.garbled = false
  up : s.up.garbled = false
  phase : ∀ P, PhaseFits (s.players P).phase
  queue : ∀ m ∈ s.queue, ∀ id pkg, m.val = .packet id pkg → fits (.proxyData ⟨id, pkg⟩) = true
  writer : ∀ f ∈ HandleWriter.held s.writer, fits f.val = true
  join : ∀ f ∈ s.downstream, ∀ id, f.val = .proxyJoin id → id.toNat < MAXIMUM_CLIENTS
  conn : ∀ c, (s.conns c).clientId.toNat < MAXIMUM_CLIENTS
  toProxy : ∀ m ∈ s.toProxy, ∀ id pkg, m.val = .packet id pkg → fits (.proxyData ⟨id, pkg⟩) = true
  clientWriter : ∀ f ∈ WriterHandler.held s.clientWriter, fits f.val = true

theorem clean_init : Clean init where
  down := rfl
  up := rfl
  phase _ := trivial
  queue := by simp [init]
  writer := by simp [init, HandleWriter.held]
  join := by simp [init, downstream, HandleWriter.held, Link.inFlight, Link.empty]
  conn _ := show (0 : ClientID).toNat < MAXIMUM_CLIENTS by decide
  toProxy := by simp [init]
  clientWriter := by simp [init, WriterHandler.held]

theorem garbled_pop {α : Type} [DecidableEq α] (l : Link α) (p : α) :
    (l.pop p).garbled = l.garbled := by
  rw [Link.pop]; split <;> rfl

variable {s s' : Session}

/-- The frames that stay on their way when `handle_writer` holds none. -/
theorem forall_inFlight {p : Marked Player SocketPacket → Prop} (h : ∀ f ∈ s.downstream, p f) :
    ∀ f ∈ s.down.inFlight ++ [], p f := by
  intro f hf
  rw [List.append_nil] at hf
  exact h f (List.mem_append_left _ hf)

/-- The frames on their way when `handle_writer` has taken up a new one. -/
theorem forall_inFlight_append {p : Marked Player SocketPacket → Prop} (h : ∀ f ∈ s.downstream, p f)
    {g : Marked Player SocketPacket} (hg : p g) : ∀ f ∈ s.down.inFlight ++ [g], p f :=
  forall_mem_append_singleton (fun f hf => h f (List.mem_append_left _ hf)) hg

/-- The frame that `handle_writer` holds goes to the others. -/
theorem forall_inFlight_feed {p : Marked Player SocketPacket → Prop} (h : ∀ f ∈ s.downstream, p f)
    {g : Marked Player SocketPacket} (hw : s.writer = .feed g) (fit : Bool) :
    ∀ f ∈ (s.down.feed fit g).inFlight ++ [], p f := by
  rw [downstream, hw] at h
  rw [Link.inFlight_feed, List.append_nil]
  exact h

theorem forall_inFlight_write {p : Marked Player SocketPacket → Prop} (h : ∀ f ∈ s.downstream, p f) (n : Nat) :
    ∀ f ∈ (s.down.write n).inFlight ++ HandleWriter.held s.writer, p f := by
  rw [Link.inFlight_write]
  exact h

theorem Clean.endWriter (h : Clean s) : Clean s.endWriter :=
  { h with
    queue := (fun _ hm => by cases hm)
    writer := (fun _ hf => by cases hf)
    join := forall_inFlight (s := s) h.join }

theorem Clean.handleMessage (h : Clean s) {m : Marked Player (ClientToProxy Player Player)}
    (hm : ∀ id pkg, m.val = .packet id pkg → fits (.proxyData ⟨id, pkg⟩) = true) :
    Clean (s.handleMessage m) := by
  apply handleMessage_cases (motive := Clean) s m
  case full => intros; exact h.endWriter
  case joined =>
    intro idSender tx id d startData hv hins hphase
    have hid := (Distributor.insert_eq_ok hins).1
    have hstart := h.phase idSender
    rw [hphase] at hstart
    exact
      { h with
        phase := forall_players (R := fun _ p => PhaseFits p.phase) h.phase ⟨hstart, hid⟩
        writer := by simp [HandleWriter.held, fits]
        join := forall_inFlight_append (s := s) h.join fun id' he => by cases he; exact hid }
  case gone => intros; exact { h.endWriter with }
  case packet =>
    intro id pkg hv
    exact
      { h with
        writer := by simp only [HandleWriter.held, List.mem_singleton]; rintro f rfl; exact hm id pkg hv
        join := forall_inFlight_append (s := s) h.join (by simp) }
  case ping =>
    intro ping hv
    exact { h with
      writer := by simp [HandleWriter.held, fits]
      join := forall_inFlight_append (s := s) h.join (by simp) }
  case removed =>
    intro id hv hid
    exact { h with
      writer := by simp [HandleWriter.held, fits]
      join := forall_inFlight_append (s := s) h.join (by simp) }
  case unknown =>
    intro id hv hid
    exact { h with writer := (fun _ hf => by cases hf), join := forall_inFlight (s := s) h.join }

theorem Clean.handleFrame (h : Clean s) (f : Marked Conn SocketPacket) : Clean (s.handleFrame f) := by
  apply handleFrame_cases (motive := Clean) s f
  case disconnect =>
    intro id P hv hg
    exact { h with phase := forall_players (R := fun _ p => PhaseFits p.phase) h.phase (h.phase P) }
  case disconnectNone => intro id hv hg; exact { h with }
  case data =>
    intro id pkg P hv hg
    refine { h with phase := forall_players (R := fun _ p => PhaseFits p.phase) h.phase ?_ }
    rw [PlayerState.send]
    split <;> exact h.phase P
  case ping => intro ping hv; exact { h with queue := forall_mem_offer h.queue (by simp) }
  case dataNone => intros; exact h
  case other => intros; exact h

theorem Clean.readerFrame (h : Clean s) {f : Marked Player SocketPacket}
    (hf : ∀ id, f.val = .proxyJoin id → id.toNat < MAXIMUM_CLIENTS) : Clean (s.readerFrame f) := by
  apply readerFrame_cases (motive := Clean) s f
  case join =>
    intro id hv
    exact { h with
      conn := forall_conns (R := fun _ c => c.clientId.toNat < MAXIMUM_CLIENTS) h.conn (hf id hv) }
  case data =>
    intro id pkg c hv hc ht
    exact { h with
      conn := forall_conns (R := fun _ c => c.clientId.toNat < MAXIMUM_CLIENTS) h.conn (h.conn c) }
  case disconnect =>
    intro id c hv hc
    exact { h with
      conn := forall_conns (R := fun _ c => c.clientId.toNat < MAXIMUM_CLIENTS) h.conn (h.conn c) }
  case dataLost => intros; exact { h with }
  case dataNone => intros; exact { h with }
  case disconnectNone => intros; exact { h with }
  case pong => intros; exact h
  case unexpected => intros; exact { h with }

theorem Clean.backendMessage (h : Clean s) {m : Marked Conn BackendToProxy}
    (hm : ∀ id pkg, m.val = .packet id pkg → fits (.proxyData ⟨id, pkg⟩) = true) :
    Clean (s.backendMessage m) := by
  apply backendMessage_cases (motive := Clean) s m
  case packet =>
    intro id pkg hv
    exact { h with
      clientWriter := by
        simp only [WriterHandler.held, List.mem_singleton]; rintro f rfl; exact hm id pkg hv }
  case remove => intro id hv; exact { h with clientWriter := by simp [WriterHandler.held, fits] }
  case ping => intro ping hv; exact { h with clientWriter := by simp [WriterHandler.held, fits] }
  case ends => exact { h with toProxy := (fun _ hm => by cases hm), clientWriter := (fun _ hf => by cases hf) }

/-- Every step of a session whose first packets are short keeps its frames in their headers. -/
theorem Clean.step {a : Action} (h : Clean s) (hc : ShortStart a) (hs : s.step a = some s') :
    Clean s' := by
  obtain ⟨ha, rfl⟩ := step_eq_some hs
  have hplayer : ∀ {P : Player} {p : PlayerState}, PhaseFits p.phase →
      ∀ Q, PhaseFits (update s.players P p Q).phase := fun hp =>
    forall_players (R := fun _ p => PhaseFits p.phase) h.phase hp
  have hconn : ∀ {c : Conn} {x : ClientConnection}, x.clientId = (s.conns c).clientId →
      ∀ d, (update s.conns c x d).clientId.toNat < MAXIMUM_CLIENTS := fun {c} _ hx =>
    forall_conns (R := fun _ c => c.clientId.toNat < MAXIMUM_CLIENTS) h.conn (hx ▸ h.conn c)
  cases a with
  | connect P startData =>
    exact { h with
      phase := hplayer hc
      queue := forall_mem_append_singleton h.queue (by simp) }
  | joinFails P => exact { h with phase := hplayer trivial }
  | sendStart P id startData =>
    obtain ⟨hp, -⟩ := of_decide_eq_true ha
    have hfit := h.phase P
    rw [hp] at hfit
    exact { h with
      phase := hplayer hfit.2
      queue := forall_mem_append_singleton h.queue fun id' pkg he => by
        cases he; exact fits_data hfit.2 hfit.1 }
  | clientRead P id chunk =>
    obtain ⟨-, hid, -, hlen⟩ := of_decide_eq_true ha
    exact { h with
      phase := hplayer (h.phase P)
      queue := forall_mem_offer h.queue fun id' pkg he => by
        cases he; exact fits_data ((h.phase P).of_id? hid) (by omega) }
  | clientFinish P id =>
    obtain ⟨hp, -⟩ := of_decide_eq_true ha
    have hfit := h.phase P
    rw [hp] at hfit
    exact { h with phase := hplayer hfit, queue := forall_mem_offer h.queue (by simp) }
  | clientReadEnds P | clientWriterTake P _ | clientWriterDrained P | clientWriterWrite P _
  | clientWriterFlushed P | clientWriterFlushFails P | clientWriterClosed P | clientWriterFails P
  | clientWriterAborted P => exact { h with phase := hplayer (h.phase P) }
  | handleWriter m =>
    obtain ⟨-, hm⟩ := of_decide_eq_true ha
    have hs : Clean { s with queue := s.queue.tail } := { h with queue := forall_mem_tail h.queue }
    exact hs.handleMessage (h.queue m (List.mem_of_mem_head? hm))
  | handleWriterFeed f =>
    have hw := of_decide_eq_true ha
    have hfit : fits f.val = true := h.writer f (by rw [hw]; exact List.mem_singleton_self f)
    exact { h with
      down := by show (s.down.garbled || !fits f.val) = false; rw [h.down, hfit]; rfl
      writer := (fun _ hf => by cases hf)
      join := forall_inFlight_feed h.join hw (fits f.val) }
  | handleWriterEmpty =>
    exact { h with writer := (fun _ hf => by cases hf), join := forall_inFlight (s := s) h.join }
  | handleWriterFlushed =>
    exact { h with writer := (fun _ hf => by cases hf), join := forall_inFlight (s := s) h.join }
  | handleWriterFails => exact h.endWriter
  | handleWriterAborted => exact h.endWriter
  | handleReader f =>
    have hs : Clean { s with up := s.up.pop f } := { h with up := (garbled_pop _ _).trans h.up }
    exact hs.handleFrame f
  | handleReaderEnds | handleEnds => exact { h with }
  | downWrite n => exact { h with join := forall_inFlight_write h.join n }
  | upWrite n => exact { h with }
  | readerHandler f =>
    obtain ⟨-, hg⟩ := of_decide_eq_true ha
    obtain ⟨-, hin, -, hgarbled⟩ := Link.pop_of_gives h.down hg
    have hs : Clean { s with down := s.down.pop f } :=
      { h with
        down := hgarbled
        join := fun g hg => h.join g (by
          rw [downstream, hin]; exact List.mem_cons_of_mem _ hg) }
    refine hs.readerFrame fun id he => h.join f ?_ id he
    rw [downstream, hin]; exact List.mem_cons_self
  | readerDisconnect | readerDisconnectClosed | readerEnds => exact { h with }
  | readerPing time => exact { h with toProxy := forall_mem_offerBackend h.toProxy (by simp) }
  | writerHandler m =>
    obtain ⟨-, hm⟩ := of_decide_eq_true ha
    have hs : Clean { s with toProxy := s.toProxy.tail } := { h with toProxy := forall_mem_tail h.toProxy }
    exact hs.backendMessage (h.toProxy m (List.mem_of_mem_head? hm))
  | writerHandlerFeed f =>
    have hw := of_decide_eq_true ha
    have hfit : fits f.val = true := h.clientWriter f (by rw [hw]; exact List.mem_singleton_self f)
    exact { h with
      up := by show (s.up.garbled || !fits f.val) = false; rw [h.up, hfit]; rfl
      clientWriter := (fun _ hf => by cases hf) }
  | writerHandlerEmpty | writerHandlerFlushed =>
    exact { h with clientWriter := (fun _ hf => by cases hf) }
  | writerHandlerFails | writerHandlerAborted =>
    exact { h with toProxy := (fun _ hm => by cases hm), clientWriter := (fun _ hf => by cases hf) }
  | backendConnectFails c error =>
    exact { h with
      conn := hconn rfl
      toProxy := forall_mem_offerBackend (forall_mem_offerBackend h.toProxy (by simp)) (by simp) }
  | backendWriteFails c rest =>
    exact { h with conn := hconn rfl, toProxy := forall_mem_offerBackend h.toProxy (by simp) }
  | backendReadEnds c =>
    exact { h with conn := hconn rfl, toProxy := forall_mem_offerBackend h.toProxy (by simp) }
  | backendRead c chunk =>
    obtain ⟨-, -, hlen⟩ := of_decide_eq_true ha
    exact { h with
      conn := hconn rfl
      toProxy := forall_mem_offerBackend h.toProxy fun id pkg he => by
        cases he; exact fits_data (h.conn c) (by omega) }
  | backendConnected c | backendRecv c _ | backendWrite c _ _ | backendWritten c | backendClosed c
  | backendDropped c => exact { h with conn := hconn rfl }

end Session
end CraftIP
