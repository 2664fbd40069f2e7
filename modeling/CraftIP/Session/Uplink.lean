import CraftIP.Lib.Monitor
import CraftIP.Session.Downlink

/-!
# Whose data a backend connection gets

`handle_writer` passes data on by the id alone, and a player's `client_reader` may go on after its slot
was given away. Where an id is only given when the earlier holder sends no more, every data frame follows
the join of the player it was read from, and a backend connection gets data of its own player only
(`uplink_isolated`).
-/

namespace CraftIP
open Function (update)

namespace ClientToProxy
variable {IdTx Tx : Type}

def packetFor (id : ClientID) : ClientToProxy IdTx Tx → Bool
  | .packet id' _ => id' = id
  | _ => false

end ClientToProxy

/-- The id under which a player in this state may yet send data. -/
def PlayerState.sends? (p : PlayerState) : Option ClientID :=
  match p.phase with
  | .hasId id _ => some id
  | .handling id => if p.reading then some id else none
  | .finished id => if p.reading then some id else none
  | _ => none

theorem PlayerState.sends?_of_reading {p : PlayerState} {id : ClientID} (hr : p.reading = true)
    (hid : p.phase.id? = some id) : p.sends? = some id := by
  cases hp : p.phase <;> simp_all [PlayerState.sends?, ClientPhase.id?]

namespace Session

/-- Whose joins and data the frames of an id are: the state is the mark of the last join. -/
def ownership (id : ClientID) : Monitor (Option Player) (Marked Player SocketPacket) where
  next P f := if f.val = .proxyJoin id then f.of else P
  ok P f := f.val.dataFor id = true → f.of = P

/-- No data with the id waits for `handle_writer`, and the last holder sends no more. -/
def PacketGone (s : Session) (id : ClientID) : Prop :=
  (∀ m ∈ s.queue, m.val.packetFor id = false) ∧ ∀ P ∈ s.owner id, (s.players P).sends? ≠ some id

instance (s : Session) (id : ClientID) : Decidable (s.PacketGone id) :=
  inferInstanceAs (Decidable (_ ∧ _))

/-- First packets are short, and an id is given when the earlier holder sends no more. -/
def UplinkFree (s : Session) (a : Action) : Prop := ShortStart a ∧ ∀ id ∈ s.givenId a, s.PacketGone id

instance (s : Session) (a : Action) : Decidable (s.UplinkFree a) :=
  inferInstanceAs (Decidable (_ ∧ _))

/-- The player that the client has last opened a connection for under the id. -/
def joined (s : Session) (id : ClientID) : Option Player := (ownership id).final none s.down.taken

/-- Data waits, travels and arrives under the id of the player it was read from. -/
structure PacketOwned (s : Session) : Prop where
  add : ∀ m ∈ s.queue, ∀ idSender tx, m.val = .addMinecraftClient idSender tx → idSender = tx
  player : ∀ P id, (s.players P).sends? = some id → s.owner id = some P
  queue : ∀ m ∈ s.queue, ∀ id, m.val.packetFor id = true → m.of = s.owner id
  frames : ∀ id, (ownership id).Accepts (s.joined id) s.downstream
  last : s.writer ≠ .ended → ∀ id, (ownership id).final (s.joined id) s.downstream = s.owner id
  slot : ∀ id c, s.client.connection id = some c → c < s.opened ∧ (s.conns c).openedFor = s.joined id
  received : ∀ c, ∀ x ∈ (s.conns c).rx.history, x.of = (s.conns c).openedFor

theorem packetOwned_init : PacketOwned init where
  add := by simp [init]
  player P id h := by cases h
  queue := by simp [init]
  frames _ := trivial
  last _ _ := rfl
  slot id c h := by simp [init] at h
  received := by simp [init, ClientConnection.unused, Channel.history, Channel.empty]

variable {s s' : Session}

theorem downstream_of_recv (h : s.writer = .recv ∨ s.writer = .tryRecv) : s.downstream = s.down.inFlight := by
  rcases h with h | h <;> simp [downstream, h, HandleWriter.held]

theorem writer_ne_ended (h : s.writer = .recv ∨ s.writer = .tryRecv) : s.writer ≠ .ended := by
  rcases h with h | h <;> simp [h]

/-! ### What a connection was opened for -/

/-- Every connection in a slot was opened for the last join of the slot's id. -/
def JoinedFor (s : Session) : Prop :=
  ∀ id c, s.client.connection id = some c → c < s.opened ∧ (s.conns c).openedFor = s.joined id

theorem joinedFor_init : JoinedFor init := fun id c h => by simp [init] at h

/-- The first frame that was on its way is taken. -/
theorem joined_pop {f : Marked Player SocketPacket} (hclean : s.down.garbled = false) (hg : s.down.Gives f)
    (id : ClientID) :
    joined { s with down := s.down.pop f } id = (ownership id).next (s.joined id) f := by
  rw [joined, (Link.pop_of_gives hclean hg).1, Monitor.final_append]; rfl

theorem JoinedFor.relink (h : JoinedFor s) (down : Link (Marked Player SocketPacket)) (w : HandleWriter)
    (htaken : down.taken = s.down.taken) : JoinedFor { s with down, writer := w } := by
  intro id c hc
  have hjoined : joined { s with down, writer := w } id = s.joined id := by rw [joined, htaken]; rfl
  rw [hjoined]
  exact h id c hc

/-- A frame that starts no connection is taken. -/
theorem JoinedFor.pop (h : JoinedFor s) {f : Marked Player SocketPacket}
    (hclean : s.down.garbled = false) (hg : s.down.Gives f) (hjoin : ∀ id, f.val ≠ .proxyJoin id) :
    JoinedFor { s with down := s.down.pop f } := by
  intro id c hc
  rw [joined_pop hclean hg id, show (ownership id).next (s.joined id) f = s.joined id from if_neg (hjoin id)]
  exact h id c hc

theorem JoinedFor.join (h : JoinedFor s) {f : Marked Player SocketPacket}
    (hclean : s.down.garbled = false) (hg : s.down.Gives f) {id : ClientID} (hf : f.val = .proxyJoin id) :
    JoinedFor { s with
      down := s.down.pop f
      client := s.client.addConnection id s.opened
      conns := update s.conns s.opened (.new id f.of)
      opened := s.opened + 1 } := by
  intro id' c hc
  show c < s.opened + 1 ∧ (update s.conns s.opened (.new id f.of) c).openedFor =
    joined { s with down := s.down.pop f } id'
  rw [joined_pop hclean hg id']
  rw [Client.connection_addConnection] at hc
  split at hc
  · next he =>
    obtain ⟨rfl, -⟩ := he
    cases hc
    rw [Function.update_self, show (ownership id).next (s.joined id) f = f.of from if_pos hf]
    exact ⟨Nat.lt_succ_self _, rfl⟩
  · next he =>
    obtain ⟨hlt, hfor⟩ := h id' c hc
    rw [Function.update_of_ne (Nat.ne_of_lt hlt), hfor]
    refine ⟨Nat.lt_succ_of_lt hlt, ?_⟩
    have hne : f.val ≠ .proxyJoin id' := by
      rw [hf]
      intro he'
      cases he'
      exact he ⟨rfl, Client.lt_of_connection hc⟩
    exact (if_neg hne).symm

/-- A backend connection that keeps its mark. -/
theorem JoinedFor.update_conn (h : JoinedFor s) {c : Conn} {x : ClientConnection}
    (hfor : x.openedFor = (s.conns c).openedFor) : JoinedFor { s with conns := update s.conns c x } := by
  intro id d hd
  obtain ⟨hlt, hjoined⟩ := h id d hd
  refine ⟨hlt, ?_⟩
  show (update s.conns c x d).openedFor = s.joined id
  rw [Function.update_apply]
  split
  · next he => subst he; rw [hfor, hjoined]
  · exact hjoined

theorem JoinedFor.removeConnection (h : JoinedFor s) (id : ClientID) :
    JoinedFor { s with client := s.client.removeConnection id } := by
  intro id' c hc
  change (s.client.removeConnection id).connection id' = some c at hc
  rw [Client.connection_removeConnection] at hc
  split at hc
  · cases hc
  · exact h id' c hc

theorem JoinedFor.readerHandler (h : JoinedFor s) {f : Marked Player SocketPacket}
    (hclean : s.down.garbled = false) (hg : s.down.Gives f) :
    JoinedFor ({ s with down := s.down.pop f }.readerFrame f) := by
  apply readerFrame_cases (motive := JoinedFor) { s with down := s.down.pop f } f
  case join => intro id hv; exact h.join hclean hg hv
  case data => intro _ _ _ hv _ _; exact (h.pop hclean hg (by simp [hv])).update_conn rfl
  case dataLost => intro id _ _ hv _ _; exact (h.pop hclean hg (by simp [hv])).removeConnection id
  case dataNone => intro _ _ hv _; exact h.pop hclean hg (by simp [hv])
  case disconnect =>
    intro id c hv hc
    exact ((h.pop hclean hg (by simp [hv])).update_conn (c := c)
      (x := { s.conns c with disconnected := true }) rfl).removeConnection id
  case disconnectNone => intro id hv _; exact (h.pop hclean hg (by simp [hv])).removeConnection id
  case pong => intro _ hv; exact h.pop hclean hg (by simp [hv])
  case unexpected => intro hjoin _ _; exact h.pop hclean hg hjoin

theorem JoinedFor.step {a : Action} (h : JoinedFor s) (hclean : s.down.garbled = false)
    (hs : s.step a = some s') : JoinedFor s' := by
  obtain ⟨ha, rfl⟩ := step_eq_some hs
  cases a with
  | readerHandler f => exact h.readerHandler hclean (of_decide_eq_true ha).2
  | readerDisconnect id => exact h.removeConnection id
  | handleWriter m =>
    apply handleMessage_cases (motive := JoinedFor) { s with queue := s.queue.tail } m <;> intros <;> exact h
  | handleReader f =>
    apply handleFrame_cases (motive := JoinedFor) { s with up := s.up.pop f } f <;> intros <;> exact h
  | writerHandler m =>
    apply backendMessage_cases (motive := JoinedFor) { s with toProxy := s.toProxy.tail } m <;>
      intros <;> exact h
  | backendConnected c | backendRecv c _ | backendWrite c _ _ | backendWritten c | backendClosed c
  | backendDropped c => exact h.update_conn rfl
  | backendConnectFails c error => exact h.update_conn (c := c) (x := { s.conns c with task := .dropping }) rfl
  | backendWriteFails c rest => exact h.update_conn (c := c) (x := { s.conns c with task := .dropping }) rfl
  | backendReadEnds c => exact h.update_conn (c := c) (x := { s.conns c with task := .dropping }) rfl
  | backendRead c chunk =>
    exact h.update_conn (c := c) (x := { s.conns c with
      bytesRead := (s.conns c).bytesRead ++ chunk
      task := if s.clientWriter = .ended then .dropping else .select }) rfl
  | _ => exact h

/-! ### Whose data it is -/

/-- What `handle_writer` leaves behind when it returns. -/
theorem PacketOwned.endWriter (h : PacketOwned s) : PacketOwned s.endWriter :=
  { h with
    add := (fun _ hm => by cases hm)
    queue := (fun _ hm => by cases hm)
    frames := fun id => by
      show (ownership id).Accepts (s.joined id) (s.down.inFlight ++ [])
      rw [List.append_nil]; exact (h.frames id).left
    last := fun hw => absurd rfl hw }

/-- The same frames are on their way, wherever they are. -/
theorem PacketOwned.relink (h : PacketOwned s) (down : Link (Marked Player SocketPacket)) (w : HandleWriter)
    (hin : down.inFlight ++ HandleWriter.held w = s.downstream) (htaken : down.taken = s.down.taken)
    (hw : w ≠ .ended → s.writer ≠ .ended) : PacketOwned { s with down, writer := w } := by
  have hjoined : ∀ id, joined { s with down, writer := w } id = s.joined id := fun id => by
    rw [joined, htaken]; rfl
  refine { h with
    frames := fun id => ?_
    last := fun hne id => ?_
    slot := JoinedFor.relink h.slot down w htaken }
  · rw [hjoined, downstream, hin]; exact h.frames id
  · rw [hjoined, downstream, hin]; exact h.last (hw hne) id

/-- `handle_writer` takes up a frame that starts no connection. -/
theorem PacketOwned.feed (h : PacketOwned s) (hw : s.writer = .recv ∨ s.writer = .tryRecv)
    {f : Marked Player SocketPacket} (hjoin : ∀ id, f.val ≠ .proxyJoin id)
    (hdata : ∀ id, f.val.dataFor id = true → f.of = s.owner id) (d : Distributor Player) :
    PacketOwned { s with distributor := d, writer := .feed f } := by
  have hne := writer_ne_ended hw
  refine { h with frames := fun id => ?_, last := fun _ id => ?_ }
  · show (ownership id).Accepts (s.joined id) (s.down.inFlight ++ [f])
    have hlast := h.last hne id
    rw [downstream_of_recv hw] at hlast
    rw [Monitor.accepts_concat, hlast]
    exact ⟨(h.frames id).left, hdata id⟩
  · show (ownership id).final (s.joined id) (s.down.inFlight ++ [f]) = s.owner id
    rw [Monitor.final_append, ← downstream_of_recv hw, h.last hne id]
    exact if_neg (hjoin id)

/-- `s` has the message taken off the queue. -/
theorem PacketOwned.handleMessage (h : PacketOwned s) (hw : s.writer = .recv ∨ s.writer = .tryRecv)
    {m : Marked Player (ClientToProxy Player Player)}
    (hadd : ∀ idSender tx, m.val = .addMinecraftClient idSender tx → idSender = tx)
    (hm : ∀ id, m.val.packetFor id = true → m.of = s.owner id)
    (hfree : ∀ id ∈ s.givenId (.handleWriter m), s.PacketGone id) : PacketOwned (s.handleMessage m) := by
  have hne := writer_ne_ended hw
  apply handleMessage_cases (motive := PacketOwned) s m
  case full => intros; exact h.endWriter
  case joined =>
    intro idSender tx id d startData hv hins hphase
    have hgone := hfree id (givenId_eq_some hv hins)
    obtain rfl := hadd idSender tx hv
    have hlast := h.last hne
    rw [downstream_of_recv hw] at hlast
    exact
      { h with
        player := by
          refine forall_players (R := fun P p => ∀ id', p.sends? = some id' →
            update s.owner id (some idSender) id' = some P) (fun P id' he => ?_) fun id' he => ?_
          · have hne : id' ≠ id := by rintro rfl; exact hgone.2 P (h.player P id' he) he
            rw [Function.update_of_ne hne]; exact h.player P id' he
          · obtain rfl : id = id' := Option.some.inj he
            exact Function.update_self id (some idSender) s.owner
        queue := fun m hm id' he => by
          have hne : id' ≠ id := by rintro rfl; rw [hgone.1 m hm] at he; cases he
          exact (h.queue m hm id' he).trans (Function.update_of_ne hne _ _).symm
        frames := fun id' => by
          show (ownership id').Accepts (s.joined id') (s.down.inFlight ++ [⟨.proxyJoin id, some idSender⟩])
          rw [Monitor.accepts_concat]
          exact ⟨(h.frames id').left, fun he => by cases he⟩
        last := fun _ id' => by
          show (ownership id').final (s.joined id') (s.down.inFlight ++ [⟨.proxyJoin id, some idSender⟩]) =
            update s.owner id (some idSender) id'
          rw [Monitor.final_append, hlast, Function.update_apply]
          show (if SocketPacket.proxyJoin id = .proxyJoin id' then some idSender else s.owner id') = _
          simp only [SocketPacket.proxyJoin.injEq, eq_comm] }
  case gone =>
    intro idSender tx id d hv hins _
    have hgone := hfree id (givenId_eq_some hv hins)
    exact
      { h.endWriter with
        player := fun P id' he => by
          have hne : id' ≠ id := by rintro rfl; exact hgone.2 P (h.player P id' he) he
          show update s.owner id (some tx) id' = some P
          rw [Function.update_of_ne hne]; exact h.player P id' he
        queue := (fun _ hm => by cases hm)
        last := fun hw => absurd rfl hw }
  case packet =>
    intro id pkg hv
    refine h.feed hw (by simp) (fun id' he => hm id' ?_) _
    rw [hv]; exact he
  case ping => intros; exact h.feed hw (by simp) (by simp [SocketPacket.dataFor]) _
  case removed => intros; exact h.feed hw (by simp) (by simp [SocketPacket.dataFor]) _
  case unknown =>
    intros
    exact { h.relink s.down .tryRecv (by rw [downstream_of_recv hw]; simp [HandleWriter.held])
      rfl (fun _ => hne) with }

theorem PacketOwned.handleFrame (h : PacketOwned s) (f : Marked Conn SocketPacket) :
    PacketOwned (s.handleFrame f) := by
  apply handleFrame_cases (motive := PacketOwned) s f
  case disconnect =>
    intro id P hv hg
    exact { h with
      player := forall_players (R := fun P p => ∀ id, p.sends? = some id → s.owner id = some P)
        h.player (h.player P) }
  case data =>
    intro id pkg P hv hg
    refine { h with
      player := forall_players (R := fun P p => ∀ id, p.sends? = some id → s.owner id = some P)
        h.player ?_ }
    rw [PlayerState.send]
    split <;> exact h.player P
  case disconnectNone => intros; exact { h with }
  case dataNone => intros; exact h
  case ping =>
    intros
    exact { h with
      add := forall_mem_offer h.add (by simp)
      queue := forall_mem_offer h.queue (fun _ he => by cases he) }
  case other => intros; exact h

/-- A frame that starts no connection is taken. -/
theorem PacketOwned.pop (h : PacketOwned s) {f : Marked Player SocketPacket}
    (hclean : s.down.garbled = false) (hg : s.down.Gives f) (hjoin : ∀ id, f.val ≠ .proxyJoin id) :
    PacketOwned { s with down := s.down.pop f } := by
  have hin := (Link.pop_of_gives hclean hg).2.1
  refine { h with
    frames := fun id => ?_
    last := fun hw id => ?_
    slot := JoinedFor.pop h.slot hclean hg hjoin }
  · have hf := h.frames id
    rw [downstream, hin] at hf
    rw [joined_pop hclean hg id]; exact hf.2
  · have hl := h.last hw id
    rw [downstream, hin] at hl
    rw [joined_pop hclean hg id]; exact hl

theorem PacketOwned.join (h : PacketOwned s) {f : Marked Player SocketPacket}
    (hclean : s.down.garbled = false) (hg : s.down.Gives f) {id : ClientID} (hf : f.val = .proxyJoin id) :
    PacketOwned { s with
      down := s.down.pop f
      client := s.client.addConnection id s.opened
      conns := update s.conns s.opened (.new id f.of)
      opened := s.opened + 1 } := by
  have hin := (Link.pop_of_gives hclean hg).2.1
  refine { h with
    frames := fun id' => ?_
    last := fun hw id' => ?_
    slot := JoinedFor.join h.slot hclean hg hf
    received := ?_ }
  · have hframes := h.frames id'
    rw [downstream, hin] at hframes
    exact joined_pop hclean hg id' ▸ hframes.2
  · have hl := h.last hw id'
    rw [downstream, hin] at hl
    exact joined_pop hclean hg id' ▸ hl
  · exact forall_conns (R := fun _ x => ∀ y ∈ x.rx.history, y.of = x.openedFor) h.received
      (fun _ hy => by cases hy)

/-- A backend connection that keeps its mark and gets nothing that is not its player's. -/
theorem PacketOwned.update_conn (h : PacketOwned s) {c : Conn} {x : ClientConnection}
    (hfor : x.openedFor = (s.conns c).openedFor) (hrx : ∀ y ∈ x.rx.history, y.of = x.openedFor) :
    PacketOwned { s with conns := update s.conns c x } where
  add := h.add
  player := h.player
  queue := h.queue
  frames := h.frames
  last := h.last
  slot := JoinedFor.update_conn h.slot hfor
  received := forall_conns (R := fun _ x => ∀ y ∈ x.rx.history, y.of = x.openedFor) h.received hrx

theorem PacketOwned.removeConnection (h : PacketOwned s) (id : ClientID) :
    PacketOwned { s with client := s.client.removeConnection id } :=
  { h with slot := JoinedFor.removeConnection h.slot id }

theorem PacketOwned.readerHandler (h : PacketOwned s) {f : Marked Player SocketPacket}
    (hclean : s.down.garbled = false) (hg : s.down.Gives f) :
    PacketOwned ({ s with down := s.down.pop f }.readerFrame f) := by
  have hin := (Link.pop_of_gives hclean hg).2.1
  apply readerFrame_cases (motive := PacketOwned) { s with down := s.down.pop f } f
  case join => intro id hv; exact h.join hclean hg hv
  case data =>
    intro id pkg c hv hc ht
    have hpop := h.pop hclean hg (by rw [hv]; simp)
    refine hpop.update_conn rfl ?_
    rw [Channel.history_send]
    refine forall_mem_append_singleton (h.received c) ?_
    -- the frame was accepted in its place
    have hok := h.frames id
    rw [downstream, hin] at hok
    rw [(h.slot id c hc).2]
    exact hok.1 (by rw [hv]; exact decide_eq_true rfl)
  case dataLost =>
    intro id pkg c hv hc ht
    exact (h.pop hclean hg (by rw [hv]; simp)).removeConnection id
  case dataNone =>
    intro id pkg hv hc
    exact { h.pop hclean hg (by rw [hv]; simp) with }
  case disconnect =>
    intro id c hv hc
    have hpop := h.pop hclean hg (by rw [hv]; simp)
    exact (hpop.update_conn (c := c) (x := { s.conns c with disconnected := true }) rfl
      (h.received c)).removeConnection id
  case disconnectNone =>
    intro id hv hc
    exact (h.pop hclean hg (by rw [hv]; simp)).removeConnection id
  case pong => intro ping hv; exact h.pop hclean hg (by rw [hv]; simp)
  case unexpected => intro hjoin _ _; exact { h.pop hclean hg hjoin with }

theorem PacketOwned.backendMessage (h : PacketOwned s) (m : Marked Conn BackendToProxy) :
    PacketOwned (s.backendMessage m) := by
  apply backendMessage_cases (motive := PacketOwned) s m
  case packet => intros; exact { h with }
  case remove => intros; exact { h with }
  case ping => intros; exact { h with }
  case ends => exact { h with }

theorem PacketOwned.step {a : Action} (h : PacketOwned s) (hclean : Clean s)
    (hfree : ∀ id ∈ s.givenId a, s.PacketGone id) (hs : s.step a = some s') : PacketOwned s' := by
  obtain ⟨ha, rfl⟩ := step_eq_some hs
  have hplayer : ∀ {P : Player} {p : PlayerState},
      (∀ id, p.sends? = some id → s.owner id = some P) →
      ∀ Q id, (update s.players P p Q).sends? = some id → s.owner id = some Q := fun hp =>
    forall_players (R := fun P p => ∀ id, p.sends? = some id → s.owner id = some P) h.player hp
  cases a with
  | connect P startData =>
    exact { h with
      player := hplayer (fun _ he => by cases he)
      add := forall_mem_append_singleton h.add (by rintro _ _ he; cases he; rfl)
      queue := forall_mem_append_singleton h.queue (fun _ he => by cases he) }
  | joinFails P => exact { h with player := hplayer (fun _ he => by cases he) }
  | sendStart P id startData =>
    obtain ⟨hp, -⟩ := of_decide_eq_true ha
    have howner : s.owner id = some P := h.player P id (by rw [PlayerState.sends?, hp])
    exact { h with
      player := hplayer fun id' he => by cases he; exact howner
      add := forall_mem_append_singleton h.add (by simp)
      queue := forall_mem_append_singleton h.queue fun id' he => by
        obtain rfl : id = id' := of_decide_eq_true he
        exact howner.symm }
  | clientRead P id chunk =>
    obtain ⟨hr, hid, -⟩ := of_decide_eq_true ha
    have hsends := PlayerState.sends?_of_reading hr hid
    have howner := h.player P id hsends
    exact { h with
      player := hplayer fun id' he => by
        refine h.player P id' ?_
        revert he
        cases hp : (s.players P).phase <;>
          simp only [PlayerState.sends?, hp, hr, if_true, imp_self] <;> split <;> simp
      add := forall_mem_offer h.add (by simp)
      queue := forall_mem_offer h.queue fun id' he => by
        obtain rfl : id = id' := of_decide_eq_true he
        exact howner.symm }
  | clientReadEnds P =>
    exact { h with
      player := hplayer fun id' he => by
        refine h.player P id' ?_
        revert he
        cases hp : (s.players P).phase <;> simp [PlayerState.sends?, hp] }
  | clientFinish P id =>
    obtain ⟨hp, -⟩ := of_decide_eq_true ha
    exact { h with
      player := hplayer fun id' he => by
        refine h.player P id' ?_
        rw [PlayerState.sends?, hp]; exact he
      add := forall_mem_offer h.add (by simp)
      queue := forall_mem_offer h.queue (fun _ he => by cases he) }
  | clientWriterTake P _ | clientWriterDrained P | clientWriterWrite P _ | clientWriterFlushed P
  | clientWriterFlushFails P | clientWriterClosed P | clientWriterFails P | clientWriterAborted P =>
    exact { h with player := hplayer (h.player P) }
  | handleWriter m =>
    obtain ⟨hw, hm⟩ := of_decide_eq_true ha
    have hs : PacketOwned { s with queue := s.queue.tail } :=
      { h with add := forall_mem_tail h.add, queue := forall_mem_tail h.queue }
    have hmem := List.mem_of_mem_head? hm
    exact hs.handleMessage hw (h.add m hmem) (h.queue m hmem) fun id hid =>
      ⟨fun m hm => (hfree id hid).1 m (List.mem_of_mem_tail hm), (hfree id hid).2⟩
  | handleWriterFeed f =>
    have hw := of_decide_eq_true ha
    refine h.relink (s.down.feed (fits f.val) f) .tryRecv ?_ rfl (by simp [hw])
    rw [Link.inFlight_feed, downstream, hw]; simp [HandleWriter.held]
  | handleWriterEmpty =>
    have hw := (of_decide_eq_true ha).1
    exact h.relink s.down .flush (by rw [downstream, hw]; rfl) rfl (by simp [hw])
  | handleWriterFlushed =>
    have hw := (of_decide_eq_true ha).1
    exact h.relink s.down .recv (by rw [downstream, hw]; rfl) rfl (by simp [hw])
  | handleWriterFails | handleWriterAborted => exact h.endWriter
  | handleReader f =>
    have hs : PacketOwned { s with up := s.up.pop f } := { h with }
    exact hs.handleFrame f
  | downWrite n =>
    exact h.relink (s.down.write n) s.writer (by rw [Link.inFlight_write]; rfl) rfl id
  | readerHandler f => exact h.readerHandler hclean.down (of_decide_eq_true ha).2
  | readerDisconnect id => exact { h.removeConnection id with }
  | writerHandler m =>
    have hs : PacketOwned { s with toProxy := s.toProxy.tail } := { h with }
    exact hs.backendMessage m
  | backendRecv c data =>
    refine h.update_conn rfl ?_
    show ∀ y ∈ ((s.conns c).rx.pop data).history, _
    rw [Channel.history_pop (of_decide_eq_true ha).2]
    exact h.received c
  | backendConnectFails c error =>
    exact { h.update_conn (c := c) (x := { s.conns c with task := .dropping }) rfl (h.received c) with }
  | backendWriteFails c rest =>
    exact { h.update_conn (c := c) (x := { s.conns c with task := .dropping }) rfl (h.received c) with }
  | backendReadEnds c =>
    exact { h.update_conn (c := c) (x := { s.conns c with task := .dropping }) rfl (h.received c) with }
  | backendRead c chunk =>
    exact { h.update_conn (c := c) (x := { s.conns c with
      bytesRead := (s.conns c).bytesRead ++ chunk
      task := if s.clientWriter = .ended then .dropping else .select }) rfl (h.received c) with }
  | backendConnected c | backendWrite c _ _ | backendWritten c | backendClosed c | backendDropped c =>
    exact h.update_conn rfl (h.received c)
  | handleReaderEnds | handleEnds | upWrite | readerDisconnectClosed | readerPing | readerEnds
  | writerHandlerFeed | writerHandlerEmpty | writerHandlerFlushed | writerHandlerFails
  | writerHandlerAborted => exact { h with }

/-- In a run in which ids are only given when the earlier holder sends no more, the backend connection
that was opened for a player's join gets data of that player, and of no other. -/
theorem uplink_isolated (h : Lts.Reach step UplinkFree init s) (c : Conn) (P : Player)
    (hc : (s.conns c).openedFor = some P) (x : Marked Player (List UInt8))
    (hx : x ∈ (s.conns c).rx.history) : x.of = some P := by
  have hinv := h.invariant (I := fun s => Clean s ∧ PacketOwned s) ⟨clean_init, packetOwned_init⟩
    fun {s a s'} _ ⟨hclean, hp⟩ hc hs => ⟨hclean.step hc.1 hs, hp.step hclean hc.2 hs⟩
  exact (hinv.2.received c x hx).trans hc

/-- The backend of player 0 closes, its slot is given to player 1, and `client_reader` of player 0, which
still runs, reads another byte. -/
def closeBackendAndRead : List Action :=
  [.backendReadEnds 0, .writerHandlerFlushed, .writerHandler ⟨.removeMinecraftClient 0, some 0⟩,
    .writerHandlerFeed ⟨.proxyDisconnect 0, some 0⟩, .readerDisconnect 0, .writerHandlerEmpty, .upWrite 1,
    .handleReader ⟨.proxyData ⟨0, ⟨[1]⟩⟩, some 0⟩, .handleReader ⟨.proxyDisconnect 0, some 0⟩,
    .connect 1 samplePacket, .handleWriter ⟨.addMinecraftClient 1 1, some 1⟩,
    .handleWriterFeed ⟨.proxyJoin 0, some 1⟩, .clientRead 0 0 [9],
    .handleWriter ⟨.packet 0 ⟨[9]⟩, some 0⟩, .handleWriterFeed ⟨.proxyData ⟨0, ⟨[9]⟩⟩, some 0⟩,
    .downWrite 2, .readerHandler ⟨.proxyJoin 0, some 1⟩, .readerHandler ⟨.proxyData ⟨0, ⟨[9]⟩⟩, some 0⟩]

theorem uplink_not_isolated :
    ∃ s, Lts.Reach step (fun _ _ => True) init s ∧
      ∃ c P x, (s.conns c).openedFor = some P ∧ x ∈ (s.conns c).rx.history ∧ x.of ≠ some P := by
  obtain ⟨s, hrun, hfor, hrx⟩ : ∃ s, Lts.run step init (joinAndRead ++ closeBackendAndRead) = some s ∧
      (s.conns 1).openedFor = some 1 ∧ (s.conns 1).rx.history = [⟨[9], some 0⟩] := by
    decide +kernel
  exact ⟨s, Lts.Reach.of_run hrun (.of_forall (fun _ _ => trivial) _ _), 1, 1, ⟨[9], some 0⟩, hfor,
    by rw [hrx]; exact List.mem_singleton_self _, by simp⟩

/-- The connections of players 0 and 2 have the same id. -/
theorem uplink_isolated_leaveAndRejoin :
    ∃ s, Lts.run step init leaveAndRejoin = some s ∧
      ((s.conns 0).clientId = 0 ∧ (s.conns 0).rx.history = [⟨samplePacket, some 0⟩]) ∧
      ((s.conns 2).clientId = 0 ∧ (s.conns 2).rx.history = [⟨samplePacket, some 2⟩]) ∧
      ∀ c P, (s.conns c).openedFor = some P → ∀ x ∈ (s.conns c).rx.history, x.of = some P := by
  obtain ⟨s, hrun, hfirst, hsecond⟩ : ∃ s, Lts.run step init leaveAndRejoin = some s ∧
      ((s.conns 0).clientId = 0 ∧ (s.conns 0).rx.history = [⟨samplePacket, some 0⟩]) ∧
      (s.conns 2).clientId = 0 ∧ (s.conns 2).rx.history = [⟨samplePacket, some 2⟩] := by
    decide +kernel
  exact ⟨s, hrun, hfirst, hsecond, uplink_isolated (Lts.Reach.of_run hrun (by decide +kernel))⟩

end Session
end CraftIP
