import CraftIP.Lib.Measure
import CraftIP.Session.Downlink

/-!
# What is under way comes to an end

As long as nothing new comes into a session (no player, no bytes from a socket, no ping), each step uses up
some of what is left to do (`work`), so there are only so many (`session_settles`): no two of the tasks
keep each other busy.
-/

namespace CraftIP
open Function (update)

/-! ### What is left to do -/

/-- What becomes of a packet once the client has read it: a connection, or a chunk for one. -/
def SocketPacket.workAtClient : SocketPacket → Nat
  | .proxyJoin _ => 11
  | .proxyData packet => packet.data.bytes.length + 2
  | _ => 0

/-- What becomes of a packet once the server has read it: a chunk for a player, or an answer. -/
def SocketPacket.workAtServer : SocketPacket → Nat
  | .proxyData packet => packet.data.bytes.length + 3
  | .proxyPing _ => 6
  | _ => 0

def ClientToProxy.work {IdTx Tx : Type} : ClientToProxy IdTx Tx → Nat
  | .addMinecraftClient _ _ => 17
  | .packet _ pkg => pkg.bytes.length + 8
  | .answerPingPacket _ => 6
  | .removeMinecraftClient _ => 6

def BackendToProxy.work : BackendToProxy → Nat
  | .packet _ pkg => pkg.bytes.length + 9
  | .removeMinecraftClient _ => 7
  | .ping _ => 12
  | .death _ => 1

def HandleWriter.work : HandleWriter → Nat
  | .recv => 1
  | .flush => 2
  | .tryRecv => 3
  | .feed f => f.val.workAtClient + 6
  | .ended => 0

def WriterHandler.work : WriterHandler → Nat
  | .recv => 1
  | .flush => 2
  | .tryRecv => 3
  | .feed f => f.val.workAtServer + 6
  | .ended => 0

def ClientWriter.work : ClientWriter → Nat
  | .recv => 1
  | .flush => 2
  | .drain => 3
  | .closed => 0
  | .ended => 0

def ClientPhase.work : ClientPhase → Nat
  | .absent => 0
  | .awaitId startData => startData.length + 17
  | .hasId _ startData => startData.length + 17
  | .handling _ => 7
  | .finished _ => 0
  | .failed => 0

def HandleClient.work : HandleClient → Nat
  | .connecting => 11
  | .select => 9
  | .writing rest => rest.length + 10
  | .dropping => 1
  | .ended => 0

/-- The chunks that wait in a channel, when each takes `k` steps beside its bytes. -/
def Channel.work {ο : Type} (k : Nat) (c : Channel (Marked ο (List UInt8))) : Nat :=
  (c.pending.map (·.val.length + k)).sum

/-- The packets of a link, when `w` is what becomes of one. -/
def Link.work {α : Type} (w : α → Nat) (l : Link α) : Nat :=
  (l.buffered.map (w · + 2)).sum + (l.sent.map (w · + 1)).sum

namespace Channel
variable {ο : Type} {k : Nat} {x : Marked ο (List UInt8)}

theorem work_send (c : Channel (Marked ο (List UInt8))) :
    (c.send x).work k = c.work k + (x.val.length + k) := by
  simp [work, send]

theorem work_pop {c : Channel (Marked ο (List UInt8))} (h : c.pending.head? = some x) :
    (c.pop x).work k + (x.val.length + k) = c.work k := by
  obtain ⟨rest, hrest⟩ := List.head?_eq_some_iff.1 h
  simp only [work, pop, hrest, List.tail_cons, List.map_cons, List.sum_cons]
  omega

end Channel

namespace Link
variable {α : Type} {w : α → Nat}

theorem work_feed (l : Link α) (b : Bool) (p : α) : (l.feed b p).work w = l.work w + (w p + 2) := by
  simp only [work, feed, List.map_append, List.sum_append, List.map_cons, List.sum_cons, List.map_nil,
    List.sum_nil]
  omega

theorem work_write_lt {l : Link α} {n : Nat} (hn : n ≠ 0) (hl : l.buffered ≠ []) :
    (l.write n).work w < l.work w := by
  have hpos : 0 < (l.buffered.take n).length := by
    have := List.length_pos_iff.2 hl
    rw [List.length_take]
    omega
  have htake : ∀ t : List α, (t.map (w · + 2)).sum = (t.map (w · + 1)).sum + t.length := by
    intro t
    induction t with
    | nil => rfl
    | cons x t ih => simp only [List.map_cons, List.sum_cons, List.length_cons, ih]; omega
  have hsplit := congrArg (fun t => (t.map (w · + 2)).sum) (List.take_append_drop n l.buffered)
  simp only [List.map_append, List.sum_append, htake] at hsplit
  simp only [work, write, List.map_append, List.sum_append]
  rw [htake]
  have := htake l.buffered
  have := htake (l.buffered.drop n)
  omega

theorem work_pop [DecidableEq α] {l : Link α} {p : α} (hl : l.garbled = false) (h : l.Gives p) :
    (l.pop p).work w + (w p + 1) = l.work w := by
  have hs : l.sent.head? = some p := h.resolve_right (by simp [hl])
  obtain ⟨rest, hrest⟩ := List.head?_eq_some_iff.1 hs
  rw [pop, if_pos hs]
  simp only [work, hrest, List.tail_cons, List.map_cons, List.sum_cons]
  omega

end Link

def PlayerState.work (p : PlayerState) : Nat :=
  p.phase.work + p.writer.work + p.reading.toNat + p.rx.work 3 + p.bufWriter.length

def ClientConnection.work (c : ClientConnection) : Nat := c.task.work + c.rx.work 2

namespace Session

def queueWork (q : List (Marked Player (ClientToProxy Player Player))) : Nat := (q.map (·.val.work)).sum

def backendWork (q : List (Marked Conn BackendToProxy)) : Nat := (q.map (·.val.work)).sum

/-- What is left to do when the first `N` players have come. -/
def work (N : Nat) (s : Session) : Nat :=
  ∑ P ∈ Finset.range N, (s.players P).work + ∑ c ∈ Finset.range s.opened, (s.conns c).work +
    (queueWork s.queue + backendWork s.toProxy) +
    (s.down.work (·.val.workAtClient) + s.up.work (·.val.workAtServer)) +
    (s.writer.work + s.clientWriter.work + s.disconnectRx.length) +
    (s.serving.toNat + s.reader.toNat + s.clientReader.toNat)

/-- Something new comes: a player, bytes from a player's or a backend's socket, a ping. -/
def Arrives (s : Session) : Action → Bool
  | .connect _ _ => true
  | .joinFails P => (s.players P).phase = .absent
  | .clientRead _ _ _ => true
  | .backendRead _ _ => true
  | .readerPing _ => true
  | _ => false

/-- A socket is offered what is buffered for it and takes nothing. -/
def Idle (s : Session) : Action → Bool
  | .clientWriterWrite P n => n = 0 ∨ (s.players P).bufWriter = []
  | .downWrite n => n = 0 ∨ s.down.buffered = []
  | .upWrite n => n = 0 ∨ s.up.buffered = []
  | .backendWrite _ rest n => n = 0 ∨ rest = []
  | _ => false

/-- The step is of what is under way. -/
def Settling (s : Session) (a : Action) : Prop := s.Arrives a = false ∧ s.Idle a = false

instance (s : Session) (a : Action) : Decidable (s.Settling a) := inferInstanceAs (Decidable (_ ∧ _))

/-- Players from `N` on have not come, and what has not come or was not opened does nothing. -/
structure Below (N : Nat) (s : Session) : Prop where
  player : ∀ P, N ≤ P → (s.players P).phase = .absent
  absent : ∀ P, (s.players P).phase = .absent →
    (s.players P).reading = false ∧ (s.players P).writer = .recv ∧ (s.players P).bufWriter = []
  conn : ∀ c, s.opened ≤ c → (s.conns c).task = .ended

variable {s s' : Session} {N : Nat}

theorem below_init : Below 0 init := ⟨fun _ _ => rfl, fun _ _ => ⟨rfl, rfl, rfl⟩, fun _ _ => rfl⟩

theorem Below.lt (h : Below N s) {P : Player} (hP : (s.players P).phase ≠ .absent) : P < N := by
  by_contra hle
  exact hP (h.player P (Nat.le_of_not_lt hle))

theorem Below.ne_absent (h : Below N s) {P : Player} (hP : (s.players P).reading = true ∨
    (s.players P).writer ≠ .recv ∨ (s.players P).bufWriter ≠ []) : (s.players P).phase ≠ .absent := by
  intro habsent
  obtain ⟨hreading, hwriter, hbuf⟩ := h.absent P habsent
  rw [hreading, hwriter, hbuf] at hP
  simp at hP

theorem Below.lt_opened (h : Below N s) {c : Conn} (hc : (s.conns c).task ≠ .ended) : c < s.opened := by
  by_contra hle
  exact hc (h.conn c (Nat.le_of_not_lt hle))

/-! ### The pieces of a step -/

theorem queueWork_append (q : List (Marked Player (ClientToProxy Player Player)))
    (m : Marked Player (ClientToProxy Player Player)) : queueWork (q ++ [m]) = queueWork q + m.val.work := by
  simp [queueWork]

theorem queueWork_offer (m : Marked Player (ClientToProxy Player Player)) :
    queueWork (s.offer m) ≤ queueWork s.queue + m.val.work := by
  rw [offer]
  split
  · exact Nat.le_add_right _ _
  · exact Nat.le_of_eq (queueWork_append _ m)

theorem backendWork_offerBackend (m : Marked Conn BackendToProxy) :
    backendWork (s.offerBackend m) ≤ backendWork s.toProxy + m.val.work := by
  rw [offerBackend]
  split
  · exact Nat.le_add_right _ _
  · exact Nat.le_of_eq (by simp [backendWork])

/-- The step keeps the bounds and leaves less to do. -/
def Uses (N : Nat) (s s' : Session) : Prop := Below N s' ∧ s'.work N < s.work N

theorem Below.with_player (h : Below N s) {P : Player} (hP : (s.players P).phase ≠ .absent) {p : PlayerState}
    (hp : p.phase ≠ .absent) {q : List (Marked Player (ClientToProxy Player Player))} :
    Below N { s with players := update s.players P p, queue := q } where
  player := forall_players (R := fun Q q => N ≤ Q → q.phase = .absent) h.player
    fun hle => absurd (h.player P hle) hP
  absent := forall_players (R := fun _ q => q.phase = .absent →
    q.reading = false ∧ q.writer = .recv ∧ q.bufWriter = []) h.absent fun he => absurd he hp
  conn := h.conn

/-- A player goes on, and may add to the queue. -/
theorem Below.update_player (h : Below N s) {P : Player} (hP : (s.players P).phase ≠ .absent)
    {p : PlayerState} (hp : p.phase ≠ .absent) {q : List (Marked Player (ClientToProxy Player Player))}
    (hlt : p.work + queueWork q < (s.players P).work + queueWork s.queue) :
    Uses N s { s with players := update s.players P p, queue := q } := by
  refine ⟨h.with_player hP hp, ?_⟩
  have hsum := sum_update s.players PlayerState.work p (h.lt hP)
  simp only [work]
  omega

theorem Below.update_writer (h : Below N s) {P : Player} (hP : (s.players P).phase ≠ .absent)
    {w : ClientWriter} (hlt : w.work < (s.players P).writer.work) :
    Uses N s { s with players := update s.players P { s.players P with writer := w } } := by
  refine h.update_player (q := s.queue) hP (by exact hP) ?_
  simp only [PlayerState.work]
  omega

theorem one_le_work_of_rxOpen {p : PlayerState} (hp : p.rxOpen = true) : 1 ≤ p.writer.work := by
  obtain ⟨hclosed, hended⟩ := of_decide_eq_true hp
  cases hw : p.writer with
  | recv | drain | flush => decide
  | closed => exact absurd hw hclosed
  | ended => exact absurd hw hended

theorem ne_absent_of_id? {phase : ClientPhase} (h : phase.id?.isSome) : phase ≠ .absent := by
  rintro rfl
  cases h

/-- A backend connection goes on, and may add to what waits for `writer_handler`. -/
theorem Below.update_conn (h : Below N s) {c : Conn} (hc : (s.conns c).task ≠ .ended)
    {x : ClientConnection} {q : List (Marked Conn BackendToProxy)}
    (hlt : x.work + backendWork q < (s.conns c).work + backendWork s.toProxy) :
    Uses N s { s with conns := update s.conns c x, toProxy := q } := by
  have hlt_opened := h.lt_opened hc
  refine ⟨⟨h.player, h.absent, fun d hd => ?_⟩, ?_⟩
  · change s.opened ≤ d at hd
    have hne : d ≠ c := Nat.ne_of_gt (Nat.lt_of_lt_of_le hlt_opened hd)
    simpa only [Function.update_of_ne hne] using h.conn d hd
  · have hsum := sum_update s.conns ClientConnection.work x hlt_opened
    simp only [work]
    omega

theorem HandleWriter.one_le_work {w : HandleWriter} (hw : w ≠ .ended) : 1 ≤ w.work := by
  cases w with
  | recv | flush | tryRecv | feed => exact Nat.succ_pos _
  | ended => exact absurd rfl hw

theorem WriterHandler.one_le_work {w : WriterHandler} (hw : w ≠ .ended) : 1 ≤ w.work := by
  cases w with
  | recv | flush | tryRecv | feed => exact Nat.succ_pos _
  | ended => exact absurd rfl hw

theorem Below.endWriter (h : Below N s) (hw : 1 ≤ s.writer.work) : Uses N s s.endWriter := by
  have hnil : queueWork [] = 0 := rfl
  have hended : HandleWriter.ended.work = 0 := rfl
  refine ⟨⟨h.player, h.absent, h.conn⟩, ?_⟩
  simp only [Session.endWriter, work, hnil, hended]
  omega

theorem Below.endClientWriter (h : Below N s) (hw : 1 ≤ s.clientWriter.work) :
    Uses N s s.endClientWriter := by
  have hnil : backendWork [] = 0 := rfl
  have hended : WriterHandler.ended.work = 0 := rfl
  refine ⟨⟨h.player, h.absent, h.conn⟩, ?_⟩
  simp only [Session.endClientWriter, work, hnil, hended]
  omega

/-! ### The steps -/

/-- `handle_writer` has taken the message off its queue. -/
theorem Below.handleMessage (h : Below N s) (hw : s.writer = .recv ∨ s.writer = .tryRecv)
    {m : Marked Player (ClientToProxy Player Player)} (hm : s.queue.head? = some m) :
    Uses N s ({ s with queue := s.queue.tail }.handleMessage m) := by
  obtain ⟨q, hq⟩ := List.head?_eq_some_iff.1 hm
  have hqueue : queueWork s.queue = m.val.work + queueWork s.queue.tail := by simp [queueWork, hq]
  have hwriter : 1 ≤ s.writer.work := by rcases hw with hw | hw <;> rw [hw] <;> decide
  have hends : Uses N s s.endWriter := h.endWriter hwriter
  -- the writer goes on with less than the message was worth
  have hgoes : ∀ (d : Distributor Player) (w : HandleWriter), w.work ≤ m.val.work →
      Uses N s { s with queue := s.queue.tail, distributor := d, writer := w } := by
    intro d w hle
    refine ⟨⟨h.player, h.absent, h.conn⟩, ?_⟩
    simp only [work]
    omega
  apply handleMessage_cases (motive := Uses N s) { s with queue := s.queue.tail } m
  case full => intros; exact hends
  case gone => intros; exact ⟨⟨h.player, h.absent, h.conn⟩, hends.2⟩
  case packet => intro id pkg hv; exact hgoes s.distributor _ (by rw [hv]; exact Nat.le_refl _)
  case ping => intro p hv; exact hgoes s.distributor _ (by rw [hv]; exact Nat.le_refl _)
  case removed => intro id hv _; exact hgoes _ _ (by rw [hv]; exact Nat.le_refl _)
  case unknown => intro id hv _; exact hgoes _ _ (by rw [hv]; show 3 ≤ 6; omega)
  case joined =>
    intro P tx id d startData hv _ hphase
    change (s.players P).phase = _ at hphase
    have hP : (s.players P).phase ≠ .absent := by rw [hphase]; simp
    have hp : PlayerState.work { s.players P with phase := .hasId id startData } = (s.players P).work := by
      simp only [PlayerState.work, hphase, ClientPhase.work]
    have hbelow := h.with_player hP (p := { s.players P with phase := .hasId id startData })
      (q := s.queue.tail) (by simp)
    have hsum := sum_update s.players PlayerState.work { s.players P with phase := .hasId id startData }
      (h.lt hP)
    have hfeed : (HandleWriter.feed ⟨.proxyJoin id, some tx⟩).work = 17 := rfl
    have hv : m.val.work = 17 := by rw [hv]; rfl
    refine ⟨⟨hbelow.player, hbelow.absent, h.conn⟩, ?_⟩
    rw [hp] at hsum
    dsimp only at hsum
    simp only [work, hfeed]
    omega

/-- `handle_reader` has taken the packet off the tunnel. -/
theorem Below.handleFrame (h : Below N s) (hclean : Clean s) {f : Marked Conn SocketPacket}
    (hf : s.up.Gives f) : Uses N s ({ s with up := s.up.pop f }.handleFrame f) := by
  have hpop := Link.work_pop (w := (·.val.workAtServer)) hclean.up hf
  -- a player that is sent a chunk or is disconnected is not one that has yet to come
  have hplayer : ∀ (P : Player) (p : PlayerState), p.phase = (s.players P).phase →
      p.reading = (s.players P).reading → p.writer = (s.players P).writer →
      p.bufWriter = (s.players P).bufWriter → p.work ≤ (s.players P).work + f.val.workAtServer →
      Uses N s { s with up := s.up.pop f, players := update s.players P p } := by
    intro P p hphase hreading hwriter hbuf hle
    refine ⟨⟨?_, ?_, h.conn⟩, ?_⟩
    · exact forall_players (R := fun Q q => N ≤ Q → q.phase = .absent) h.player
        fun hle => hphase.trans (h.player P hle)
    · refine forall_players (R := fun _ q => q.phase = .absent →
        q.reading = false ∧ q.writer = .recv ∧ q.bufWriter = []) h.absent ?_
      rw [hphase, hreading, hwriter, hbuf]
      exact h.absent P
    · have hsum := sum_update_le (n := N) s.players PlayerState.work p hle
      simp only [work]
      omega
  have hsame : Uses N s { s with up := s.up.pop f } := by
    refine ⟨⟨h.player, h.absent, h.conn⟩, ?_⟩
    simp only [work]
    omega
  apply handleFrame_cases (motive := Uses N s) { s with up := s.up.pop f } f
  case disconnect =>
    intro id P hv _
    have hs := hplayer P { s.players P with disconnected := true } rfl rfl rfl rfl (Nat.le_add_right _ _)
    exact ⟨⟨hs.1.player, hs.1.absent, hs.1.conn⟩, hs.2⟩
  case disconnectNone => intros; exact ⟨⟨h.player, h.absent, h.conn⟩, hsame.2⟩
  case data =>
    intro id pkg P hv _
    have hwork : f.val.workAtServer = pkg.bytes.length + 3 := by rw [hv]; rfl
    refine hplayer P _ ?_ ?_ ?_ ?_ ?_ <;> rw [PlayerState.send] <;> split <;> try rfl
    · show (s.players P).phase.work + _ + _ + ((s.players P).rx.send _).work 3 + _ ≤ _
      rw [Channel.work_send, hwork]
      simp only [PlayerState.work]
      omega
    · exact Nat.le_add_right _ _
  case dataNone => intros; exact hsame
  case ping =>
    intro p hv
    have hwork : f.val.workAtServer = 6 := by rw [hv]; rfl
    have hoffer : queueWork (s.offer ⟨.answerPingPacket p, none⟩) ≤ queueWork s.queue + 6 := queueWork_offer _
    refine ⟨⟨h.player, h.absent, h.conn⟩, ?_⟩
    show work N { s with up := s.up.pop f, queue := s.offer _ } < _
    simp only [work]
    omega
  case other => intros; exact hsame

/-- `reader_handler` has taken the packet off the tunnel. -/
theorem Below.readerFrame (h : Below N s) (hclean : Clean s) {f : Marked Player SocketPacket}
    (hf : s.down.Gives f) : Uses N s ({ s with down := s.down.pop f }.readerFrame f) := by
  have hpop := Link.work_pop (w := (·.val.workAtClient)) hclean.down hf
  have hclient : ∀ (client : Client Conn) (b : Bool), b.toNat ≤ s.clientReader.toNat →
      Uses N s { s with down := s.down.pop f, client := client, clientReader := b } := by
    intro client b hb
    refine ⟨⟨h.player, h.absent, h.conn⟩, ?_⟩
    simp only [work]
    omega
  have hconn : ∀ (c : Conn) (x : ClientConnection), x.task = (s.conns c).task →
      x.work ≤ (s.conns c).work + f.val.workAtClient →
      Uses N s { s with down := s.down.pop f, conns := update s.conns c x } := by
    intro c x htask hle
    refine ⟨⟨h.player, h.absent, fun d hd => ?_⟩, ?_⟩
    · refine forall_conns (R := fun d y => s.opened ≤ d → y.task = .ended) h.conn ?_ d hd
      rw [htask]
      exact h.conn c
    · have hsum := sum_update_le (n := s.opened) s.conns ClientConnection.work x hle
      simp only [work]
      omega
  apply readerFrame_cases (motive := Uses N s) { s with down := s.down.pop f } f
  case join =>
    intro id hv
    have hwork : f.val.workAtClient = 11 := by rw [hv]; rfl
    have hnew : (ClientConnection.new id f.of).work = 11 := rfl
    have hsum := sum_update s.conns ClientConnection.work (.new id f.of) (Nat.lt_add_one s.opened)
    have hsucc := Finset.sum_range_succ (fun c => (s.conns c).work) s.opened
    refine ⟨⟨h.player, h.absent, fun d hd => ?_⟩, ?_⟩
    · have hne : d ≠ s.opened := Nat.ne_of_gt hd
      simpa only [Function.update_of_ne hne] using h.conn d (Nat.le_of_lt hd)
    · simp only [work]
      omega
  case data =>
    intro id pkg c hv _ _
    refine hconn c _ rfl ?_
    have hwork : f.val.workAtClient = pkg.bytes.length + 2 := by rw [hv]; rfl
    show _ + ((s.conns c).rx.send _).work 2 ≤ _
    rw [Channel.work_send, hwork]
    simp only [ClientConnection.work]
    omega
  case dataLost => intros; exact hclient _ _ (Nat.le_refl _)
  case dataNone => intros; exact hclient _ _ (Nat.zero_le _)
  case disconnect =>
    intro id c _ _
    have hs := hconn c { s.conns c with disconnected := true } rfl (Nat.le_add_right _ _)
    exact ⟨⟨hs.1.player, hs.1.absent, hs.1.conn⟩, hs.2⟩
  case disconnectNone => intros; exact hclient _ _ (Nat.le_refl _)
  case pong => intros; exact hclient _ _ (Nat.le_refl _)
  case unexpected => intros; exact hclient _ _ (Nat.zero_le _)

/-- `writer_handler` has taken the message off its channel. -/
theorem Below.backendMessage (h : Below N s) (hw : s.clientWriter = .tryRecv ∨ s.clientWriter = .recv)
    {m : Marked Conn BackendToProxy} (hm : s.toProxy.head? = some m) :
    Uses N s ({ s with toProxy := s.toProxy.tail }.backendMessage m) := by
  obtain ⟨q, hq⟩ := List.head?_eq_some_iff.1 hm
  have hqueue : backendWork s.toProxy = m.val.work + backendWork s.toProxy.tail := by simp [backendWork, hq]
  have hwriter : 1 ≤ s.clientWriter.work := by rcases hw with hw | hw <;> rw [hw] <;> decide
  have hgoes : ∀ (w : WriterHandler) (rx : List ClientID),
      w.work + rx.length ≤ m.val.work + s.disconnectRx.length →
      Uses N s { s with toProxy := s.toProxy.tail, disconnectRx := rx, clientWriter := w } := by
    intro w rx hle
    refine ⟨⟨h.player, h.absent, h.conn⟩, ?_⟩
    simp only [work]
    omega
  apply backendMessage_cases (motive := Uses N s) { s with toProxy := s.toProxy.tail } m
  case packet => intro id pkg hv; exact hgoes _ _ (by rw [hv]; exact Nat.le_refl _)
  case remove =>
    intro id hv
    refine hgoes _ _ ?_
    rw [hv, List.length_append]
    show 6 + (s.disconnectRx.length + 1) ≤ 7 + s.disconnectRx.length
    omega
  case ping => intro p hv; exact hgoes _ _ (by rw [hv]; exact Nat.le_refl _)
  case ends => exact h.endClientWriter hwriter

/-- Every step of what is under way leaves less to do. -/
theorem Below.step (h : Below N s) (hclean : Clean s) {a : Action} (hset : s.Settling a)
    (hs : s.step a = some s') : Uses N s s' := by
  obtain ⟨ha, rfl⟩ := step_eq_some hs
  obtain ⟨harrives, hidle⟩ := hset
  cases a with
  | connect | clientRead | backendRead | readerPing => cases harrives
  | handleWriter m =>
    obtain ⟨hw, hm⟩ := of_decide_eq_true ha
    exact h.handleMessage hw hm
  | handleReader f => exact h.handleFrame hclean (of_decide_eq_true ha).2
  | readerHandler f => exact h.readerFrame hclean (of_decide_eq_true ha).2
  | writerHandler m =>
    obtain ⟨hw, hm⟩ := of_decide_eq_true ha
    exact h.backendMessage hw hm
  | joinFails P =>
    have hjoining := (of_decide_eq_true ha).1
    have habsent : (s.players P).phase ≠ .absent := of_decide_eq_false harrives
    refine h.update_player (q := s.queue) habsent (by simp) ?_
    have hphase : 0 < (s.players P).phase.work := by
      cases hp : (s.players P).phase with
      | absent => exact absurd hp habsent
      | awaitId | hasId => exact Nat.succ_pos _
      | handling | finished | failed => rw [hp] at hjoining; cases hjoining
    have hfailed : ClientPhase.failed.work + ClientWriter.ended.work = 0 := rfl
    simp only [PlayerState.work]
    omega
  | sendStart P id startData =>
    have hphase := (of_decide_eq_true ha).1
    refine h.update_player (by rw [hphase]; simp) (by simp) ?_
    rw [queueWork_append]
    have hreading : true.toNat = 1 := rfl
    simp only [PlayerState.work, hphase, ClientPhase.work, ClientToProxy.work]
    omega
  | clientReadEnds P =>
    have hreading := of_decide_eq_true ha
    have hcome := h.ne_absent (.inl hreading)
    refine h.update_player (q := s.queue) hcome (by exact hcome) ?_
    simp only [PlayerState.work, hreading, Bool.toNat_true, Bool.toNat_false]
    omega
  | clientWriterTake P data =>
    obtain ⟨hphase, hw, hrx⟩ := of_decide_eq_true ha
    have hpop := Channel.work_pop (k := 3) hrx
    have hwriter : 1 ≤ (s.players P).writer.work := by rcases hw with hw | hw <;> rw [hw] <;> decide
    have hcome := ne_absent_of_id? hphase
    refine h.update_player (q := s.queue) hcome (by exact hcome) ?_
    have hdrain : ClientWriter.drain.work = 3 := rfl
    simp only [PlayerState.work, List.length_append]
    omega
  | clientWriterWrite P n =>
    obtain ⟨hn, hbuf⟩ := not_or.1 (of_decide_eq_false hidle)
    have hcome := h.ne_absent (.inr (.inr hbuf))
    refine h.update_player (q := s.queue) hcome (by exact hcome) ?_
    have hpos := List.length_pos_iff.2 hbuf
    simp only [PlayerState.work, List.length_drop]
    omega
  | clientWriterDrained P =>
    have hw := (of_decide_eq_true ha).1
    exact h.update_writer (h.ne_absent (.inr (.inl (by rw [hw]; simp)))) (by rw [hw]; decide)
  | clientWriterFlushed P =>
    have hw := (of_decide_eq_true ha).1
    exact h.update_writer (h.ne_absent (.inr (.inl (by rw [hw]; simp)))) (by rw [hw]; decide)
  | clientWriterFlushFails P =>
    have hw := of_decide_eq_true ha
    exact h.update_writer (h.ne_absent (.inr (.inl (by rw [hw]; simp)))) (by rw [hw]; decide)
  | clientWriterClosed P =>
    obtain ⟨hphase, hw, -⟩ := of_decide_eq_true ha
    exact h.update_writer (ne_absent_of_id? hphase) (by rw [hw]; decide)
  | clientWriterFails P =>
    obtain ⟨hphase, hopen⟩ := of_decide_eq_true ha
    exact h.update_writer (ne_absent_of_id? hphase) (one_le_work_of_rxOpen hopen)
  | clientWriterAborted P =>
    obtain ⟨hphase, hopen⟩ := of_decide_eq_true ha
    refine h.update_writer (fun he => ?_) (one_le_work_of_rxOpen hopen)
    rw [he] at hphase
    cases hphase
  | clientFinish P id =>
    have hphase := (of_decide_eq_true ha).1
    refine h.update_player (by rw [hphase]; simp) (by simp) ?_
    have hoffer : queueWork (s.offer ⟨.removeMinecraftClient id, some P⟩) ≤ queueWork s.queue + 6 :=
      queueWork_offer _
    simp only [PlayerState.work, hphase, ClientPhase.work]
    omega
  | handleWriterFeed f =>
    have hw := of_decide_eq_true ha
    have hfeed := Link.work_feed (w := (·.val.workAtClient)) s.down (fits f.val) f
    refine ⟨⟨h.player, h.absent, h.conn⟩, ?_⟩
    simp only [work, next, hw, HandleWriter.work]
    omega
  | handleWriterEmpty =>
    have hw := (of_decide_eq_true ha).1
    refine ⟨⟨h.player, h.absent, h.conn⟩, ?_⟩
    simp only [work, next, hw, HandleWriter.work]
    omega
  | handleWriterFlushed =>
    have hw := (of_decide_eq_true ha).1
    refine ⟨⟨h.player, h.absent, h.conn⟩, ?_⟩
    simp only [work, next, hw, HandleWriter.work]
    omega
  | handleWriterFails =>
    have hpos := HandleWriter.one_le_work (of_decide_eq_true ha)
    exact h.endWriter hpos
  | handleWriterAborted =>
    have hpos := HandleWriter.one_le_work (of_decide_eq_true ha).1
    exact h.endWriter hpos
  | handleReaderEnds | handleEnds | readerEnds | readerDisconnectClosed =>
    refine ⟨⟨h.player, h.absent, h.conn⟩, ?_⟩
    have ha := of_decide_eq_true ha
    simp only [work, next, ha, Bool.toNat_true, Bool.toNat_false]
    omega
  | downWrite n =>
    obtain ⟨hn, hbuf⟩ := not_or.1 (of_decide_eq_false hidle)
    have hlt := Link.work_write_lt (w := (·.val.workAtClient)) hn hbuf
    refine ⟨⟨h.player, h.absent, h.conn⟩, ?_⟩
    simp only [work, next]
    omega
  | upWrite n =>
    obtain ⟨hn, hbuf⟩ := not_or.1 (of_decide_eq_false hidle)
    have hlt := Link.work_write_lt (w := (·.val.workAtServer)) hn hbuf
    refine ⟨⟨h.player, h.absent, h.conn⟩, ?_⟩
    simp only [work, next]
    omega
  | readerDisconnect id =>
    obtain ⟨rx, hrx⟩ := List.head?_eq_some_iff.1 (of_decide_eq_true ha).2
    refine ⟨⟨h.player, h.absent, h.conn⟩, ?_⟩
    simp only [work, next, hrx, List.tail_cons, List.length_cons]
    omega
  | writerHandlerFeed f =>
    have hw := of_decide_eq_true ha
    have hfeed := Link.work_feed (w := (·.val.workAtServer)) s.up (fits f.val) f
    refine ⟨⟨h.player, h.absent, h.conn⟩, ?_⟩
    simp only [work, next, hw, WriterHandler.work]
    omega
  | writerHandlerEmpty | writerHandlerFlushed =>
    have hw := (of_decide_eq_true ha).1
    refine ⟨⟨h.player, h.absent, h.conn⟩, ?_⟩
    simp only [work, next, hw, WriterHandler.work]
    omega
  | writerHandlerFails => exact h.endClientWriter (WriterHandler.one_le_work (of_decide_eq_true ha))
  | writerHandlerAborted => exact h.endClientWriter (WriterHandler.one_le_work (of_decide_eq_true ha).1)
  | backendConnected c =>
    have ht := of_decide_eq_true ha
    refine h.update_conn (q := s.toProxy) (by rw [ht]; simp) ?_
    simp only [ClientConnection.work, ht, HandleClient.work]
    omega
  | backendConnectFails c error =>
    have ht := of_decide_eq_true ha
    refine h.update_conn (by rw [ht]; simp) ?_
    have hdeath : backendWork (s.offerBackend ⟨.death error, some c⟩) ≤ backendWork s.toProxy + 1 :=
      backendWork_offerBackend _
    have hremove := backendWork_offerBackend
      (s := { s with toProxy := s.offerBackend ⟨.death error, some c⟩ })
      ⟨.removeMinecraftClient (s.conns c).clientId, some c⟩
    simp only [ClientConnection.work, ht, HandleClient.work, BackendToProxy.work] at hremove ⊢
    omega
  | backendRecv c data =>
    obtain ⟨ht, hrx⟩ := of_decide_eq_true ha
    have hpop := Channel.work_pop (k := 2) hrx
    refine h.update_conn (q := s.toProxy) (by rw [ht]; simp) ?_
    simp only [ClientConnection.work, ht, HandleClient.work]
    omega
  | backendWrite c rest n =>
    have ht := of_decide_eq_true ha
    obtain ⟨hn, hrest⟩ := not_or.1 (of_decide_eq_false hidle)
    have hpos := List.length_pos_iff.2 hrest
    refine h.update_conn (q := s.toProxy) (by rw [ht]; simp) ?_
    simp only [ClientConnection.work, ht, HandleClient.work, List.length_drop]
    omega
  | backendWritten c =>
    have ht := of_decide_eq_true ha
    refine h.update_conn (q := s.toProxy) (by rw [ht]; simp) ?_
    simp only [ClientConnection.work, ht, HandleClient.work]
    omega
  | backendClosed c =>
    have ht := (of_decide_eq_true ha).1
    refine h.update_conn (q := s.toProxy) (by rw [ht]; simp) ?_
    simp only [ClientConnection.work, ht, HandleClient.work]
    omega
  | backendWriteFails c rest | backendReadEnds c =>
    have ht := of_decide_eq_true ha
    refine h.update_conn (by rw [ht]; simp) ?_
    have hremove := backendWork_offerBackend (s := s) ⟨.removeMinecraftClient (s.conns c).clientId, some c⟩
    simp only [ClientConnection.work, ht, HandleClient.work, BackendToProxy.work] at hremove ⊢
    omega
  | backendDropped c =>
    have ht := of_decide_eq_true ha
    refine h.update_conn (q := s.toProxy) (by rw [ht]; simp) ?_
    simp only [ClientConnection.work, ht, HandleClient.work]
    omega

/-- A player that the action brings is one of the first `N`. -/
def Brings (N : Nat) : Action → Bool
  | .connect P _ => P < N
  | .joinFails P => P < N
  | _ => true

theorem Below.mono {M : Nat} (h : Below N s) (hle : N ≤ M) : Below M s :=
  ⟨fun P hP => h.player P (Nat.le_trans hle hP), h.absent, h.conn⟩

theorem Below.bring (h : Below N s) (hclean : Clean s) {a : Action} (hin : Brings N a = true)
    (hs : s.step a = some s') : Below N s' := by
  by_cases hset : s.Settling a
  · exact (h.step hclean hset hs).1
  · obtain ⟨ha, rfl⟩ := step_eq_some hs
    have hnew : ∀ {P : Player} {p : PlayerState} {q : List (Marked Player (ClientToProxy Player Player))},
        P < N → p.phase ≠ .absent → Below N { s with players := update s.players P p, queue := q } :=
      fun hP hp =>
        { player := forall_players (R := fun Q q => N ≤ Q → q.phase = .absent) h.player
            fun hle => absurd hP (Nat.not_lt_of_le hle)
          absent := forall_players (R := fun _ q => q.phase = .absent →
            q.reading = false ∧ q.writer = .recv ∧ q.bufWriter = []) h.absent fun he => absurd he hp
          conn := h.conn }
    cases a with
    | connect P => exact hnew (of_decide_eq_true hin) (by simp)
    | joinFails P => exact hnew (q := s.queue) (of_decide_eq_true hin) (by simp)
    | clientRead P =>
      have hcome := ne_absent_of_id? (Option.isSome_iff_exists.2 ⟨_, (of_decide_eq_true ha).2.1⟩)
      exact h.with_player hcome (by exact hcome)
    | clientWriterWrite P n =>
      refine ⟨forall_players (R := fun Q q => N ≤ Q → q.phase = .absent) h.player (h.player P),
        forall_players (R := fun _ q => q.phase = .absent →
          q.reading = false ∧ q.writer = .recv ∧ q.bufWriter = []) h.absent fun he => ?_, h.conn⟩
      obtain ⟨hreading, hwriter, hbuf⟩ := h.absent P he
      exact ⟨hreading, hwriter, by rw [hbuf, List.drop_nil]⟩
    | readerPing | downWrite | upWrite => exact ⟨h.player, h.absent, h.conn⟩
    | backendRead c chunk =>
      refine ⟨h.player, h.absent,
        forall_conns (R := fun d y => s.opened ≤ d → y.task = .ended) h.conn fun hc => ?_⟩
      have htask := h.conn c hc
      rw [(of_decide_eq_true ha).1] at htask
      cases htask
    | backendWrite c rest n =>
      refine ⟨h.player, h.absent,
        forall_conns (R := fun d y => s.opened ≤ d → y.task = .ended) h.conn fun hc => ?_⟩
      have htask := h.conn c hc
      rw [of_decide_eq_true ha] at htask
      cases htask
    | _ => exact absurd ⟨rfl, rfl⟩ hset

theorem exists_brings (a : Action) (N : Nat) : ∃ M, N ≤ M ∧ Brings M a = true := by
  cases a with
  | connect P | joinFails P =>
    exact ⟨max N (P + 1), Nat.le_max_left _ _, decide_eq_true (Nat.lt_of_succ_le (Nat.le_max_right _ _))⟩
  | _ => exact ⟨N, Nat.le_refl N, rfl⟩

theorem exists_below (h : Lts.Reach step (fun _ a => ShortStart a) init s) : Clean s ∧ ∃ N, Below N s :=
  h.invariant (I := fun s => Clean s ∧ ∃ N, Below N s) ⟨clean_init, 0, below_init⟩
    fun {_ a _} _ ⟨hclean, N, hbelow⟩ hc hs => by
      obtain ⟨M, hle, hin⟩ := exists_brings a N
      exact ⟨hclean.step hc hs, M, (hbelow.mono hle).bring hclean hin hs⟩

theorem decreasing_work (N : Nat) :
    Lts.Decreasing step Settling (fun s => Clean s ∧ Below N s) (work N) := by
  intro s a s' ⟨hclean, hbelow⟩ hset hs
  have hshort : ShortStart a := by
    cases a with
    | connect => cases hset.1
    | _ => exact Nat.zero_le _
  obtain ⟨hbelow', hlt⟩ := hbelow.step hclean hset hs
  exact ⟨⟨hclean.step hshort hs, hbelow'⟩, hlt⟩

/-- From any state of a session in which first packets are short, there is a bound on how many steps of
what is under way can follow, and they can be taken until there is none. -/
theorem session_settles (h : Lts.Reach step (fun _ a => ShortStart a) init s) :
    (∃ n, ∀ as s', Lts.run step s as = some s' → Lts.Meets step Settling s as → as.length ≤ n) ∧
      ∃ as s', Lts.run step s as = some s' ∧ Lts.Meets step Settling s as ∧ Lts.Stuck step Settling s' := by
  obtain ⟨hclean, N, hbelow⟩ := exists_below h
  refine ⟨⟨s.work N, fun as s' hr hm => ?_⟩, Lts.exists_stuck (decreasing_work N) ⟨hclean, hbelow⟩⟩
  exact Nat.le_of_add_right_le (Lts.length_le_of_decreasing (decreasing_work N) ⟨hclean, hbelow⟩ hr hm)

theorem session_settles_joinAndRead :
    ∃ s, Lts.run step init joinAndRead = some s ∧ (s.conns 0).bytesRead = [1] ∧
      (∃ n, ∀ as s', Lts.run step s as = some s' → Lts.Meets step Settling s as → as.length ≤ n) ∧
      ∃ as s', Lts.run step s as = some s' ∧ Lts.Meets step Settling s as ∧ Lts.Stuck step Settling s' := by
  obtain ⟨s, hrun, hread⟩ : ∃ s, Lts.run step init joinAndRead = some s ∧ (s.conns 0).bytesRead = [1] := by
    decide +kernel
  exact ⟨s, hrun, hread, session_settles (Lts.Reach.of_run hrun (by decide +kernel))⟩

end Session
end CraftIP
