import CraftIP.Bincode
import CraftIP.Client.Writer
import CraftIP.ClientHandler.Writer
import CraftIP.ProxyHandler.Writer

/-!
# Nothing stays unflushed

Whenever one of the three writing loops waits for a message, what it has taken is in the socket
(`writers_settled`). The loops of a session answer its messages as these do (`handleMessage_respond`,
`backendMessage_respond`), and they wait with empty buffers, too (`flushed_of_reach`).
-/

namespace CraftIP
open Function (update)

/-! ### The loops on their own -/

/-- Whatever arrives whenever: a loop that waits for a message has taken the messages in the order in which
they arrived, each was turned into its frame or its bytes once, and all of these are in the socket; the ids
of `handle_writer`'s frames are those of the one distributor. A feed or a write that fails ends the loop,
as does a flush, but for that of `client_writer`. -/
theorem writers_settled (B : Bincode) (IdTx Tx : Type) :
    (∀ (as : List (HandleWriter.Action IdTx Tx)) (s : HandleWriter.State IdTx Tx),
      Lts.run (HandleWriter.step B) HandleWriter.init as = some s → s.pc = .recv →
        s.outbox.Settled HandleWriter.Handled.packet (HandleWriter.Handled.bytes B)
          (as.filterMap HandleWriter.Action.sent?) ∧
        HandleWriter.Served s.outbox.done s.distributor) ∧
    (∀ (as : List ClientWriter.Action) (s : ClientWriter.State), .flushFails ∉ as →
      Lts.run ClientWriter.step ClientWriter.init as = some s → s.pc = .recv →
        s.outbox.Settled id MinecraftDataPacket.bytes (as.filterMap ClientWriter.Action.sent?)) ∧
    ∀ (as : List WriterHandler.Action) (s : WriterHandler.State),
      Lts.run (WriterHandler.step B) WriterHandler.init as = some s → s.pc = .recv →
        s.outbox.Settled WriterHandler.Handled.pkg (WriterHandler.Handled.bytes B)
          (as.filterMap WriterHandler.Action.sent?) :=
  ⟨fun _ _ h hpc => ⟨HandleWriter.settled h hpc, HandleWriter.served h hpc⟩,
    fun _ _ hfail h hpc => ClientWriter.settled hfail h hpc, fun _ _ h hpc => WriterHandler.settled h hpc⟩

/-- A player joins, its packet is taken with it, and a ping comes before `handle_writer` waits. -/
def joinAndPing : List (HandleWriter.Action Unit Unit) :=
  [.send (.addMinecraftClient () ()), .take, .send (.packet 0 ⟨[7]⟩), .handle true, .feed, .take, .handle true,
    .write 3, .feed, .empty, .send (.answerPingPacket 5), .write 30, .flushed]

/-- Two packets are taken together, and a third comes before `client_writer` waits. -/
def sendThree : List ClientWriter.Action :=
  [.send ⟨[1]⟩, .take, .send ⟨[2, 3]⟩, .writeAll, .take, .write 1, .writeAll, .empty, .send ⟨[4]⟩, .write 2,
    .flushed]

/-- A backend connection ends before `writer_handler` has waited. -/
def sendAndRemove : List WriterHandler.Action :=
  [.send (.packet 0 ⟨[7]⟩), .take, .handle true, .feed, .send (.removeMinecraftClient 0), .take, .handle true,
    .feed, .empty, .send (.ping 1), .write 30, .flushed]

/-- The first two messages of each were taken and are in the socket, the third waits. -/
theorem writers_settled_late :
    (∃ s, Lts.run (HandleWriter.step BincodeFormat.crate) HandleWriter.init joinAndPing = some s ∧
      (s.outbox.done.map HandleWriter.Handled.packet = [.addMinecraftClient () (), .packet 0 ⟨[7]⟩] ∧
        s.outbox.queue = [.answerPingPacket 5] ∧
        s.outbox.sink.flushed = [0, 12, 4, 0, 0, 0, 0, 0, 0, 0, 0, 0, 0, 0] ++ [128, 3, 0, 0, 7]) ∧
      s.outbox.Settled HandleWriter.Handled.packet (HandleWriter.Handled.bytes BincodeFormat.crate)
        [.addMinecraftClient () (), .packet 0 ⟨[7]⟩, .answerPingPacket 5] ∧
      HandleWriter.Served s.outbox.done s.distributor) ∧
    (∃ s, Lts.run ClientWriter.step ClientWriter.init sendThree = some s ∧
      (s.outbox.done = [⟨[1]⟩, ⟨[2, 3]⟩] ∧ s.outbox.queue = [⟨[4]⟩] ∧ s.outbox.sink.flushed = [1, 2, 3]) ∧
      s.outbox.Settled id MinecraftDataPacket.bytes [⟨[1]⟩, ⟨[2, 3]⟩, ⟨[4]⟩]) ∧
    ∃ s, Lts.run (WriterHandler.step BincodeFormat.crate) WriterHandler.init sendAndRemove = some s ∧
      (s.outbox.done.map WriterHandler.Handled.pkg = [.packet 0 ⟨[7]⟩, .removeMinecraftClient 0] ∧
        s.outbox.queue = [.ping 1] ∧
        s.outbox.sink.flushed = [128, 3, 0, 0, 7] ++ [0, 12, 5, 0, 0, 0, 0, 0, 0, 0, 0, 0, 0, 0]) ∧
      s.outbox.Settled WriterHandler.Handled.pkg (WriterHandler.Handled.bytes BincodeFormat.crate)
        [.packet 0 ⟨[7]⟩, .removeMinecraftClient 0, .ping 1] := by
  obtain ⟨s₁, hrun₁, hpc₁, hout₁⟩ : ∃ s, Lts.run (HandleWriter.step BincodeFormat.crate) HandleWriter.init
      joinAndPing = some s ∧ s.pc.phase = .waiting ∧
      s.outbox.done.map HandleWriter.Handled.packet = [.addMinecraftClient () (), .packet 0 ⟨[7]⟩] ∧
      s.outbox.queue = [.answerPingPacket 5] ∧
      s.outbox.sink.flushed = [0, 12, 4, 0, 0, 0, 0, 0, 0, 0, 0, 0, 0, 0] ++ [128, 3, 0, 0, 7] := by
    decide +kernel
  obtain ⟨s₂, hrun₂, hpc₂, hout₂⟩ : ∃ s, Lts.run ClientWriter.step ClientWriter.init sendThree = some s ∧
      s.pc = .recv ∧ s.outbox.done = [⟨[1]⟩, ⟨[2, 3]⟩] ∧ s.outbox.queue = [⟨[4]⟩] ∧
      s.outbox.sink.flushed = [1, 2, 3] := by
    decide +kernel
  obtain ⟨s₃, hrun₃, hpc₃, hout₃⟩ : ∃ s, Lts.run (WriterHandler.step BincodeFormat.crate) WriterHandler.init
      sendAndRemove = some s ∧ s.pc.phase = .waiting ∧
      s.outbox.done.map WriterHandler.Handled.pkg = [.packet 0 ⟨[7]⟩, .removeMinecraftClient 0] ∧
      s.outbox.queue = [.ping 1] ∧
      s.outbox.sink.flushed = [128, 3, 0, 0, 7] ++ [0, 12, 5, 0, 0, 0, 0, 0, 0, 0, 0, 0, 0, 0] := by
    decide +kernel
  have h := writers_settled BincodeFormat.crate Unit Unit
  exact ⟨⟨s₁, hrun₁, hout₁, h.1 _ _ hrun₁ (HandleWriter.Pc.phase_eq_waiting.1 hpc₁)⟩,
    ⟨s₂, hrun₂, hout₂, h.2.1 _ _ (by decide) hrun₂ hpc₂⟩,
    ⟨s₃, hrun₃, hout₃, h.2.2 _ _ hrun₃ (WriterHandler.Pc.phase_eq_waiting.1 hpc₃)⟩⟩

/-! ### The loops of a session -/

namespace Session
variable {s s' : Session}

/-- The session's `handle_writer` goes on as the `match` says. -/
def Follows (s : Session) (distributor : Distributor Player) : Option (Option SocketPacket) → Prop
  | none => s.distributor = distributor ∧ s.writer = .ended
  | some none => s.distributor = distributor ∧ s.writer = .tryRecv
  | some (some packet) => s.distributor = distributor ∧ ∃ o, s.writer = .feed ⟨packet, o⟩

/-- The `match` of the session is that of the loop. -/
theorem handleMessage_respond (s : Session) (m : Marked Player (ClientToProxy Player Player)) :
    ∃ idTaken, (s.handleMessage m).Follows (HandleWriter.respond s.distributor idTaken m.val).1
      (HandleWriter.respond s.distributor idTaken m.val).2 := by
  apply handleMessage_cases (motive := fun t => ∃ idTaken, t.Follows
    (HandleWriter.respond s.distributor idTaken m.val).1 (HandleWriter.respond s.distributor idTaken m.val).2) s m
  case full =>
    rintro idSender tx hv ⟨e, he⟩
    refine ⟨true, ?_⟩
    rw [hv, HandleWriter.respond, he]
    exact ⟨rfl, rfl⟩
  case joined =>
    intro idSender tx id d startData hv hins _
    refine ⟨true, ?_⟩
    rw [hv, HandleWriter.respond, hins]
    exact ⟨rfl, some tx, rfl⟩
  case gone =>
    intro idSender tx id d hv hins _
    refine ⟨false, ?_⟩
    rw [hv, HandleWriter.respond, hins]
    exact ⟨rfl, rfl⟩
  case packet => intro id pkg hv; exact ⟨true, by rw [hv]; exact ⟨rfl, m.of, rfl⟩⟩
  case ping => intro ping hv; exact ⟨true, by rw [hv]; exact ⟨rfl, none, rfl⟩⟩
  case removed =>
    intro id hv hlt
    refine ⟨true, ?_⟩
    rw [hv]
    simp only [HandleWriter.respond, if_pos ((Distributor.removeById_fst s.distributor id).2 hlt)]
    exact ⟨rfl, m.of, rfl⟩
  case unknown =>
    intro id hv hlt
    refine ⟨true, ?_⟩
    rw [hv]
    simp only [HandleWriter.respond, if_neg (mt (Distributor.removeById_fst s.distributor id).1 hlt)]
    exact ⟨rfl, rfl⟩

theorem backendMessage_respond (s : Session) (m : Marked Conn BackendToProxy) :
    WriterHandler.respond s.clientReader m.val = none ∧ (s.backendMessage m).clientWriter = .ended ∨
      ∃ packet o, WriterHandler.respond s.clientReader m.val = some packet ∧
        (s.backendMessage m).clientWriter = .feed ⟨packet, o⟩ := by
  cases hv : m.val with
  | packet id pkg => exact .inr ⟨_, m.of, rfl, by simp only [backendMessage, hv]⟩
  | removeMinecraftClient id =>
    by_cases hr : s.clientReader = true
    · exact .inr ⟨_, m.of, if_pos hr, by simp only [backendMessage, hv, if_pos hr]⟩
    · exact .inl ⟨if_neg hr, by simp only [backendMessage, hv, if_neg hr, endClientWriter]⟩
  | ping p => exact .inr ⟨_, none, rfl, by simp only [backendMessage, hv]⟩
  | death error => exact .inl ⟨rfl, by simp only [backendMessage, hv, endClientWriter]⟩

/-- No flush of a `client_writer` fails. -/
def Flushing (_ : Session) (a : Action) : Prop := ∀ P, a ≠ .clientWriterFlushFails P

/-- A loop that waits has an empty buffer. -/
structure Flushed (s : Session) : Prop where
  writer : s.writer = .recv → s.down.buffered = []
  player : ∀ P, (s.players P).writer = .recv → (s.players P).bufWriter = []
  clientWriter : s.clientWriter = .recv → s.up.buffered = []

theorem flushed_init : Flushed init := ⟨fun _ => rfl, fun _ _ => rfl, fun _ => rfl⟩

theorem Flushed.update_player (h : Flushed s) {P : Player} {p : PlayerState}
    {q : List (Marked Player (ClientToProxy Player Player))} (hp : p.writer = .recv → p.bufWriter = []) :
    Flushed { s with players := update s.players P p, queue := q } :=
  ⟨h.writer, forall_players (R := fun _ p => p.writer = .recv → p.bufWriter = []) h.player hp, h.clientWriter⟩

theorem buffered_pop {α : Type} [DecidableEq α] (l : Link α) (p : α) : (l.pop p).buffered = l.buffered := by
  rw [Link.pop]
  split <;> rfl

theorem Flushed.handleMessage (h : Flushed s) (m : Marked Player (ClientToProxy Player Player)) :
    Flushed (s.handleMessage m) := by
  apply handleMessage_cases (motive := Flushed) s m
  case joined =>
    intro idSender tx id d startData _ _ _
    have hs := h.update_player (P := idSender) (q := s.queue)
      (p := { s.players idSender with phase := .hasId id startData }) (h.player idSender)
    exact { hs with writer := fun he => by cases he }
  all_goals
    intros
    exact { h with writer := fun he => by cases he }

theorem Flushed.handleFrame (h : Flushed s) (f : Marked Conn SocketPacket) : Flushed (s.handleFrame f) := by
  apply handleFrame_cases (motive := Flushed) s f
  case disconnect =>
    intro id P _ _
    have hs := h.update_player (P := P) (q := s.queue) (p := { s.players P with disconnected := true }) (h.player P)
    exact { hs with }
  case data =>
    intro id pkg P _ _
    refine h.update_player (q := s.queue) ?_
    rw [PlayerState.send]
    split
    · exact h.player P
    · exact h.player P
  all_goals
    intros
    exact { h with }

theorem Flushed.readerFrame (h : Flushed s) (f : Marked Player SocketPacket) : Flushed (s.readerFrame f) := by
  apply readerFrame_cases (motive := Flushed) s f <;> intros <;> exact { h with }

theorem Flushed.backendMessage (h : Flushed s) (m : Marked Conn BackendToProxy) :
    Flushed (s.backendMessage m) := by
  apply backendMessage_cases (motive := Flushed) s m <;> intros <;>
    exact { h with clientWriter := fun he => by cases he }

theorem Flushed.step {a : Action} (h : Flushed s) (hfail : s.Flushing a) (hs : s.step a = some s') :
    Flushed s' := by
  obtain ⟨ha, rfl⟩ := step_eq_some hs
  cases a with
  | handleWriter m =>
    have hs : Flushed { s with queue := s.queue.tail } := { h with }
    exact hs.handleMessage m
  | handleReader f =>
    have hs : Flushed { s with up := s.up.pop f } :=
      { h with clientWriter := fun he => by rw [buffered_pop]; exact h.clientWriter he }
    exact hs.handleFrame f
  | readerHandler f =>
    have hs : Flushed { s with down := s.down.pop f } :=
      { h with writer := fun he => by rw [buffered_pop]; exact h.writer he }
    exact hs.readerFrame f
  | writerHandler m =>
    have hs : Flushed { s with toProxy := s.toProxy.tail } := { h with }
    exact hs.backendMessage m
  | handleWriterFlushed => exact { h with writer := fun _ => (of_decide_eq_true ha).2 }
  | writerHandlerFlushed => exact { h with clientWriter := fun _ => (of_decide_eq_true ha).2 }
  | downWrite n =>
    exact { h with writer := fun he => by simp only [next, Link.write, h.writer he, List.drop_nil] }
  | upWrite n =>
    exact { h with clientWriter := fun he => by simp only [next, Link.write, h.clientWriter he, List.drop_nil] }
  | clientWriterFlushed P => exact h.update_player (q := s.queue) fun _ => (of_decide_eq_true ha).2
  | clientWriterFlushFails P => exact absurd rfl (hfail P)
  | clientWriterWrite P n =>
    refine h.update_player (q := s.queue) fun he => ?_
    simp only [h.player P he, List.drop_nil]
  | clientWriterTake P _ | clientWriterDrained P | clientWriterClosed P | clientWriterFails P
  | clientWriterAborted P => exact h.update_player (q := s.queue) (fun he => by cases he)
  | joinFails P => exact h.update_player (q := s.queue) (fun he => by cases he)
  | connect P _ | sendStart P _ _ | clientRead P _ _ | clientReadEnds P | clientFinish P _ =>
    exact h.update_player (h.player P)
  | handleWriterFeed | handleWriterEmpty | handleWriterFails | handleWriterAborted =>
    exact { h with writer := fun he => by cases he }
  | writerHandlerFeed | writerHandlerEmpty | writerHandlerFails | writerHandlerAborted =>
    exact { h with clientWriter := fun he => by cases he }
  | handleReaderEnds | handleEnds | readerDisconnect | readerDisconnectClosed | readerPing | readerEnds
  | backendConnected | backendConnectFails | backendRecv | backendWrite | backendWritten
  | backendWriteFails | backendClosed | backendRead | backendReadEnds | backendDropped => exact { h with }

/-- In a session, too, a loop that waits has written everything. -/
theorem flushed_of_reach (h : Lts.Reach step Flushing init s) : Flushed s :=
  h.invariant flushed_init fun _ h hc hs => h.step hc hs

end Session
end CraftIP
