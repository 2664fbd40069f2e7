import CraftIP.Session.Occupied
import CraftIP.Session.Drain

/-!
# A session at rest

What a session can do by itself comes to an end (`session_settles`). When it has, while the four loops still
run, every queue and every buffer is empty, each player is served or gone, and each backend connection is
open or over (`AtRest`).
-/

namespace CraftIP
open Function (update)

namespace Session

/-- What the session does by itself: nothing comes from outside, and no socket ends or fails. A connection to
the backend is taken to come about. -/
def Internal (s : Session) : Action → Bool
  | .connect _ _ => false
  | .joinFails P => (s.players P).phase ≠ .absent
  | .clientRead _ _ _ => false
  -- `client_reader` is aborted when `client_writer` has ended
  | .clientReadEnds P => (s.players P).phase.isFinished
  | .clientWriterFlushFails _ => false
  | .clientWriterFails _ => false
  | .handleWriterFails => false
  -- `handle_reader` is aborted when `handle_writer` has ended
  | .handleReaderEnds => s.writer = .ended
  | .readerPing _ => false
  | .readerEnds => false
  | .writerHandlerFails => false
  | .backendConnectFails _ _ => false
  | .backendWriteFails _ _ => false
  | .backendRead _ _ => false
  | .backendReadEnds _ => false
  | _ => true

/-- The session gets on by itself. -/
def Working (s : Session) (a : Action) : Prop := s.Internal a = true ∧ s.Idle a = false

instance (s : Session) (a : Action) : Decidable (s.Working a) := inferInstanceAs (Decidable (_ ∧ _))

theorem Working.settling {s : Session} {a : Action} (h : s.Working a) : s.Settling a := by
  refine ⟨?_, h.2⟩
  cases a with
  | connect | clientRead | backendRead | readerPing => cases h.1
  | joinFails P => exact decide_eq_false (of_decide_eq_true h.1)
  | _ => rfl

/-- Nothing is left that the session does by itself. -/
def Resting (s : Session) : Prop := Lts.Stuck step Working s

/-- The two loops of the server and the two of the client run. -/
structure Going (s : Session) : Prop where
  writer : s.writer ≠ .ended
  reader : s.reader = true
  clientWriter : s.clientWriter ≠ .ended
  clientReader : s.clientReader = true

/-- A player is served and has got everything, or its tasks are over. -/
def PlayerRests (s : Session) (P : Player) : Prop :=
  match (s.players P).phase with
  | .absent => True
  | .handling _ => (s.players P).reading = true ∧ (s.players P).writer = .recv ∧
      (s.players P).rx.pending = [] ∧ (s.players P).bufWriter = [] ∧ s.SenderAlive P
  | .finished _ => (s.players P).reading = false ∧ (s.players P).rxOpen = false
  | _ => False

/-- A backend connection is open and has got everything, or is over. -/
def ConnRests (s : Session) (c : Conn) : Prop :=
  match (s.conns c).task with
  | .select => (s.conns c).rx.pending = [] ∧ s.ConnAlive c
  | .ended => True
  | _ => False

instance (s : Session) (P : Player) : Decidable (s.PlayerRests P) :=
  match h : (s.players P).phase with
  | .absent => isTrue (by rw [PlayerRests, h]; trivial)
  | .handling _ =>
    decidable_of_iff ((s.players P).reading = true ∧ (s.players P).writer = .recv ∧
      (s.players P).rx.pending = [] ∧ (s.players P).bufWriter = [] ∧ s.SenderAlive P) (by rw [PlayerRests, h])
  | .finished _ =>
    decidable_of_iff ((s.players P).reading = false ∧ (s.players P).rxOpen = false) (by rw [PlayerRests, h])
  | .awaitId _ | .hasId _ _ | .failed => isFalse (by rw [PlayerRests, h]; exact id)

instance (s : Session) (c : Conn) : Decidable (s.ConnRests c) :=
  match h : (s.conns c).task with
  | .select => decidable_of_iff ((s.conns c).rx.pending = [] ∧ s.ConnAlive c) (by rw [ConnRests, h])
  | .ended => isTrue (by rw [ConnRests, h]; trivial)
  | .connecting | .writing _ | .dropping => isFalse (by rw [ConnRests, h]; exact id)

structure AtRest (s : Session) : Prop where
  writer : s.writer = .recv
  clientWriter : s.clientWriter = .recv
  queue : s.queue = []
  toProxy : s.toProxy = []
  disconnectRx : s.disconnectRx = []
  down : s.down.sent = [] ∧ s.down.buffered = []
  up : s.up.sent = [] ∧ s.up.buffered = []
  player : ∀ P, s.PlayerRests P
  conn : ∀ c, s.ConnRests c

/-- While `handle_writer` runs, a player that waits for its id has its message queued, and none has failed to
join. -/
structure Waiting (s : Session) : Prop where
  awaits : s.writer ≠ .ended → ∀ P startData, (s.players P).phase = .awaitId startData →
    ⟨.addMinecraftClient P P, some P⟩ ∈ s.queue
  failed : s.writer ≠ .ended → ∀ P, (s.players P).phase ≠ .failed

theorem waiting_init : Waiting init := ⟨fun _ _ _ h => (by cases h), fun _ _ h => by cases h⟩

variable {s s' : Session} {P : Player}

/-- A player goes on without waiting, and may add to the queue. -/
theorem Waiting.update_player (h : Waiting s) {P : Player} {p : PlayerState}
    {q : List (Marked Player (ClientToProxy Player Player))} (hq : ∀ m ∈ s.queue, m ∈ q)
    (hawait : s.writer ≠ .ended → ∀ startData, p.phase = .awaitId startData →
      ⟨.addMinecraftClient P P, some P⟩ ∈ q)
    (hfailed : s.writer ≠ .ended → p.phase ≠ .failed) :
    Waiting { s with players := update s.players P p, queue := q } where
  awaits hw := forall_players (R := fun Q x => ∀ startData, x.phase = .awaitId startData →
    ⟨.addMinecraftClient Q Q, some Q⟩ ∈ q) (fun Q startData he => hq _ (h.awaits hw Q startData he)) (hawait hw)
  failed hw := forall_players (R := fun _ x => x.phase ≠ .failed) (h.failed hw) (hfailed hw)

/-- A player whose phase stays. -/
theorem Waiting.keep_player (h : Waiting s) {P : Player} {p : PlayerState}
    (hp : p.phase = (s.players P).phase) : Waiting { s with players := update s.players P p } :=
  h.update_player (q := s.queue) (fun _ hm => hm)
    (fun hw startData he => h.awaits hw P startData (hp ▸ he)) (fun hw => hp ▸ h.failed hw P)

theorem Waiting.handleMessage (h : Waiting s) (hj : Joining s) (hw : s.writer = .recv ∨ s.writer = .tryRecv)
    {m : Marked Player (ClientToProxy Player Player)} (hm : s.queue.head? = some m) :
    Waiting ({ s with queue := s.queue.tail }.handleMessage m) := by
  have hother : (∀ P, m.val ≠ .addMinecraftClient P P) → ∀ (d : Distributor Player) (w : HandleWriter),
      s.writer ≠ .ended → Waiting { s with queue := s.queue.tail, distributor := d, writer := w } := by
    intro hv d w hne
    refine ⟨fun _ P startData he => mem_tail_of_ne hm (h.awaits hne P startData he) ?_, fun _ => h.failed hne⟩
    rintro rfl
    exact hv P rfl
  have hne := writer_ne_ended hw
  have hended : ∀ {t : Session}, t.writer = .ended → Waiting t := fun he =>
    ⟨fun hne => absurd he hne, fun hne => absurd he hne⟩
  apply handleMessage_cases (motive := Waiting) { s with queue := s.queue.tail } m
  case full => intros; exact hended rfl
  case gone => intros; exact hended rfl
  case packet => intro id pkg hv; exact hother (by simp [hv]) s.distributor _ hne
  case ping => intro p hv; exact hother (by simp [hv]) s.distributor _ hne
  case removed => intro id hv _; exact hother (by simp [hv]) _ _ hne
  case unknown => intro id hv _; exact hother (by simp [hv]) _ _ hne
  case joined =>
    intro P tx id d startData hv _ _
    obtain rfl := hj.add m (List.mem_of_mem_head? hm) P tx hv
    constructor
    · intro _ Q startData' he
      change (update s.players P _ Q).phase = _ at he
      rw [Function.update_apply] at he
      split at he
      · cases he
      · next hQ =>
        refine mem_tail_of_ne hm (h.awaits hne Q startData' he) ?_
        rintro rfl
        cases hv
        exact hQ rfl
    · exact fun _ => forall_players (R := fun _ x => x.phase ≠ .failed) (h.failed hne) (by simp)

theorem Waiting.step {a : Action} (h : Waiting s) (hj : Joining s) (hs : s.step a = some s') : Waiting s' := by
  obtain ⟨ha, rfl⟩ := step_eq_some hs
  cases a with
  | connect P startData =>
    exact h.update_player (fun _ hm => List.mem_append_left _ hm)
      (fun _ _ _ => List.mem_append_right _ (List.mem_singleton_self _)) (by simp)
  | joinFails P =>
    have hw := (of_decide_eq_true ha).2
    exact h.update_player (q := s.queue) (fun _ hm => hm) (by simp) (fun hne => absurd hw hne)
  | sendStart P id startData =>
    exact h.update_player (fun _ hm => List.mem_append_left _ hm) (by simp) (by simp)
  | clientRead P id chunk =>
    exact h.update_player (subset_offer _) (fun hne sd he => subset_offer _ _ (h.awaits hne P sd he))
      (fun hne => h.failed hne P)
  | clientFinish P id => exact h.update_player (subset_offer _) (by simp) (by simp)
  | clientReadEnds P | clientWriterTake P _ | clientWriterDrained P | clientWriterWrite P _
  | clientWriterFlushed P | clientWriterFlushFails P | clientWriterClosed P | clientWriterFails P
  | clientWriterAborted P => exact h.keep_player rfl
  | handleWriter m =>
    obtain ⟨hw, hm⟩ := of_decide_eq_true ha
    exact h.handleMessage hj hw hm
  | handleWriterFeed f =>
    have hne : s.writer ≠ .ended := by rw [of_decide_eq_true ha]; simp
    exact ⟨fun _ => h.awaits hne, fun _ => h.failed hne⟩
  | handleWriterEmpty | handleWriterFlushed =>
    have hne : s.writer ≠ .ended := by rw [(of_decide_eq_true ha).1]; simp
    exact ⟨fun _ => h.awaits hne, fun _ => h.failed hne⟩
  | handleWriterFails | handleWriterAborted => exact ⟨fun hne => absurd rfl hne, fun hne => absurd rfl hne⟩
  | handleReader f =>
    apply handleFrame_cases (motive := Waiting) { s with up := s.up.pop f } f
    case disconnect =>
      intro id P _ _
      have hs := h.keep_player (P := P) (p := { s.players P with disconnected := true }) rfl
      exact { hs with }
    case disconnectNone => intros; exact { h with }
    case data =>
      intro id pkg P _ _
      have hs := h.keep_player (P := P) (p := (s.players P).send ⟨pkg.bytes, f.of⟩)
        (by rw [PlayerState.send]; split <;> rfl)
      exact { hs with }
    case dataNone => intros; exact { h with }
    case ping =>
      intros
      exact ⟨fun hne Q sd he => subset_offer _ _ (h.awaits hne Q sd he), h.failed⟩
    case other => intros; exact { h with }
  | readerHandler f =>
    apply readerFrame_cases (motive := Waiting) { s with down := s.down.pop f } f <;> intros <;> exact { h with }
  | writerHandler m =>
    apply backendMessage_cases (motive := Waiting) { s with toProxy := s.toProxy.tail } m <;>
      intros <;> exact { h with }
  | _ => exact { h with }

/-! ### What rests -/

theorem Resting.not_enabled (h : s.Resting) {a : Action} (ha : s.Working a) : s.enabled a = false := by
  have hstep := h a ha
  rw [step] at hstep
  split at hstep
  · cases hstep
  · next hne => exact Bool.eq_false_iff.2 hne

/-- An action that the session could take by itself is not enabled. -/
theorem Resting.not (h : s.Resting) {a : Action} {p : Prop} [Decidable p] (he : s.enabled a = decide p)
    (ha : s.Working a) : ¬ p := of_decide_eq_false (he.symm.trans (h.not_enabled ha))

theorem Resting.writer (h : s.Resting) (hgoing : Going s) :
    s.writer = .recv ∧ s.queue = [] ∧ s.down.buffered = [] := by
  have hbuffered : s.down.buffered = [] := by
    by_contra hne
    exact h.not (a := .downWrite 1) rfl ⟨rfl, decide_eq_false (by simp [hne])⟩ hgoing.writer
  have hqueue : s.writer = .recv ∨ s.writer = .tryRecv → s.queue = [] := by
    intro hw
    cases hq : s.queue with
    | nil => rfl
    | cons m q => exact absurd ⟨hw, by rw [hq]; rfl⟩ (h.not (a := .handleWriter m) rfl ⟨rfl, rfl⟩)
  cases hw : s.writer with
  | recv => exact ⟨rfl, hqueue (.inl hw), hbuffered⟩
  | tryRecv => exact absurd ⟨hw, hqueue (.inr hw)⟩ (h.not (a := .handleWriterEmpty) rfl ⟨rfl, rfl⟩)
  | flush => exact absurd ⟨hw, hbuffered⟩ (h.not (a := .handleWriterFlushed) rfl ⟨rfl, rfl⟩)
  | feed f => exact absurd hw (h.not (a := .handleWriterFeed f) rfl ⟨rfl, rfl⟩)
  | ended => exact absurd hw hgoing.writer

theorem Resting.clientWriter (h : s.Resting) (hgoing : Going s) :
    s.clientWriter = .recv ∧ s.toProxy = [] ∧ s.up.buffered = [] := by
  have hbuffered : s.up.buffered = [] := by
    by_contra hne
    exact h.not (a := .upWrite 1) rfl ⟨rfl, decide_eq_false (by simp [hne])⟩ hgoing.clientWriter
  have hqueue : s.clientWriter = .tryRecv ∨ s.clientWriter = .recv → s.toProxy = [] := by
    intro hw
    cases hq : s.toProxy with
    | nil => rfl
    | cons m q => exact absurd ⟨hw, by rw [hq]; rfl⟩ (h.not (a := .writerHandler m) rfl ⟨rfl, rfl⟩)
  cases hw : s.clientWriter with
  | recv => exact ⟨rfl, hqueue (.inr hw), hbuffered⟩
  | tryRecv => exact absurd ⟨hw, hqueue (.inl hw)⟩ (h.not (a := .writerHandlerEmpty) rfl ⟨rfl, rfl⟩)
  | flush => exact absurd ⟨hw, hbuffered⟩ (h.not (a := .writerHandlerFlushed) rfl ⟨rfl, rfl⟩)
  | feed f => exact absurd hw (h.not (a := .writerHandlerFeed f) rfl ⟨rfl, rfl⟩)
  | ended => exact absurd hw hgoing.clientWriter

/-- Nothing is left that the tasks of the player do by themselves. -/
def PlayerResting (s : Session) (P : Player) : Prop :=
  ∀ a, a.task = .player P → s.Working a → s.enabled a = false

theorem Resting.player (h : s.Resting) (P : Player) : s.PlayerResting P := fun _ _ ha => h.not_enabled ha

namespace PlayerResting
variable {id : ClientID}

theorem not (h : s.PlayerResting P) {a : Action} {p : Prop} [Decidable p] (he : s.enabled a = decide p)
    (ht : a.task = .player P) (ha : s.Working a) : ¬ p := of_decide_eq_false (he.symm.trans (h a ht ha))

/-- A `client_writer` that has not ended waits for a message and has written all. -/
theorem clientRecv (h : s.PlayerResting P) (hid : (s.players P).phase.id?.isSome)
    (hopen : (s.players P).rxOpen = true) : (s.players P).writer = .recv ∧
      (s.players P).rx.pending = [] ∧ (s.players P).bufWriter = [] := by
  have hbuf : (s.players P).bufWriter = [] := by
    by_contra hne
    exact h.not (a := .clientWriterWrite P 1) rfl rfl ⟨rfl, decide_eq_false (by simp [hne])⟩ hopen
  have hrx : (s.players P).writer = .recv ∨ (s.players P).writer = .drain → (s.players P).rx.pending = [] := by
    intro hw
    cases hq : (s.players P).rx.pending with
    | nil => rfl
    | cons x q =>
      exact absurd ⟨hid, hw, by rw [hq]; rfl⟩ (h.not (a := .clientWriterTake P x) rfl rfl ⟨rfl, rfl⟩)
  obtain ⟨hclosed, hended⟩ := of_decide_eq_true hopen
  cases hw : (s.players P).writer with
  | recv => exact ⟨rfl, hrx (.inl hw), hbuf⟩
  | drain => exact absurd ⟨hw, hrx (.inr hw)⟩ (h.not (a := .clientWriterDrained P) rfl rfl ⟨rfl, rfl⟩)
  | flush => exact absurd ⟨hw, hbuf⟩ (h.not (a := .clientWriterFlushed P) rfl rfl ⟨rfl, rfl⟩)
  | closed => exact absurd hw hclosed
  | ended => exact absurd hw hended

theorem handling (h : s.PlayerResting P) (hphase : (s.players P).phase = .handling id) :
    (s.players P).reading = true ∧ (s.players P).writer = .recv ∧ (s.players P).rx.pending = [] ∧
      (s.players P).bufWriter = [] ∧ s.SenderAlive P := by
  have hfinish := h.not (a := .clientFinish P id) rfl rfl ⟨rfl, rfl⟩
  have hid : (s.players P).phase.id?.isSome := by rw [hphase]; rfl
  have hopen : (s.players P).rxOpen = true :=
    Bool.of_not_eq_false fun he => hfinish ⟨hphase, .inr he⟩
  obtain ⟨hw, hrx, hbuf⟩ := h.clientRecv hid hopen
  refine ⟨Bool.of_not_eq_false fun he => hfinish ⟨hphase, .inl he⟩, hw, hrx, hbuf, ?_⟩
  by_contra hdead
  exact h.not (a := .clientWriterClosed P) rfl rfl ⟨rfl, rfl⟩ ⟨hid, hw, hrx, hdead⟩

theorem finished (h : s.PlayerResting P) (hphase : (s.players P).phase = .finished id) :
    (s.players P).reading = false ∧ (s.players P).rxOpen = false := by
  have hfinished : (s.players P).phase.isFinished = true := by rw [hphase]; rfl
  constructor
  · exact Bool.eq_false_iff.2 (h.not (a := .clientReadEnds P) rfl rfl ⟨hfinished, rfl⟩)
  · exact Bool.eq_false_iff.2 fun he =>
      h.not (a := .clientWriterAborted P) rfl rfl ⟨rfl, rfl⟩ ⟨hfinished, he⟩

end PlayerResting

theorem Resting.conn (h : s.Resting) (c : Conn) : s.ConnRests c := by
  unfold ConnRests
  cases ht : (s.conns c).task with
  | connecting => exact h.not (a := .backendConnected c) rfl ⟨rfl, rfl⟩ ht
  | dropping => exact h.not (a := .backendDropped c) rfl ⟨rfl, rfl⟩ ht
  | ended => trivial
  | writing rest =>
    cases rest with
    | nil => exact h.not (a := .backendWritten c) rfl ⟨rfl, rfl⟩ ht
    | cons b rest => exact h.not (a := .backendWrite c (b :: rest) 1) rfl ⟨rfl, rfl⟩ ht
  | select =>
    have hrx : (s.conns c).rx.pending = [] := by
      cases hq : (s.conns c).rx.pending with
      | nil => rfl
      | cons x q => exact absurd ⟨ht, by rw [hq]; rfl⟩ (h.not (a := .backendRecv c x) rfl ⟨rfl, rfl⟩)
    refine ⟨hrx, ?_⟩
    by_contra hdead
    exact h.not (a := .backendClosed c) rfl ⟨rfl, rfl⟩ ⟨ht, hrx, hdead⟩

/-- Nothing is on its way when the session rests. -/
theorem Resting.atRest (h : s.Resting) (hgoing : Going s) (hwaiting : Waiting s) : AtRest s := by
  obtain ⟨hw, hqueue, hdown⟩ := h.writer hgoing
  obtain ⟨hcw, htoProxy, hup⟩ := h.clientWriter hgoing
  have hsent : s.down.sent = [] := by
    cases hq : s.down.sent with
    | nil => rfl
    | cons f q =>
      exact absurd ⟨hgoing.clientReader, .inl (by rw [hq]; rfl)⟩
        (h.not (a := .readerHandler f) rfl ⟨rfl, rfl⟩)
  have hsent' : s.up.sent = [] := by
    cases hq : s.up.sent with
    | nil => rfl
    | cons f q =>
      exact absurd ⟨hgoing.reader, .inl (by rw [hq]; rfl)⟩ (h.not (a := .handleReader f) rfl ⟨rfl, rfl⟩)
  have hrx : s.disconnectRx = [] := by
    cases hq : s.disconnectRx with
    | nil => rfl
    | cons id q =>
      exact absurd ⟨hgoing.clientReader, by rw [hq]; rfl⟩ (h.not (a := .readerDisconnect id) rfl ⟨rfl, rfl⟩)
  refine ⟨hw, hcw, hqueue, htoProxy, hrx, ⟨hsent, hdown⟩, ⟨hsent', hup⟩, fun P => ?_, h.conn⟩
  unfold PlayerRests
  cases hphase : (s.players P).phase with
  | absent => trivial
  | awaitId startData =>
    have hm := hwaiting.awaits hgoing.writer P startData hphase
    rw [hqueue] at hm
    cases hm
  | hasId id startData =>
    exact h.not (a := .sendStart P id startData) rfl ⟨rfl, rfl⟩ ⟨hphase, hgoing.writer⟩
  | handling id => exact (h.player P).handling hphase
  | finished id => exact (h.player P).finished hphase
  | failed => exact hwaiting.failed hgoing.writer P hphase

/-- A player that rests can do nothing, whatever the loops do. -/
theorem PlayerRests.writer (h : s.PlayerRests P) (habsent : (s.players P).phase = .absent →
    (s.players P).reading = false ∧ (s.players P).writer = .recv ∧ (s.players P).bufWriter = []) :
    (s.players P).rxOpen = false ∨ (s.players P).writer = .recv ∧ (s.players P).bufWriter = [] := by
  unfold PlayerRests at h
  split at h
  · next hphase => exact .inr (habsent hphase).2
  · exact .inr ⟨h.2.1, h.2.2.2.1⟩
  · exact .inl h.2
  · cases h

/-- A session of which nothing is left that the tasks would do rests. -/
theorem AtRest.resting (h : AtRest s) (hgoing : Going s) (hclean : Clean s) {N : Nat} (hbelow : Below N s) :
    Resting s := by
  rintro a ⟨hint, hidle⟩
  rw [step, if_neg]
  intro ha
  have hdown : ∀ f, ¬ s.down.Gives f := by
    rintro f (hf | hf)
    · rw [h.down.1] at hf; cases hf
    · rw [hclean.down] at hf; cases hf
  have hup : ∀ f, ¬ s.up.Gives f := by
    rintro f (hf | hf)
    · rw [h.up.1] at hf; cases hf
    · rw [hclean.up] at hf; cases hf
  have hwriter : ∀ P, (s.players P).rxOpen = true → (s.players P).writer = .recv ∧
      (s.players P).bufWriter = [] := fun P hopen =>
    ((h.player P).writer (hbelow.absent P)).resolve_left (by rw [hopen]; simp)
  have hopen : ∀ P w, (s.players P).writer = w → w ≠ .closed → w ≠ .ended → (s.players P).rxOpen = true :=
    fun P w hw hclosed hended => decide_eq_true (by rw [hw]; exact ⟨hclosed, hended⟩)
  cases a with
  | connect | clientRead | clientWriterFlushFails | clientWriterFails | handleWriterFails | readerPing
  | readerEnds | writerHandlerFails | backendConnectFails | backendWriteFails | backendRead
  | backendReadEnds => cases hint
  | joinFails P => exact hgoing.writer (of_decide_eq_true ha).2
  | sendStart P id startData =>
    have hP := h.player P
    rw [PlayerRests, (of_decide_eq_true ha).1] at hP
    exact hP
  | clientReadEnds P =>
    have hP := h.player P
    have hreading := of_decide_eq_true ha
    have hfinished : (s.players P).phase.isFinished = true := hint
    cases hphase : (s.players P).phase with
    | finished id => rw [PlayerRests, hphase] at hP; rw [hP.1] at hreading; cases hreading
    | _ => rw [hphase] at hfinished; cases hfinished
  | clientWriterTake P data =>
    obtain ⟨hid, hw, hrx⟩ := of_decide_eq_true ha
    have hP := h.player P
    have hrecv := (hwriter P (by rcases hw with hw | hw <;> exact hopen P _ hw (by simp) (by simp))).1
    unfold PlayerRests at hP
    split at hP
    · next hphase => rw [hphase] at hid; cases hid
    · rw [hP.2.2.1] at hrx; cases hrx
    · rw [hopen P _ hrecv (by simp) (by simp)] at hP; cases hP.2
    · cases hP
  | clientWriterDrained P =>
    have hw := (of_decide_eq_true ha).1
    have hrecv := (hwriter P (hopen P _ hw (by simp) (by simp))).1
    rw [hw] at hrecv
    cases hrecv
  | clientWriterWrite P n =>
    exact (not_or.1 (of_decide_eq_false hidle)).2 (hwriter P (of_decide_eq_true ha)).2
  | clientWriterFlushed P =>
    have hw := (of_decide_eq_true ha).1
    have hrecv := (hwriter P (hopen P _ hw (by simp) (by simp))).1
    rw [hw] at hrecv
    cases hrecv
  | clientWriterClosed P =>
    obtain ⟨hid, hw, -, hdead⟩ := of_decide_eq_true ha
    have hP := h.player P
    unfold PlayerRests at hP
    split at hP
    · next hphase => rw [hphase] at hid; cases hid
    · exact hdead hP.2.2.2.2
    · rw [hopen P _ hw (by simp) (by simp)] at hP; cases hP.2
    · cases hP
  | clientWriterAborted P =>
    obtain ⟨hfinished, hw⟩ := of_decide_eq_true ha
    have hP := h.player P
    cases hphase : (s.players P).phase with
    | finished id => rw [PlayerRests, hphase] at hP; rw [hP.2] at hw; cases hw
    | _ => rw [hphase] at hfinished; cases hfinished
  | clientFinish P id =>
    obtain ⟨hphase, hends⟩ := of_decide_eq_true ha
    have hP := h.player P
    rw [PlayerRests, hphase] at hP
    rcases hends with he | he
    · rw [hP.1] at he; cases he
    · rw [hopen P _ hP.2.1 (by simp) (by simp)] at he; cases he
  | handleWriter m => rw [enabled, h.queue] at ha; cases (of_decide_eq_true ha).2
  | handleWriterFeed f => rw [enabled, h.writer] at ha; cases of_decide_eq_true ha
  | handleWriterEmpty => rw [enabled, h.writer] at ha; cases (of_decide_eq_true ha).1
  | handleWriterFlushed => rw [enabled, h.writer] at ha; cases (of_decide_eq_true ha).1
  | handleWriterAborted => rw [enabled, hgoing.reader] at ha; cases (of_decide_eq_true ha).2
  | handleReader f => exact hup f (of_decide_eq_true ha).2
  | handleReaderEnds => exact hgoing.writer (of_decide_eq_true hint)
  | handleEnds => exact hgoing.writer (of_decide_eq_true ha).2.1
  | downWrite n => exact (not_or.1 (of_decide_eq_false hidle)).2 h.down.2
  | upWrite n => exact (not_or.1 (of_decide_eq_false hidle)).2 h.up.2
  | readerHandler f => exact hdown f (of_decide_eq_true ha).2
  | readerDisconnect id => rw [enabled, h.disconnectRx] at ha; cases (of_decide_eq_true ha).2
  | readerDisconnectClosed => exact hgoing.clientWriter (of_decide_eq_true ha).2.2
  | writerHandler m => rw [enabled, h.toProxy] at ha; cases (of_decide_eq_true ha).2
  | writerHandlerFeed f => rw [enabled, h.clientWriter] at ha; cases of_decide_eq_true ha
  | writerHandlerEmpty => rw [enabled, h.clientWriter] at ha; cases (of_decide_eq_true ha).1
  | writerHandlerFlushed => rw [enabled, h.clientWriter] at ha; cases (of_decide_eq_true ha).1
  | writerHandlerAborted => rw [enabled, hgoing.clientReader] at ha; cases (of_decide_eq_true ha).2
  | backendConnected c =>
    have hc := h.conn c
    rw [ConnRests, of_decide_eq_true ha] at hc
    exact hc
  | backendRecv c data =>
    obtain ⟨ht, hrx⟩ := of_decide_eq_true ha
    have hc := h.conn c
    rw [ConnRests, ht] at hc
    rw [hc.1] at hrx
    cases hrx
  | backendWrite c rest n =>
    have hc := h.conn c
    rw [ConnRests, of_decide_eq_true ha] at hc
    exact hc
  | backendWritten c =>
    have hc := h.conn c
    rw [ConnRests, of_decide_eq_true ha] at hc
    exact hc
  | backendClosed c =>
    obtain ⟨ht, -, hdead⟩ := of_decide_eq_true ha
    have hc := h.conn c
    rw [ConnRests, ht] at hc
    exact hdead hc.2
  | backendDropped c =>
    have hc := h.conn c
    rw [ConnRests, of_decide_eq_true ha] at hc
    exact hc

/-! ### When the server has left -/

/-- Whose two tasks are over, or who has not got that far. -/
def PlayerOver (p : PlayerState) : Prop :=
  match p.phase with
  | .absent => True
  | .finished _ => p.reading = false ∧ p.rxOpen = false
  | .failed => True
  | _ => False

/-- A player that rests while nobody serves it is done. -/
theorem PlayerResting.isOver (h : s.PlayerResting P) (hover : s.serving = false) (hended : s.writer = .ended) :
    PlayerOver (s.players P) := by
  unfold PlayerOver
  cases hphase : (s.players P).phase with
  | absent => trivial
  | awaitId startData =>
    exact h.not (a := .joinFails P) rfl rfl ⟨decide_eq_true (by rw [hphase]; simp), rfl⟩
      ⟨by rw [hphase]; rfl, hended⟩
  | hasId id startData =>
    exact h.not (a := .joinFails P) rfl rfl ⟨decide_eq_true (by rw [hphase]; simp), rfl⟩
      ⟨by rw [hphase]; rfl, hended⟩
  | handling id =>
    obtain ⟨hserving, -⟩ := (h.handling hphase).2.2.2.2
    rw [hover] at hserving
    cases hserving
  | finished id => exact h.finished hphase
  | failed => trivial

/-- `handle` has returned only after `handle_writer` has ended. -/
theorem ended_step (h : s.serving = false → s.writer = .ended) {a : Action} (hs : s.step a = some s') :
    s'.serving = false → s'.writer = .ended := by
  obtain ⟨ha, rfl⟩ := step_eq_some hs
  -- a loop that goes on is served
  have hgoes : ∀ {w : HandleWriter} {p : Prop}, s.writer = w → w ≠ .ended → s.serving = false → p :=
    fun hw hne hserving => absurd (hw.symm.trans (h hserving)) hne
  cases a with
  | handleWriter m =>
    have hw := (of_decide_eq_true ha).1
    apply handleMessage_cases (motive := fun t => t.serving = false → t.writer = .ended)
      { s with queue := s.queue.tail } m <;>
      intros <;> rename_i hserving <;> rcases hw with hw | hw <;> exact hgoes hw (by simp) hserving
  | handleWriterFeed f => exact hgoes (of_decide_eq_true ha) (by simp)
  | handleWriterEmpty => exact hgoes (of_decide_eq_true ha).1 (by simp)
  | handleWriterFlushed => exact hgoes (of_decide_eq_true ha).1 (by simp)
  | handleWriterFails | handleWriterAborted => exact fun _ => rfl
  | handleEnds => exact fun _ => (of_decide_eq_true ha).2.1
  | handleReader f =>
    apply handleFrame_cases (motive := fun t => t.serving = false → t.writer = .ended)
      { s with up := s.up.pop f } f <;> intros <;> exact h ‹_›
  | readerHandler f =>
    apply readerFrame_cases (motive := fun t => t.serving = false → t.writer = .ended)
      { s with down := s.down.pop f } f <;> intros <;> exact h ‹_›
  | writerHandler m =>
    apply backendMessage_cases (motive := fun t => t.serving = false → t.writer = .ended)
      { s with toProxy := s.toProxy.tail } m <;> intros <;> exact h ‹_›
  | _ => exact h

theorem not_serving_step (h : s.serving = false) {a : Action} (hs : s.step a = some s') :
    s'.serving = false := by
  obtain ⟨ha, rfl⟩ := step_eq_some hs
  cases a with
  | handleWriter m =>
    apply handleMessage_cases (motive := fun t => t.serving = false) { s with queue := s.queue.tail } m <;>
      intros <;> exact h
  | handleReader f =>
    apply handleFrame_cases (motive := fun t => t.serving = false) { s with up := s.up.pop f } f <;>
      intros <;> exact h
  | readerHandler f =>
    apply readerFrame_cases (motive := fun t => t.serving = false) { s with down := s.down.pop f } f <;>
      intros <;> exact h
  | writerHandler m =>
    apply backendMessage_cases (motive := fun t => t.serving = false) { s with toProxy := s.toProxy.tail } m <;>
      intros <;> exact h
  | handleEnds => rfl
  | _ => exact h

/-- When the server's `handle` has returned, the session by itself comes, after a bounded number of steps, to
where no task of a player is left, whatever the players' sockets do or do not. -/
theorem players_leave (h : Lts.Reach step (fun _ a => ShortStart a) init s) (hover : s.serving = false) :
    ∃ n, ∀ as s', Lts.run step s as = some s' → Lts.Meets step Working s as →
      as.length ≤ n ∧ (Resting s' → ∀ P, PlayerOver (s'.players P)) := by
  obtain ⟨⟨n, hn⟩, -⟩ := session_settles h
  have hended : s.writer = .ended :=
    h.invariant (I := fun s => s.serving = false → s.writer = .ended) (fun he => by cases he)
      (fun _ hi _ hs => ended_step hi hs) hover
  refine ⟨n, fun as s' hr hm => ⟨hn as s' hr (hm.mono fun _ _ ha => ha.settling), fun hrest P => ?_⟩⟩
  obtain ⟨hover', hended'⟩ : s'.serving = false ∧ s'.writer = .ended :=
    Lts.run_invariant (I := fun _ t => t.serving = false ∧ t.writer = .ended) ⟨hover, hended⟩
      (fun _ hi hs => ⟨not_serving_step hi.1 hs, ended_step (fun _ => hi.2) hs (not_serving_step hi.1 hs)⟩) hr
  exact (hrest.player P).isOver hover' hended'

/-- The client hangs up while player 0 is served. -/
def joinAndHangUp : List Action := joinAndRead ++ [.handleReaderEnds, .handleWriterAborted, .handleEnds]

theorem players_leave_joinAndHangUp :
    ∃ s, Lts.run step init joinAndHangUp = some s ∧ (s.players 0).phase = .handling 0 ∧
      ∃ n, ∀ as s', Lts.run step s as = some s' → Lts.Meets step Working s as →
        as.length ≤ n ∧ (Resting s' → ∀ P, PlayerOver (s'.players P)) := by
  obtain ⟨s, hrun, hover, hphase⟩ : ∃ s, Lts.run step init joinAndHangUp = some s ∧ s.serving = false ∧
      (s.players 0).phase = .handling 0 := by
    decide +kernel
  exact ⟨s, hrun, hphase, players_leave (Lts.Reach.of_run hrun (by decide +kernel)) hover⟩

end Session
end CraftIP
