import CraftIP.Session.Downlink

/-!
# Who has which id

When no id is given twice, ids and the players that got one correspond to each other for the whole
session: a player's phase names its id, no two ids have one owner, and a slot holds its id's owner.
-/

namespace CraftIP
open Function (update)

/-- The id of a player that got one. -/
def ClientPhase.given? : ClientPhase → Option ClientID
  | .hasId id _ => some id
  | .handling id => some id
  | .finished id => some id
  | _ => none

/-- In `MCClient::new`, without an id. -/
def ClientPhase.awaiting : ClientPhase → Bool
  | .awaitId _ => true
  | _ => false

theorem ClientPhase.given?_of_id? {phase : ClientPhase} {id : ClientID} (h : phase.id? = some id) :
    phase.given? = some id := by
  cases phase <;> first | exact h | cases h

namespace Session

def isAdd (P : Player) (m : Marked Player (ClientToProxy Player Player)) : Bool :=
  m.val = .addMinecraftClient P P

/-- The phase of a player says which id the player owns. -/
structure PhaseOwns (owner : ClientID → Option Player) (P : Player) (phase : ClientPhase) : Prop where
  given : ∀ id, phase.given? = some id → owner id = some P
  owned : ∀ id, owner id = some P → phase.given? = some id ∨ phase = .failed

/-- A player that waits for an id has sent one message that asks for it, and no other player has one
queued. -/
structure Joining (s : Session) : Prop where
  stopped : s.writer = .ended → s.queue = []
  add : ∀ m ∈ s.queue, ∀ idSender tx, m.val = .addMinecraftClient idSender tx → idSender = tx
  adds : ∀ P, s.queue.countP (isAdd P) ≤ (s.players P).phase.awaiting.toNat

/-- Players, slots and the messages of joining players agree with the owners of the ids. -/
structure Assigned (s : Session) : Prop where
  stopped : s.writer = .ended → s.queue = []
  add : ∀ m ∈ s.queue, ∀ idSender tx, m.val = .addMinecraftClient idSender tx → idSender = tx
  adds : ∀ P, s.queue.countP (isAdd P) ≤ (s.players P).phase.awaiting.toNat
  player : ∀ P, PhaseOwns s.owner P (s.players P).phase
  inj : ∀ id id' P, s.owner id = some P → s.owner id' = some P → id = id'
  slot : ∀ id P, s.distributor.getById id = some P → s.owner id = some P

theorem assigned_init : Assigned init where
  stopped _ := rfl
  add := by simp [init]
  adds _ := Nat.zero_le _
  player _ := ⟨fun _ h => (by cases h), fun _ h => by cases h⟩
  inj _ _ _ h := by cases h
  slot id P h := by simp [init] at h

variable {s s' : Session}

theorem PhaseOwns.of_awaiting {owner : ClientID → Option Player} {P : Player} {phase : ClientPhase}
    (h : PhaseOwns owner P phase) (hp : phase.awaiting = true) (id : ClientID) : owner id ≠ some P := by
  intro hid
  cases phase with
  | awaitId startData => rcases h.owned id hid with he | he <;> cases he
  | absent | hasId | handling | finished | failed => cases hp

/-- A player whose id is as before. -/
theorem PhaseOwns.congr {owner : ClientID → Option Player} {P : Player} {phase phase' : ClientPhase}
    (h : PhaseOwns owner P phase) (hgiven : phase'.given? = phase.given?)
    (hfailed : phase = .failed → phase' = .failed) : PhaseOwns owner P phase' :=
  ⟨fun id he => h.given id (hgiven ▸ he), fun id he => (h.owned id he).imp (hgiven ▸ ·) hfailed⟩

theorem PhaseOwns.joined {owner : ClientID → Option Player} {P : Player} (h : ∀ id, owner id ≠ some P)
    (id : ClientID) (startData : List UInt8) :
    PhaseOwns (update owner id (some P)) P (.hasId id startData) := by
  refine ⟨fun id' he => ?_, fun id' he => ?_⟩
  · obtain rfl : id = id' := Option.some.inj he
    exact Function.update_self id (some P) owner
  · rw [Function.update_apply] at he
    split at he
    · next hid => exact .inl (hid ▸ rfl)
    · exact absurd he (h id')

/-! ### The messages of joining players -/

theorem countP_offer {m : Marked Player (ClientToProxy Player Player)} {P : Player}
    (hm : isAdd P m = false) : (s.offer m).countP (isAdd P) = s.queue.countP (isAdd P) := by
  rw [offer]
  split
  · rfl
  · simp [hm]

theorem joining_init : Joining init where
  stopped _ := rfl
  add := by simp [init]
  adds _ := Nat.zero_le _

theorem joining_endWriter : Joining s.endWriter where
  stopped _ := rfl
  add _ hm := by cases hm
  adds _ := Nat.zero_le _

/-- The player whose message was taken off the queue is still waiting, and sent no other. -/
theorem Joining.awaiting (h : Joining s) {m : Marked Player (ClientToProxy Player Player)} {P tx : Player}
    (hm : s.queue.head? = some m) (hv : m.val = .addMinecraftClient P tx) :
    P = tx ∧ (s.players P).phase.awaiting = true ∧ s.queue.tail.countP (isAdd P) = 0 := by
  obtain rfl : P = tx := h.add m (List.mem_of_mem_head? hm) P tx hv
  obtain ⟨rest, hrest⟩ := List.head?_eq_some_iff.1 hm
  have hcount := h.adds P
  have hadd : isAdd P m = true := decide_eq_true hv
  rw [hrest, List.countP_cons_of_pos hadd] at hcount
  cases hp : (s.players P).phase.awaiting with
  | false => rw [hp] at hcount; exact absurd hcount (Nat.not_succ_le_zero _)
  | true =>
    rw [hp] at hcount
    refine ⟨rfl, rfl, ?_⟩
    rw [hrest, List.tail_cons]
    exact Nat.le_zero.1 (Nat.le_of_succ_le_succ hcount)

theorem Joining.awaitId (h : Joining s) {m : Marked Player (ClientToProxy Player Player)} {P tx : Player}
    (hm : s.queue.head? = some m) (hv : m.val = .addMinecraftClient P tx) :
    ∃ startData, (s.players P).phase = .awaitId startData := by
  obtain ⟨rfl, hawait, -⟩ := h.awaiting hm hv
  cases hp : (s.players P).phase with
  | awaitId startData => exact ⟨startData, rfl⟩
  | absent | hasId | handling | finished | failed => rw [hp] at hawait; cases hawait

/-- A player waits as before, and what is sent is no join. -/
theorem Joining.update_player (h : Joining s) {P : Player} {p : PlayerState}
    {q : List (Marked Player (ClientToProxy Player Player))}
    (hp : p.phase.awaiting = (s.players P).phase.awaiting) (hstop : s.writer = .ended → q = [])
    (hadd : ∀ m ∈ q, ∀ idSender tx, m.val = .addMinecraftClient idSender tx → idSender = tx)
    (hq : ∀ Q, q.countP (isAdd Q) = s.queue.countP (isAdd Q)) :
    Joining { s with players := update s.players P p, queue := q } where
  stopped := hstop
  add := hadd
  adds := forall_players (R := fun Q p => q.countP (isAdd Q) ≤ p.phase.awaiting.toNat)
    (fun Q => (hq Q).trans_le (h.adds Q)) (hp ▸ (hq P).trans_le (h.adds P))

theorem Joining.update_phase (h : Joining s) {P : Player} {p : PlayerState}
    (hp : p.phase = (s.players P).phase) : Joining { s with players := update s.players P p } :=
  h.update_player (q := s.queue) (by rw [hp]) h.stopped h.add (fun _ => rfl)

/-- What a player sends that is no join. -/
theorem Joining.offer (h : Joining s) {P : Player} {p : PlayerState}
    {m : Marked Player (ClientToProxy Player Player)}
    (hp : p.phase.awaiting = (s.players P).phase.awaiting)
    (hm : ∀ idSender tx, m.val ≠ .addMinecraftClient idSender tx) :
    Joining { s with players := update s.players P p, queue := s.offer m } :=
  h.update_player hp (fun hw => (if_pos hw).trans (h.stopped hw))
    (forall_mem_offer h.add fun _ _ he => absurd he (hm _ _))
    (fun _ => countP_offer (decide_eq_false (hm _ _)))

theorem Joining.handleMessage (h : Joining s) (hw : s.writer = .recv ∨ s.writer = .tryRecv)
    {m : Marked Player (ClientToProxy Player Player)} (hm : s.queue.head? = some m) :
    Joining ({ s with queue := s.queue.tail }.handleMessage m) := by
  have htail : Joining { s with queue := s.queue.tail } :=
    { stopped := fun he => by rcases hw with hw | hw <;> rw [hw] at he <;> cases he
      add := forall_mem_tail h.add
      adds := fun P => Nat.le_trans (List.countP_tail_le _) (h.adds P) }
  apply handleMessage_cases (motive := Joining) { s with queue := s.queue.tail } m
  case full => intros; exact joining_endWriter
  case joined =>
    intro P tx id d startData hv hins hphase
    obtain ⟨rfl, hawait, hcount⟩ := h.awaiting hm hv
    refine { htail with stopped := (fun he => by cases he), adds := fun Q => ?_ }
    show s.queue.tail.countP (isAdd Q) ≤ (update s.players P _ Q).phase.awaiting.toNat
    rw [Function.update_apply]
    split
    · next he => subst he; rw [hcount]; exact Nat.zero_le _
    · exact htail.adds Q
  case gone => intros; exact { joining_endWriter (s := { s with queue := s.queue.tail }) with }
  case packet => intros; exact { htail with stopped := (fun he => by cases he) }
  case ping => intros; exact { htail with stopped := (fun he => by cases he) }
  case removed => intros; exact { htail with stopped := (fun he => by cases he) }
  case unknown => intros; exact { htail with stopped := (fun he => by cases he) }

theorem Joining.handleFrame (h : Joining s) (f : Marked Conn SocketPacket) : Joining (s.handleFrame f) := by
  apply handleFrame_cases (motive := Joining) s f
  case disconnect =>
    intro id P hv hg
    exact { h.update_phase (P := P) (p := { s.players P with disconnected := true }) rfl with }
  case disconnectNone => intros; exact { h with }
  case data => intro id pkg P hv hg; exact h.update_phase (by rw [PlayerState.send]; split <;> rfl)
  case dataNone => intros; exact h
  case ping =>
    intros
    exact { h with
      stopped := fun hw => (if_pos hw).trans (h.stopped hw)
      add := forall_mem_offer h.add (by simp)
      adds := fun P => (countP_offer (by simp [isAdd])).trans_le (h.adds P) }
  case other => intros; exact h

theorem Joining.readerFrame (h : Joining s) (f : Marked Player SocketPacket) : Joining (s.readerFrame f) := by
  apply readerFrame_cases (motive := Joining) s f <;> intros <;> exact { h with }

theorem Joining.backendMessage (h : Joining s) (m : Marked Conn BackendToProxy) :
    Joining (s.backendMessage m) := by
  apply backendMessage_cases (motive := Joining) s m <;> intros <;> exact { h with }

theorem Joining.step {a : Action} (h : Joining s) (hs : s.step a = some s') : Joining s' := by
  obtain ⟨ha, rfl⟩ := step_eq_some hs
  cases a with
  | connect P startData =>
    obtain ⟨hp, hw⟩ := of_decide_eq_true ha
    refine { h with stopped := fun he => absurd he hw, add := ?_, adds := fun Q => ?_ }
    · exact forall_mem_append_singleton h.add (by rintro _ _ he; cases he; rfl)
    · show List.countP (isAdd Q) (s.queue ++ [⟨.addMinecraftClient P P, some P⟩]) ≤
        (update s.players P _ Q).phase.awaiting.toNat
      rw [List.countP_append, Function.update_apply]
      have hQ := h.adds Q
      split
      · next he =>
        subst he
        rw [hp] at hQ
        have hzero : s.queue.countP (isAdd Q) = 0 := Nat.le_zero.1 hQ
        rw [hzero]
        simp [isAdd, ClientPhase.awaiting]
      · next he =>
        have hne : isAdd Q ⟨.addMinecraftClient P P, some P⟩ = false := by
          simp [isAdd, Ne.symm he]
        rw [List.countP_singleton, hne]
        exact hQ
  | joinFails P =>
    obtain ⟨-, hw⟩ := of_decide_eq_true ha
    refine { h with adds := fun Q => ?_ }
    show s.queue.countP (isAdd Q) ≤ _
    rw [h.stopped hw]
    exact Nat.zero_le _
  | sendStart P id startData =>
    obtain ⟨hp, hw⟩ := of_decide_eq_true ha
    refine h.update_player (by rw [hp]; rfl) (fun he => absurd he hw)
      (forall_mem_append_singleton h.add (by simp)) (fun Q => ?_)
    rw [List.countP_append, List.countP_singleton]; rfl
  | clientRead P id chunk => exact h.offer rfl (by simp)
  | clientFinish P id => exact h.offer (by rw [(of_decide_eq_true ha).1]; rfl) (by simp)
  | clientReadEnds P | clientWriterTake P _ | clientWriterDrained P | clientWriterWrite P _
  | clientWriterFlushed P | clientWriterFlushFails P | clientWriterClosed P | clientWriterFails P
  | clientWriterAborted P => exact h.update_phase rfl
  | handleWriter m =>
    obtain ⟨hw, hm⟩ := of_decide_eq_true ha
    exact h.handleMessage hw hm
  | handleWriterFeed | handleWriterEmpty | handleWriterFlushed =>
    exact { h with stopped := (fun he => by cases he) }
  | handleWriterFails | handleWriterAborted => exact joining_endWriter
  | handleReader f =>
    have hs : Joining { s with up := s.up.pop f } := { h with }
    exact hs.handleFrame f
  | readerHandler f =>
    have hs : Joining { s with down := s.down.pop f } := { h with }
    exact hs.readerFrame f
  | writerHandler m =>
    have hs : Joining { s with toProxy := s.toProxy.tail } := { h with }
    exact hs.backendMessage m
  | handleReaderEnds | handleEnds | downWrite | upWrite | readerDisconnect | readerDisconnectClosed
  | readerPing | readerEnds | writerHandlerFeed | writerHandlerEmpty | writerHandlerFlushed
  | writerHandlerFails | writerHandlerAborted | backendConnected | backendConnectFails | backendRecv
  | backendWrite | backendWritten | backendWriteFails | backendClosed | backendRead | backendReadEnds
  | backendDropped => exact { h with }

/-! ### Owners -/

theorem Assigned.joining (h : Assigned s) : Joining s := ⟨h.stopped, h.add, h.adds⟩

/-- The new owner of an id that is given for the first time. -/
theorem Assigned.give (h : Assigned s) {id : ClientID} {P : Player} (hnew : s.owner id = none)
    (hP : ∀ id', s.owner id' ≠ some P) :
    (∀ Q ≠ P, PhaseOwns (update s.owner id (some P)) Q (s.players Q).phase) ∧
      ∀ id₁ id₂ Q, update s.owner id (some P) id₁ = some Q → update s.owner id (some P) id₂ = some Q →
        id₁ = id₂ := by
  have hne : ∀ {id' : ClientID} {Q : Player}, s.owner id' = some Q → id' ≠ id := by
    rintro id' Q he rfl
    rw [hnew] at he; cases he
  refine ⟨fun Q hQ => ⟨fun id' he => ?_, fun id' he => ?_⟩, fun id₁ id₂ Q h₁ h₂ => ?_⟩
  · have howner := (h.player Q).given id' he
    rw [Function.update_of_ne (hne howner)]; exact howner
  · rw [Function.update_apply] at he
    split at he
    · cases he; exact absurd rfl hQ
    · exact (h.player Q).owned id' he
  · rw [Function.update_apply] at h₁ h₂
    split at h₁ <;> split at h₂
    · next e₁ e₂ => rw [e₁, e₂]
    · cases h₁; exact absurd h₂ (hP id₂)
    · cases h₂; exact absurd h₁ (hP id₁)
    · exact h.inj id₁ id₂ Q h₁ h₂

theorem Assigned.of_joining (hj : Joining s') (hplayer : ∀ P, PhaseOwns s'.owner P (s'.players P).phase)
    (hinj : ∀ id id' P, s'.owner id = some P → s'.owner id' = some P → id = id')
    (hslot : ∀ id P, s'.distributor.getById id = some P → s'.owner id = some P) : Assigned s' :=
  ⟨hj.stopped, hj.add, hj.adds, hplayer, hinj, hslot⟩

theorem Assigned.handleMessage (h : Assigned s) (hw : s.writer = .recv ∨ s.writer = .tryRecv)
    {m : Marked Player (ClientToProxy Player Player)} (hm : s.queue.head? = some m)
    (hnew : ∀ id ∈ s.givenId (.handleWriter m), s.owner id = none) :
    Assigned ({ s with queue := s.queue.tail }.handleMessage m) := by
  have hj := h.joining.handleMessage hw hm
  revert hj
  apply handleMessage_cases (motive := fun t => Joining t → Assigned t) { s with queue := s.queue.tail } m
  case full => intro _ _ _ _ hj; exact .of_joining hj h.player h.inj h.slot
  case joined =>
    intro P tx id d startData hv hins hphase hj
    obtain ⟨rfl, hawait, -⟩ := h.joining.awaiting hm hv
    have hid := hnew id (givenId_eq_some hv hins)
    obtain ⟨hplayer, hinj⟩ := h.give hid ((h.player P).of_awaiting hawait)
    refine .of_joining hj (fun Q => ?_) hinj (slot_insert h.slot hins)
    show PhaseOwns _ Q (update s.players P _ Q).phase
    rw [Function.update_apply]
    split
    · next he => subst he; exact .joined ((h.player Q).of_awaiting hawait) id startData
    · next hQ => exact hplayer Q hQ
  case gone =>
    intro P tx id d hv hins hphase
    obtain ⟨startData, hp⟩ := h.joining.awaitId hm hv
    exact absurd hp (hphase startData)
  case packet => intro _ _ _ hj; exact .of_joining hj h.player h.inj h.slot
  case ping => intro _ _ hj; exact .of_joining hj h.player h.inj h.slot
  case removed =>
    intro _ _ _ hj
    exact .of_joining hj h.player h.inj fun id P hg => h.slot id P (getById_removeById_eq_some hg)
  case unknown =>
    intro _ _ _ hj
    exact .of_joining hj h.player h.inj fun id P hg => h.slot id P (getById_removeById_eq_some hg)

theorem Assigned.handleFrame (h : Assigned s) (f : Marked Conn SocketPacket) :
    Assigned (s.handleFrame f) := by
  have hj := h.joining.handleFrame f
  revert hj
  apply handleFrame_cases (motive := fun t => Joining t → Assigned t) s f
  case disconnect =>
    intro id P hv hg hj
    exact .of_joining hj (forall_players (R := fun Q p => PhaseOwns s.owner Q p.phase) h.player (h.player P))
      h.inj fun id P hg => h.slot id P (getById_removeById_eq_some hg)
  case disconnectNone =>
    intro _ _ _ hj
    exact .of_joining hj h.player h.inj fun id P hg => h.slot id P (getById_removeById_eq_some hg)
  case data =>
    intro id pkg P hv hg hj
    refine .of_joining hj (forall_players (R := fun Q p => PhaseOwns s.owner Q p.phase) h.player ?_)
      h.inj h.slot
    rw [PlayerState.send]
    split <;> exact h.player P
  case dataNone => intros; exact h
  case ping => intro _ _ hj; exact .of_joining hj h.player h.inj h.slot
  case other => intros; exact h

theorem Assigned.readerFrame (h : Assigned s) (f : Marked Player SocketPacket) :
    Assigned (s.readerFrame f) := by
  apply readerFrame_cases (motive := Assigned) s f <;> intros <;> exact { h with }

theorem Assigned.backendMessage (h : Assigned s) (m : Marked Conn BackendToProxy) :
    Assigned (s.backendMessage m) := by
  apply backendMessage_cases (motive := Assigned) s m <;> intros <;> exact { h with }

theorem Assigned.step {a : Action} (h : Assigned s) (hnew : ∀ id ∈ s.givenId a, s.owner id = none)
    (hs : s.step a = some s') : Assigned s' := by
  have hj := h.joining.step hs
  obtain ⟨ha, rfl⟩ := step_eq_some hs
  -- one player goes on, with the id it had
  have hplayer : ∀ {P : Player} {p : PlayerState} {q : List (Marked Player (ClientToProxy Player Player))},
      p.phase.given? = (s.players P).phase.given? → ((s.players P).phase = .failed → p.phase = .failed) →
      Joining { s with players := update s.players P p, queue := q } →
      Assigned { s with players := update s.players P p, queue := q } := fun {P} _ _ hgiven hfailed hj =>
    .of_joining hj (forall_players (R := fun Q p => PhaseOwns s.owner Q p.phase) h.player
      ((h.player P).congr hgiven hfailed)) h.inj h.slot
  cases a with
  | connect P startData =>
    have hp := (of_decide_eq_true ha).1
    exact hplayer (by rw [hp]; rfl) (fun he => by rw [hp] at he; cases he) hj
  | joinFails P =>
    exact .of_joining hj (forall_players (R := fun Q p => PhaseOwns s.owner Q p.phase) h.player
      ⟨fun _ he => (by cases he), fun _ _ => .inr rfl⟩) h.inj h.slot
  | sendStart P id startData =>
    have hp := (of_decide_eq_true ha).1
    exact hplayer (by rw [hp]; rfl) (fun he => by rw [hp] at he; cases he) hj
  | clientRead P id chunk => exact hplayer rfl (fun hf => hf) hj
  | clientFinish P id =>
    have hp := (of_decide_eq_true ha).1
    exact hplayer (by rw [hp]; rfl) (fun he => by rw [hp] at he; cases he) hj
  | clientReadEnds P | clientWriterTake P _ | clientWriterDrained P | clientWriterWrite P _
  | clientWriterFlushed P | clientWriterFlushFails P | clientWriterClosed P | clientWriterFails P
  | clientWriterAborted P => exact hplayer rfl (fun hf => hf) hj
  | handleWriter m =>
    obtain ⟨hw, hm⟩ := of_decide_eq_true ha
    exact h.handleMessage hw hm hnew
  | handleWriterFeed | handleWriterEmpty | handleWriterFlushed | handleWriterFails | handleWriterAborted =>
    exact .of_joining hj h.player h.inj h.slot
  | handleReader f =>
    have hs : Assigned { s with up := s.up.pop f } := { h with }
    exact hs.handleFrame f
  | readerHandler f =>
    have hs : Assigned { s with down := s.down.pop f } := { h with }
    exact hs.readerFrame f
  | writerHandler m =>
    have hs : Assigned { s with toProxy := s.toProxy.tail } := { h with }
    exact hs.backendMessage m
  | handleReaderEnds | handleEnds | downWrite | upWrite | readerDisconnect | readerDisconnectClosed
  | readerPing | readerEnds | writerHandlerFeed | writerHandlerEmpty | writerHandlerFlushed
  | writerHandlerFails | writerHandlerAborted | backendConnected | backendConnectFails | backendRecv
  | backendWrite | backendWritten | backendWriteFails | backendClosed | backendRead | backendReadEnds
  | backendDropped => exact { h with }

end Session
end CraftIP
