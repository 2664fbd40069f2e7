import CraftIP.Session.Assigned
import CraftIP.Session.Removal
import CraftIP.Session.Uplink

/-!
# What a slot waits for

A slot is given to a player that is waiting for an id, and the player's final message empties it if nothing
did before. So a taken slot's player is still to be removed, unless `handle_writer` has ended and drops the
message, and no slot stays taken after the final messages (`slot_awaits_removal`).
-/

namespace CraftIP
open Function (update)

namespace Session

/-- The slots' players, and who has sent the messages that remove an id. -/
structure Occupied (s : Session) : Prop where
  remove : ∀ m ∈ s.queue, ∀ id, m.val = .removeMinecraftClient id →
    ∃ P, m.of = some P ∧ (s.players P).phase = .finished id
  owned : ∀ id P, s.distributor.getById id = some P → s.owner id = some P
  given : s.writer ≠ .ended → ∀ id P, s.distributor.getById id = some P →
    (s.players P).phase.given? = some id
  waits : s.writer ≠ .ended → ∀ id P, s.distributor.getById id = some P →
    (s.players P).phase.removes? = some id ∨ ⟨.removeMinecraftClient id, some P⟩ ∈ s.queue

theorem occupied_init : Occupied init where
  remove := by simp [init]
  owned id P h := by simp [init] at h
  given _ id P h := by simp [init] at h
  waits _ id P h := by simp [init] at h

variable {s s' : Session}

theorem subset_offer (m : Marked Player (ClientToProxy Player Player)) : ∀ x ∈ s.queue, x ∈ s.offer m := by
  intro x hx
  rw [offer]
  split
  · exact hx
  · exact List.mem_append_left _ hx

theorem mem_offer_self (hw : s.writer ≠ .ended) (m : Marked Player (ClientToProxy Player Player)) :
    m ∈ s.offer m := by
  rw [offer, if_neg hw]
  exact List.mem_append_right _ (List.mem_singleton_self m)

theorem Occupied.endWriter (h : Occupied s) : Occupied s.endWriter :=
  { h with
    remove := (fun _ hm => by cases hm)
    given := fun hw => absurd rfl hw
    waits := fun hw => absurd rfl hw }

/-- A player goes on, and may add to the queue. -/
theorem Occupied.update_player (h : Occupied s) {P : Player} {p : PlayerState}
    {q : List (Marked Player (ClientToProxy Player Player))}
    (hfinished : ∀ id, (s.players P).phase = .finished id → p.phase = .finished id)
    (hgiven : s.writer ≠ .ended → ∀ id, (s.players P).phase.given? = some id → p.phase.given? = some id)
    (hwaits : s.writer ≠ .ended → ∀ id, (s.players P).phase.removes? = some id →
      p.phase.removes? = some id ∨ ⟨.removeMinecraftClient id, some P⟩ ∈ q)
    (hq : ∀ m ∈ s.queue, m ∈ q)
    (hremove : ∀ m ∈ q, ∀ id, m.val = .removeMinecraftClient id →
      m ∈ s.queue ∨ m.of = some P ∧ p.phase = .finished id) :
    Occupied { s with players := update s.players P p, queue := q } where
  owned := h.owned
  remove m hm id hv := by
    show ∃ Q, m.of = some Q ∧ (update s.players P p Q).phase = .finished id
    rcases hremove m hm id hv with hold | ⟨hof, hp⟩
    · obtain ⟨Q, hof, hQ⟩ := h.remove m hold id hv
      refine ⟨Q, hof, ?_⟩
      rw [Function.update_apply]
      split
      · next he => subst he; exact hfinished id hQ
      · exact hQ
    · exact ⟨P, hof, by rw [Function.update_self]; exact hp⟩
  given hw id Q hslot := by
    show (update s.players P p Q).phase.given? = some id
    have hQ := h.given hw id Q hslot
    rw [Function.update_apply]
    split
    · next he => subst he; exact hgiven hw id hQ
    · exact hQ
  waits hw id Q hslot := by
    show (update s.players P p Q).phase.removes? = some id ∨ ⟨.removeMinecraftClient id, some Q⟩ ∈ q
    have hQ := h.waits hw id Q hslot
    rw [Function.update_apply]
    split
    · next he =>
      subst he
      exact hQ.elim (hwaits hw id) fun hm => .inr (hq _ hm)
    · exact hQ.imp_right (hq _)

/-- A player that sends nothing and whose phase stays. -/
theorem Occupied.update_phase (h : Occupied s) {P : Player} {p : PlayerState}
    (hp : p.phase = (s.players P).phase) : Occupied { s with players := update s.players P p } := by
  refine h.update_player (q := s.queue) ?_ ?_ ?_ (fun _ hm => hm) (fun m hm _ _ => .inl hm)
  · rw [hp]; exact fun _ he => he
  · rw [hp]; exact fun _ _ he => he
  · rw [hp]; exact fun _ _ he => .inl he

theorem removeById_subset {d : Distributor Player} {p : ClientID → Player → Prop} {id : ClientID}
    (h : ∀ id P, d.getById id = some P → p id P) :
    ∀ id' P, (d.removeById id).2.getById id' = some P → p id' P :=
  fun id' P hg => h id' P (getById_removeById_eq_some hg)

theorem Occupied.handleFrame (h : Occupied s) (f : Marked Conn SocketPacket) :
    Occupied (s.handleFrame f) := by
  have hremove : ∀ id, Occupied { s with distributor := (s.distributor.removeById id).2 } := fun id =>
    { h with
      owned := removeById_subset h.owned
      given := fun hw => removeById_subset (h.given hw)
      waits := fun hw => removeById_subset (h.waits hw) }
  apply handleFrame_cases (motive := Occupied) s f
  case disconnect => intro id P hv hg; exact (hremove id).update_phase rfl
  case disconnectNone => intro id hv hg; exact hremove id
  case data =>
    intro id pkg P hv hg
    exact h.update_phase (by rw [PlayerState.send]; split <;> rfl)
  case dataNone => intros; exact h
  case ping =>
    intro ping hv
    exact { h with
      remove := forall_mem_offer h.remove (by simp)
      waits := fun hw id P hslot => (h.waits hw id P hslot).imp_right (subset_offer _ _) }
  case other => intros; exact h

theorem mem_tail_of_ne {α : Type} {l : List α} {m x : α} (hm : l.head? = some m) (hx : x ∈ l)
    (hne : x ≠ m) : x ∈ l.tail := by
  obtain ⟨rest, rfl⟩ := List.head?_eq_some_iff.1 hm
  exact (List.mem_cons.1 hx).resolve_left hne

/-- A slot that is still taken after a message is not the one the message empties. -/
theorem Occupied.waits_tail (h : Occupied s) {m : Marked Player (ClientToProxy Player Player)}
    (hm : s.queue.head? = some m) (hw : s.writer ≠ .ended) {id : ClientID} {P : Player}
    (hslot : s.distributor.getById id = some P) (hv : m.val ≠ .removeMinecraftClient id) :
    (s.players P).phase.removes? = some id ∨ ⟨.removeMinecraftClient id, some P⟩ ∈ s.queue.tail :=
  (h.waits hw id P hslot).imp_right fun hq => mem_tail_of_ne hm hq fun he => hv (he ▸ rfl)

/-- A player that waits for an id is in no slot. -/
theorem Occupied.not_awaiting (h : Occupied s) (hw : s.writer ≠ .ended) {id : ClientID} {P : Player}
    {startData : List UInt8} (hp : (s.players P).phase = .awaitId startData) :
    s.distributor.getById id ≠ some P := by
  intro hslot
  have he := h.given hw id P hslot
  rw [hp] at he
  cases he

theorem Occupied.handleMessage (h : Occupied s) (hj : Joining s)
    (hw : s.writer = .recv ∨ s.writer = .tryRecv) {m : Marked Player (ClientToProxy Player Player)}
    (hm : s.queue.head? = some m) : Occupied ({ s with queue := s.queue.tail }.handleMessage m) := by
  have hne := writer_ne_ended hw
  have hremove := forall_mem_tail h.remove
  -- a message that leaves the slots as they are
  have hkeep : ∀ {w : HandleWriter}, (∀ id, m.val ≠ .removeMinecraftClient id) →
      Occupied { s with queue := s.queue.tail, writer := w } := fun hv =>
    { h with
      remove := hremove
      given := fun _ => h.given hne
      waits := fun _ id P hslot => h.waits_tail hm hne hslot (hv id) }
  have hempty : ∀ {w : HandleWriter} {id : ClientID}, m.val = .removeMinecraftClient id →
      Occupied { s with
        queue := s.queue.tail, distributor := (s.distributor.removeById id).2, writer := w } := by
    intro w id hv
    refine { h with
      remove := hremove
      owned := removeById_subset h.owned
      given := fun _ => removeById_subset (h.given hne)
      waits := fun _ id' P hslot => ?_ }
    have hold := getById_removeById_eq_some hslot
    refine h.waits_tail hm hne hold fun hv' => ?_
    obtain rfl : id = id' := ClientToProxy.removeMinecraftClient.inj (hv.symm.trans hv')
    change (s.distributor.removeById id).2.getById id = some P at hslot
    rw [Distributor.getById_removeById, if_pos rfl] at hslot
    cases hslot
  apply handleMessage_cases (motive := Occupied) { s with queue := s.queue.tail } m
  case full => intro _ _ hv _; exact (hkeep (w := s.writer) (by simp [hv])).endWriter
  case joined =>
    intro P tx id d startData hv hins hphase
    obtain ⟨rfl, -, -⟩ := hj.awaiting hm hv
    have hget := (Distributor.insert_eq_ok hins).2.2
    -- the slots other than the new one are other players'
    have hother : ∀ {id' : ClientID} {Q : Player}, d.getById id' = some Q →
        id = id' ∧ P = Q ∨ s.distributor.getById id' = some Q ∧ Q ≠ P ∧ id ≠ id' := by
      intro id' Q hslot
      rw [hget id'] at hslot
      split at hslot
      · next he => exact .inl ⟨he, Option.some.inj hslot⟩
      · next he => exact .inr ⟨hslot, fun hQ => h.not_awaiting hne hphase (hQ ▸ hslot), he⟩
    refine
      { remove := fun x hx id' he => ?_
        owned := fun id' Q hslot => ?_
        given := fun _ id' Q hslot => ?_
        waits := fun _ id' Q hslot => ?_ }
    · obtain ⟨Q, hof, hQ⟩ := hremove x hx id' he
      refine ⟨Q, hof, ?_⟩
      have hne : Q ≠ P := by rintro rfl; cases hphase.symm.trans hQ
      show (update s.players P _ Q).phase = _
      rw [Function.update_of_ne hne]; exact hQ
    · show update s.owner id (some P) id' = some Q
      rcases hother hslot with ⟨rfl, rfl⟩ | ⟨hold, -, hne⟩
      · exact Function.update_self id (some P) s.owner
      · rw [Function.update_of_ne (Ne.symm hne)]; exact h.owned id' Q hold
    · show (update s.players P _ Q).phase.given? = some id'
      rcases hother hslot with ⟨rfl, rfl⟩ | ⟨hold, hne', -⟩
      · rw [Function.update_self]; rfl
      · rw [Function.update_of_ne hne']; exact h.given hne id' Q hold
    · show (update s.players P _ Q).phase.removes? = some id' ∨ _ ∈ s.queue.tail
      rcases hother hslot with ⟨rfl, rfl⟩ | ⟨hold, hne', -⟩
      · exact .inl (by rw [Function.update_self]; rfl)
      · rw [Function.update_of_ne hne']
        exact h.waits_tail hm hne hold (by rw [hv]; simp)
  case gone =>
    intro P tx id d hv hins hphase
    obtain ⟨startData, hp⟩ := hj.awaitId hm hv
    exact absurd hp (hphase startData)
  case packet => intro _ _ hv; exact hkeep (by simp [hv])
  case ping => intro _ hv; exact hkeep (by simp [hv])
  case removed => intro _ hv _; exact hempty hv
  case unknown => intro _ hv _; exact hempty hv

theorem Occupied.readerFrame (h : Occupied s) (f : Marked Player SocketPacket) :
    Occupied (s.readerFrame f) := by
  apply readerFrame_cases (motive := Occupied) s f <;> intros <;> exact { h with }

theorem Occupied.backendMessage (h : Occupied s) (m : Marked Conn BackendToProxy) :
    Occupied (s.backendMessage m) := by
  apply backendMessage_cases (motive := Occupied) s m <;> intros <;> exact { h with }

theorem Occupied.step {a : Action} (h : Occupied s) (hj : Joining s) (hs : s.step a = some s') : Occupied s' := by
  obtain ⟨ha, rfl⟩ := step_eq_some hs
  cases a with
  | connect P startData =>
    obtain ⟨hp, hw⟩ := of_decide_eq_true ha
    refine h.update_player (fun id he => ?_) (fun _ id he => ?_) (fun _ id he => ?_)
      (fun m hm => List.mem_append_left _ hm) ?_
    · rw [hp] at he; cases he
    · rw [hp] at he; cases he
    · rw [hp] at he; cases he
    · exact forall_mem_append_singleton (fun m hm _ _ => .inl hm) (by simp)
  | joinFails P =>
    obtain ⟨hp, hw⟩ := of_decide_eq_true ha
    refine h.update_player (q := s.queue) (fun id he => ?_) (fun hne => absurd hw hne)
      (fun hne => absurd hw hne) (fun _ hm => hm) (fun m hm _ _ => .inl hm)
    rw [he] at hp; cases hp
  | sendStart P id startData =>
    obtain ⟨hp, hw⟩ := of_decide_eq_true ha
    refine h.update_player (fun id he => ?_) (fun _ id he => ?_) (fun _ id he => ?_)
      (fun m hm => List.mem_append_left _ hm) ?_
    · rw [hp] at he; cases he
    · rw [hp] at he; exact he
    · rw [hp] at he; exact .inl he
    · exact forall_mem_append_singleton (fun m hm _ _ => .inl hm) (by simp)
  | clientRead P id chunk =>
    exact h.update_player (fun _ he => he) (fun _ _ he => he) (fun _ _ he => .inl he) (subset_offer _)
      (forall_mem_offer (fun m hm _ _ => .inl hm) (by simp))
  | clientFinish P id =>
    obtain ⟨hp, -⟩ := of_decide_eq_true ha
    refine h.update_player (fun id' he => ?_) (fun _ id' he => ?_) (fun hw id' he => ?_) (subset_offer _)
      (forall_mem_offer (fun m hm _ _ => .inl hm) fun id' he => ?_)
    · rw [hp] at he; cases he
    · rw [hp] at he; exact he
    · rw [hp] at he
      obtain rfl : id = id' := Option.some.inj he
      exact .inr (mem_offer_self hw _)
    · cases he; exact .inr ⟨rfl, rfl⟩
  | clientReadEnds P | clientWriterTake P _ | clientWriterDrained P | clientWriterWrite P _
  | clientWriterFlushed P | clientWriterFlushFails P | clientWriterClosed P | clientWriterFails P
  | clientWriterAborted P => exact h.update_phase rfl
  | handleWriter m =>
    obtain ⟨hw, hm⟩ := of_decide_eq_true ha
    exact h.handleMessage hj hw hm
  | handleWriterFeed f =>
    have hw : s.writer ≠ .ended := by rw [of_decide_eq_true ha]; simp
    exact { h with given := fun _ => h.given hw, waits := fun _ => h.waits hw }
  | handleWriterEmpty =>
    have hw : s.writer ≠ .ended := by rw [(of_decide_eq_true ha).1]; simp
    exact { h with given := fun _ => h.given hw, waits := fun _ => h.waits hw }
  | handleWriterFlushed =>
    have hw : s.writer ≠ .ended := by rw [(of_decide_eq_true ha).1]; simp
    exact { h with given := fun _ => h.given hw, waits := fun _ => h.waits hw }
  | handleWriterFails | handleWriterAborted => exact h.endWriter
  | handleReader f =>
    have hs : Occupied { s with up := s.up.pop f } := { h with }
    exact hs.handleFrame f
  | readerHandler f =>
    have hs : Occupied { s with down := s.down.pop f } := { h with }
    exact hs.readerFrame f
  | writerHandler m =>
    have hs : Occupied { s with toProxy := s.toProxy.tail } := { h with }
    exact hs.backendMessage m
  | handleReaderEnds | handleEnds | downWrite | upWrite | readerDisconnect | readerDisconnectClosed
  | readerPing | readerEnds | writerHandlerFeed | writerHandlerEmpty | writerHandlerFlushed
  | writerHandlerFails | writerHandlerAborted | backendConnected | backendConnectFails | backendRecv
  | backendWrite | backendWritten | backendWriteFails | backendClosed | backendRead | backendReadEnds
  | backendDropped => exact { h with }

/-! ### Along a run -/

/-- A player that has finished stays so. -/
theorem finished_step {a : Action} {P : Player} {id : ClientID} (hs : s.step a = some s')
    (hP : (s.players P).phase = .finished id) : (s'.players P).phase = .finished id := by
  obtain ⟨ha, rfl⟩ := step_eq_some hs
  have hplayers : ∀ {Q : Player} {p : PlayerState},
      ((s.players Q).phase = .finished id → p.phase = .finished id) →
      (update s.players Q p P).phase = .finished id := by
    intro Q p hp
    rw [Function.update_apply]
    split
    · next he => subst he; exact hp hP
    · exact hP
  cases a with
  | connect Q startData => exact hplayers fun he => by rw [(of_decide_eq_true ha).1] at he; cases he
  | joinFails Q =>
    refine hplayers fun he => ?_
    have hjoin := (of_decide_eq_true ha).1
    rw [he] at hjoin
    cases hjoin
  | sendStart Q id' startData => exact hplayers fun he => by rw [(of_decide_eq_true ha).1] at he; cases he
  | clientFinish Q id' => exact hplayers fun he => by rw [(of_decide_eq_true ha).1] at he; cases he
  | clientRead Q _ _ | clientReadEnds Q | clientWriterTake Q _ | clientWriterDrained Q
  | clientWriterWrite Q _ | clientWriterFlushed Q | clientWriterFlushFails Q | clientWriterClosed Q
  | clientWriterFails Q | clientWriterAborted Q => exact hplayers (fun he => he)
  | handleWriter m =>
    apply handleMessage_cases (motive := fun t => (t.players P).phase = .finished id)
      { s with queue := s.queue.tail } m
    case joined =>
      intro Q tx id' d startData _ _ hphase
      exact hplayers fun he => by cases hphase.symm.trans he
    all_goals intros; exact hP
  | handleReader f =>
    apply handleFrame_cases (motive := fun t => (t.players P).phase = .finished id)
      { s with up := s.up.pop f } f
    case disconnect => intros; exact hplayers (fun he => he)
    case data => intros; exact hplayers fun he => by rw [PlayerState.send]; split <;> exact he
    all_goals intros; exact hP
  | readerHandler f =>
    apply readerFrame_cases (motive := fun t => (t.players P).phase = .finished id)
      { s with down := s.down.pop f } f <;> intros <;> exact hP
  | writerHandler m =>
    apply backendMessage_cases (motive := fun t => (t.players P).phase = .finished id)
      { s with toProxy := s.toProxy.tail } m <;> intros <;> exact hP
  | _ => exact hP

/-- A slot that is given now is given to the player whose message is taken off the queue. -/
theorem getById_step {a : Action} {P : Player} {id : ClientID} (hj : Joining s) (hs : s.step a = some s')
    (hslot : s'.distributor.getById id = some P) :
    s.distributor.getById id = some P ∨ (s.players P).phase.awaiting = true := by
  obtain ⟨ha, rfl⟩ := step_eq_some hs
  revert hslot
  cases a with
  | handleWriter m =>
    obtain ⟨-, hm⟩ := of_decide_eq_true ha
    have hinsert : ∀ {Q tx : Player} {id' : ClientID} {d : Distributor Player},
        m.val = .addMinecraftClient Q tx → s.distributor.insert tx = .ok (id', d) →
        d.getById id = some P → s.distributor.getById id = some P ∨ (s.players P).phase.awaiting = true := by
      intro Q tx id' d hv hins hslot
      obtain ⟨rfl, hawait, -⟩ := hj.awaiting hm hv
      rw [(Distributor.insert_eq_ok hins).2.2 id] at hslot
      split at hslot
      · obtain rfl : Q = P := Option.some.inj hslot
        exact .inr hawait
      · exact .inl hslot
    apply handleMessage_cases
      (motive := fun t => t.distributor.getById id = some P →
        s.distributor.getById id = some P ∨ (s.players P).phase.awaiting = true) { s with queue := s.queue.tail } m
    case joined => intro _ _ _ _ _ hv hins _; exact hinsert hv hins
    case gone => intro _ _ _ _ hv hins _; exact hinsert hv hins
    case removed => intro _ _ _ hslot; exact .inl (getById_removeById_eq_some hslot)
    case unknown => intro _ _ _ hslot; exact .inl (getById_removeById_eq_some hslot)
    all_goals intros; exact .inl ‹_›
  | handleReader f =>
    apply handleFrame_cases
      (motive := fun t => t.distributor.getById id = some P →
        s.distributor.getById id = some P ∨ (s.players P).phase.awaiting = true) { s with up := s.up.pop f } f
    case disconnect => intro _ _ _ _ hslot; exact .inl (getById_removeById_eq_some hslot)
    case disconnectNone => intro _ _ _ hslot; exact .inl (getById_removeById_eq_some hslot)
    all_goals intros; exact .inl ‹_›
  | readerHandler f =>
    apply readerFrame_cases
      (motive := fun t => t.distributor.getById id = some P →
        s.distributor.getById id = some P ∨ (s.players P).phase.awaiting = true) { s with down := s.down.pop f } f <;>
      intros <;> exact .inl ‹_›
  | writerHandler m =>
    apply backendMessage_cases
      (motive := fun t => t.distributor.getById id = some P →
        s.distributor.getById id = some P ∨ (s.players P).phase.awaiting = true) { s with toProxy := s.toProxy.tail } m <;>
      intros <;> exact .inl ‹_›
  | _ => exact .inl

/-- The player's final message with the id was taken off the queue. -/
def Processed (as : List Action) (id : ClientID) (P : Player) : Prop :=
  .handleWriter ⟨.removeMinecraftClient id, some P⟩ ∈ as

instance (as : List Action) (id : ClientID) (P : Player) : Decidable (Processed as id P) :=
  inferInstanceAs (Decidable (_ ∈ as))

/-- Whose final message was taken off the queue has finished and is in no slot. -/
structure Vacated (as : List Action) (s : Session) : Prop where
  joining : Joining s
  occupied : Occupied s
  finished : ∀ id P, Processed as id P → (s.players P).phase = .finished id
  free : ∀ id P, Processed as id P → ∀ id', s.distributor.getById id' ≠ some P

theorem Vacated.step {as : List Action} {a : Action} (h : Vacated as s) (hs : s.step a = some s') :
    Vacated (as ++ [a]) s' := by
  have hnew : ∀ {id : ClientID} {P : Player}, Processed (as ++ [a]) id P →
      Processed as id P ∨ a = .handleWriter ⟨.removeMinecraftClient id, some P⟩ := fun hp =>
    (List.mem_append.1 hp).imp_right fun he => (List.mem_singleton.1 he).symm
  -- the message is still queued when it is taken off, and only a finished player has sent one
  have hfinished : ∀ {id : ClientID} {P : Player}, Processed (as ++ [a]) id P →
      (s.players P).phase = .finished id := by
    intro id P hp
    rcases hnew hp with hold | rfl
    · exact h.finished id P hold
    · have hm := (of_decide_eq_true (step_eq_some hs).1).2
      obtain ⟨Q, hof, hQ⟩ := h.occupied.remove _ (List.mem_of_mem_head? hm) id rfl
      obtain rfl : P = Q := Option.some.inj hof
      exact hQ
  refine
    { joining := h.joining.step hs
      occupied := h.occupied.step h.joining hs
      finished := fun id P hp => finished_step hs (hfinished hp)
      free := fun id P hp id' hslot => ?_ }
  have hphase := hfinished hp
  have hbefore : s.distributor.getById id' = some P := by
    refine (getById_step h.joining hs hslot).resolve_right fun hawait => ?_
    rw [hphase] at hawait
    cases hawait
  rcases hnew hp with hold | rfl
  · exact h.free id P hold id' hbefore
  · obtain ⟨ha, rfl⟩ := step_eq_some hs
    obtain ⟨hw, -⟩ := of_decide_eq_true ha
    have hgiven := h.occupied.given (writer_ne_ended hw) id' P hbefore
    rw [hphase] at hgiven
    obtain rfl : id = id' := Option.some.inj hgiven
    have hcleared : ({ s with queue := s.queue.tail }.handleMessage
        ⟨.removeMinecraftClient id, some P⟩).distributor = (s.distributor.removeById id).2 := by
      simp only [handleMessage]
      split <;> rfl
    change ({ s with queue := s.queue.tail }.handleMessage _).distributor.getById id = some P at hslot
    rw [hcleared, Distributor.getById_removeById, if_pos rfl] at hslot
    cases hslot

theorem vacated {as : List Action} (h : Lts.run step init as = some s) : Vacated as s :=
  Lts.run_invariant (I := Vacated)
    ⟨joining_init, occupied_init, (fun _ _ h => by cases h), (fun _ _ h => by cases h)⟩
    (fun _ h hs => h.step hs) h

/-- In every run, a taken slot is its last owner's, whose final message was not yet taken off the queue:
its task is running or the message is queued, unless `handle_writer` has ended and takes none any more.
When all owners' final messages were taken off the queue, every slot is free. -/
theorem slot_awaits_removal {as : List Action} (h : Lts.run step init as = some s) :
    (∀ id P, s.distributor.getById id = some P → s.owner id = some P ∧ ¬ Processed as id P ∧
      ((s.players P).phase.removes? = some id ∨ ⟨.removeMinecraftClient id, some P⟩ ∈ s.queue ∨
        s.writer = .ended)) ∧
    ((∀ id P, s.owner id = some P → Processed as id P) → ∀ id, s.distributor.getById id = none) := by
  have hv := vacated h
  refine ⟨fun id P hslot => ⟨hv.occupied.owned id P hslot, fun hp => hv.free id P hp id hslot, ?_⟩,
    fun hall id => ?_⟩
  · by_cases hw : s.writer = .ended
    · exact .inr (.inr hw)
    · exact (hv.occupied.waits hw id P hslot).imp_right .inl
  · rw [Option.eq_none_iff_forall_not_mem]
    exact fun P hslot => hv.free id P (hall id P (hv.occupied.owned id P hslot)) id hslot

/-- The final message of player 0 was taken, that of player 2 was not. -/
theorem slot_awaits_removal_rejoinAndLeave :
    ∃ s, Lts.run step init rejoinAndLeave = some s ∧ Processed rejoinAndLeave 0 0 ∧
      s.distributor.getById 0 = some 2 ∧ s.owner 0 = some 2 ∧ ¬ Processed rejoinAndLeave 0 2 ∧
      s.queue = [⟨.removeMinecraftClient 0, some 2⟩] := by
  obtain ⟨s, hrun, hslot, hqueue⟩ : ∃ s, Lts.run step init rejoinAndLeave = some s ∧
      s.distributor.getById 0 = some 2 ∧ s.queue = [⟨.removeMinecraftClient 0, some 2⟩] := by
    decide +kernel
  obtain ⟨howner, hwaits, -⟩ := (slot_awaits_removal hrun).1 0 2 hslot
  exact ⟨s, hrun, by decide +kernel, hslot, howner, hwaits, hqueue⟩

/-- When `handle_writer` fails first, the message is lost with its channel, and the slot stays taken. -/
theorem slot_awaits_nothing :
    ∃ as s, Lts.run step init as = some s ∧ ∃ id P, s.distributor.getById id = some P ∧
      (s.players P).phase = .finished id ∧ ⟨.removeMinecraftClient id, some P⟩ ∉ s.queue := by
  obtain ⟨s, hrun, hslot, hphase, hqueue⟩ : ∃ s, Lts.run step init
      (joinAndRead ++ [.clientReadEnds 0, .handleWriterFails, .clientFinish 0 0]) = some s ∧
      s.distributor.getById 0 = some 0 ∧ (s.players 0).phase = .finished 0 ∧ s.queue = [] := by
    decide +kernel
  exact ⟨_, s, hrun, 0, 0, hslot, hphase, by rw [hqueue]; exact List.not_mem_nil⟩

end Session
end CraftIP
