import CraftIP.Session.Agreement

/-!
# The two tables are the same when the session rests

A player that is served may lose its connection to a removal that was meant for an earlier connection with
its id: the client then has no connection under an id that the server has given. Where a `ProxyJoin` only
comes when nothing is left that closes an earlier connection with the id, a connection that is forgotten has
asked for it (`Attended`), the server empties the slot of the player it was opened for, and the server's table
is the client's (`rest_same_tables`).
-/

namespace CraftIP
open Function (update)

/-- Past the wait for an id, if it came to it. -/
def ClientPhase.entered : ClientPhase → Bool
  | .absent => false
  | .awaitId _ => false
  | _ => true

theorem mem_marks {ο α : Type} [DecidableEq α] {v : α} {l : List (Marked ο α)} {x : Option ο} :
    x ∈ marks v l ↔ ⟨v, x⟩ ∈ l := by
  rw [marks, List.mem_map]
  constructor
  · rintro ⟨m, hm, rfl⟩
    obtain ⟨hmem, hv⟩ := List.mem_filter.1 hm
    obtain rfl := of_decide_eq_true hv
    exact hmem
  · exact fun hm => ⟨_, List.mem_filter.2 ⟨hm, decide_eq_true rfl⟩, rfl⟩

namespace Session
variable {s s' : Session} {P : Player} {id : ClientID}

/-! ### What a step leaves -/

/-- While `writer_handler` runs, a removal that was asked for stays on its way. -/
theorem closing_step {a : Action} (hs : s.step a = some s') (hne : s'.clientWriter ≠ .ended) :
    s.answers ⊆ s'.answers ∧ ∀ id, s.closing id ⊆ s'.closing id := by
  obtain ⟨ha, rfl⟩ := step_eq_some hs
  have hsame : ∀ {t : Session}, t.answers = s.answers → s.toProxy ⊆ t.toProxy →
      s.answers ⊆ t.answers ∧ ∀ id, s.closing id ⊆ t.closing id := by
    intro t hanswers htoProxy
    refine ⟨by rw [hanswers]; exact List.Subset.refl _, fun id x hx => ?_⟩
    rw [closing, List.mem_append] at hx ⊢
    rw [hanswers]
    exact hx.imp_right fun hx => mem_marks.2 (htoProxy (mem_marks.1 hx))
  cases a with
  | handleWriter m =>
    revert hne
    apply handleMessage_cases (motive := fun t => t.clientWriter ≠ .ended → s.answers ⊆ t.answers ∧
      ∀ id, s.closing id ⊆ t.closing id) { s with queue := s.queue.tail } m <;>
      intros <;> exact hsame rfl (List.Subset.refl _)
  | handleReader f =>
    revert hne
    apply handleFrame_cases (motive := fun t => t.clientWriter ≠ .ended → s.answers ⊆ t.answers ∧
      ∀ id, s.closing id ⊆ t.closing id) { s with up := s.up.pop f } f <;>
      intros <;> exact hsame (by simp only [answers, Link.history_pop]) (List.Subset.refl _)
  | readerHandler f =>
    revert hne
    apply readerFrame_cases (motive := fun t => t.clientWriter ≠ .ended → s.answers ⊆ t.answers ∧
      ∀ id, s.closing id ⊆ t.closing id) { s with down := s.down.pop f } f <;>
      intros <;> exact hsame rfl (List.Subset.refl _)
  | writerHandler m =>
    obtain ⟨hw, hm⟩ := of_decide_eq_true ha
    obtain ⟨q, hq⟩ := List.head?_eq_some_iff.1 hm
    have hanswers : s.up.history = s.answers := (answers_of_recv hw).symm
    -- a message that asks for no removal becomes a frame that is none
    have hkeep : ∀ {w : WriterHandler} (rx : List ClientID), (∀ id, m.val ≠ .removeMinecraftClient id) →
        s.answers ⊆ answers { s with toProxy := s.toProxy.tail, clientWriter := w, disconnectRx := rx } ∧
          ∀ id, s.closing id ⊆
            closing { s with toProxy := s.toProxy.tail, clientWriter := w, disconnectRx := rx } id := by
      intro w rx hv
      have hsub : s.answers ⊆ s.up.history ++ WriterHandler.held w := by
        rw [hanswers]; exact List.subset_append_left _ _
      refine ⟨hsub, fun id x hx => ?_⟩
      rw [closing, List.mem_append, mem_marks, mem_marks] at hx ⊢
      exact hx.imp (fun hx => hsub hx) fun hx => mem_tail_of_ne hm hx fun he => hv id (by rw [← he])
    revert hne
    apply backendMessage_cases (motive := fun t => t.clientWriter ≠ .ended → s.answers ⊆ t.answers ∧
      ∀ id, s.closing id ⊆ t.closing id) { s with toProxy := s.toProxy.tail } m
    case packet => intro id pkg hv _; exact hkeep s.disconnectRx (by simp [hv])
    case ping => intro p hv _; exact hkeep s.disconnectRx (by simp [hv])
    case ends => exact fun hne => absurd rfl hne
    case remove =>
      intro id hv _
      refine ⟨?_, fun id' x hx => ?_⟩
      · show s.answers ⊆ s.up.history ++ _
        rw [hanswers]; exact List.subset_append_left _ _
      · show x ∈ marks _ (s.up.history ++ [_]) ++ marks _ s.toProxy.tail
        rw [hanswers, hq, List.tail_cons,
          marks_move (fun _ _ he => by cases he; rfl) (fun _ _ he => by cases he; rfl) hv, ← hq]
        exact hx
  | upWrite n => exact hsame (by simp only [answers, next, Link.history_write]) (List.Subset.refl _)
  | writerHandlerFeed f =>
    refine hsame ?_ (List.Subset.refl _)
    show (s.up.feed _ f).history ++ [] = _
    rw [Link.history_feed, answers, of_decide_eq_true ha, List.append_nil]; rfl
  | writerHandlerEmpty => exact hsame (by rw [answers, answers, (of_decide_eq_true ha).1]; rfl) (List.Subset.refl _)
  | writerHandlerFlushed => exact hsame (by rw [answers, answers, (of_decide_eq_true ha).1]; rfl) (List.Subset.refl _)
  | writerHandlerFails | writerHandlerAborted => exact absurd rfl hne
  | readerPing | backendRead | backendReadEnds | backendWriteFails =>
    exact hsame rfl (subset_offerBackend _)
  | backendConnectFails c error =>
    exact hsame rfl fun m hm => subset_offerBackend
      (s := { s with toProxy := s.offerBackend ⟨.death error, some c⟩ }) _ m (subset_offerBackend _ m hm)
  | _ => exact hsame rfl (List.Subset.refl _)

/-- Only the two actions of `reader_handler` change what the client has taken, its slots and what its
connections were opened for. -/
theorem client_step {a : Action} (hs : s.step a = some s') (hread : ∀ f, a ≠ .readerHandler f)
    (hdis : ∀ id, a ≠ .readerDisconnect id) : s'.down.taken = s.down.taken ∧ s'.client = s.client ∧
      ∀ c, (s'.conns c).openedFor = (s.conns c).openedFor := by
  obtain ⟨ha, rfl⟩ := step_eq_some hs
  have hconn : ∀ {c : Conn} {x : ClientConnection}, x.openedFor = (s.conns c).openedFor →
      ∀ d, (update s.conns c x d).openedFor = (s.conns d).openedFor := fun hx =>
    forall_conns (R := fun d y => y.openedFor = (s.conns d).openedFor) (fun _ => rfl) hx
  cases a with
  | readerHandler f => exact absurd rfl (hread f)
  | readerDisconnect id => exact absurd rfl (hdis id)
  | handleWriter m =>
    apply handleMessage_cases (motive := fun t => t.down.taken = s.down.taken ∧ t.client = s.client ∧
      ∀ c, (t.conns c).openedFor = (s.conns c).openedFor) { s with queue := s.queue.tail } m <;>
      intros <;> exact ⟨rfl, rfl, fun _ => rfl⟩
  | handleReader f =>
    apply handleFrame_cases (motive := fun t => t.down.taken = s.down.taken ∧ t.client = s.client ∧
      ∀ c, (t.conns c).openedFor = (s.conns c).openedFor) { s with up := s.up.pop f } f <;>
      intros <;> exact ⟨rfl, rfl, fun _ => rfl⟩
  | writerHandler m =>
    apply backendMessage_cases (motive := fun t => t.down.taken = s.down.taken ∧ t.client = s.client ∧
      ∀ c, (t.conns c).openedFor = (s.conns c).openedFor) { s with toProxy := s.toProxy.tail } m <;>
      intros <;> exact ⟨rfl, rfl, fun _ => rfl⟩
  | backendConnected | backendConnectFails | backendRecv | backendWrite | backendWritten | backendWriteFails
  | backendClosed | backendRead | backendReadEnds | backendDropped => exact ⟨rfl, rfl, hconn (by rfl)⟩
  | _ => exact ⟨rfl, rfl, fun _ => rfl⟩

theorem entered_step {a : Action} (hs : s.step a = some s') (h : (s.players P).phase.entered = true) :
    (s'.players P).phase.entered = true := by
  obtain ⟨ha, rfl⟩ := step_eq_some hs
  have hplayer : ∀ {Q : Player} {p : PlayerState},
      ((s.players Q).phase.entered = true → p.phase.entered = true) →
      (update s.players Q p P).phase.entered = true := by
    intro Q p hp
    rw [Function.update_apply]
    split
    · next he => subst he; exact hp h
    · exact h
  cases a with
  | connect Q =>
    refine hplayer fun he => ?_
    rw [(of_decide_eq_true ha).1] at he
    cases he
  | joinFails | sendStart | clientFinish => exact hplayer fun _ => rfl
  | clientRead | clientReadEnds | clientWriterTake | clientWriterDrained | clientWriterWrite
  | clientWriterFlushed | clientWriterFlushFails | clientWriterClosed | clientWriterFails
  | clientWriterAborted => exact hplayer fun he => he
  | handleWriter m =>
    apply handleMessage_cases (motive := fun t => (t.players P).phase.entered = true)
      { s with queue := s.queue.tail } m
    case joined => intros; exact hplayer fun _ => rfl
    all_goals intros; exact h
  | handleReader f =>
    apply handleFrame_cases (motive := fun t => (t.players P).phase.entered = true) { s with up := s.up.pop f } f
    case disconnect => intros; exact hplayer fun he => he
    case data => intros; exact hplayer fun he => by rw [PlayerState.send]; split <;> exact he
    all_goals intros; exact h
  | readerHandler f =>
    apply readerFrame_cases (motive := fun t => (t.players P).phase.entered = true)
      { s with down := s.down.pop f } f <;> intros <;> exact h
  | writerHandler m =>
    apply backendMessage_cases (motive := fun t => (t.players P).phase.entered = true)
      { s with toProxy := s.toProxy.tail } m <;> intros <;> exact h
  | _ => exact h

/-- A join is made for a player that has its id then. -/
theorem made_step {a : Action} (hs : s.step a = some s') (hj : Joining s) {f : Marked Player SocketPacket}
    (hf : f ∈ s'.made) (hv : f.val = .proxyJoin id) :
    f ∈ s.made ∨ ∃ P, f.of = some P ∧ (s'.players P).phase.entered = true := by
  obtain ⟨ha, rfl⟩ := step_eq_some hs
  cases a with
  | handleWriter m =>
    obtain ⟨hw, hm⟩ := of_decide_eq_true ha
    -- a frame that starts no connection is not the one
    have hother : ∀ {g : Marked Player SocketPacket} {p : Prop}, (∀ id, g.val ≠ .proxyJoin id) →
        f ∈ s.down.history ++ [g] → f ∈ s.made ∨ p := by
      intro g p hg hf
      refine .inl (mem_made_of_history ((List.mem_append.1 hf).resolve_right fun he => ?_))
      obtain rfl := List.mem_singleton.1 he
      exact hg id hv
    have hnone : ∀ {p : Prop}, f ∈ s.down.history ++ [] → f ∈ s.made ∨ p := fun hf =>
      .inl (mem_made_of_history (by rwa [List.append_nil] at hf))
    revert hf
    apply handleMessage_cases (motive := fun t => f ∈ t.made →
      f ∈ s.made ∨ ∃ P, f.of = some P ∧ (t.players P).phase.entered = true) { s with queue := s.queue.tail } m
    case full => intro _ _ _ _ hf; exact hnone hf
    case gone => intro _ _ _ _ _ _ _ hf; exact hnone hf
    case packet => intro _ _ _ hf; exact hother (by simp) hf
    case ping => intro _ _ hf; exact hother (by simp) hf
    case removed => intro _ _ _ hf; exact hother (by simp) hf
    case unknown => intro _ _ _ hf; exact hnone hf
    case joined =>
      intro P tx id' d startData hadd _ _ hf
      obtain rfl := hj.add m (List.mem_of_mem_head? hm) P tx hadd
      rcases List.mem_append.1 hf with hf | hf
      · exact .inl (mem_made_of_history hf)
      · obtain rfl := List.mem_singleton.1 hf
        refine .inr ⟨P, rfl, ?_⟩
        show (update s.players P _ P).phase.entered = true
        rw [Function.update_self]; rfl
  | handleWriterFeed g =>
    refine .inl ?_
    change f ∈ (s.down.feed _ g).history ++ [] at hf
    rw [Link.history_feed, List.append_nil] at hf
    rw [made, of_decide_eq_true ha]
    exact hf
  | handleWriterEmpty =>
    rw [made, (of_decide_eq_true ha).1]
    exact .inl hf
  | handleWriterFlushed =>
    rw [made, (of_decide_eq_true ha).1]
    exact .inl hf
  | handleWriterFails | handleWriterAborted =>
    exact .inl (mem_made_of_history (made_endWriter ▸ hf))
  | downWrite n =>
    change f ∈ (s.down.write n).history ++ _ at hf
    rw [Link.history_write] at hf
    exact .inl hf
  | handleReader g =>
    revert hf
    apply handleFrame_cases (motive := fun t => f ∈ t.made →
      f ∈ s.made ∨ ∃ P, f.of = some P ∧ (t.players P).phase.entered = true) { s with up := s.up.pop g } g <;>
      intros <;> exact .inl ‹_›
  | readerHandler g =>
    have hmade : (s.next (.readerHandler g)).made = s.made := by
      apply readerFrame_cases (motive := fun t => t.made = s.made) { s with down := s.down.pop g } g <;>
        intros <;> simp only [made, Link.history_pop]
    exact .inl (hmade ▸ hf)
  | writerHandler m =>
    revert hf
    apply backendMessage_cases (motive := fun t => f ∈ t.made →
      f ∈ s.made ∨ ∃ P, f.of = some P ∧ (t.players P).phase.entered = true)
      { s with toProxy := s.toProxy.tail } m <;> intros <;> exact .inl ‹_›
  | _ => exact .inl hf

/-- Joins are made, and connections opened, for players that have got their ids. -/
structure Entered (s : Session) : Prop where
  frames : ∀ f ∈ s.made, ∀ id, f.val = .proxyJoin id → ∀ P, f.of = some P →
    (s.players P).phase.entered = true
  conns : ∀ c P, (s.conns c).openedFor = some P → (s.players P).phase.entered = true

theorem entered_init : Entered init where
  frames f hf := by simp [init, made, HandleWriter.held, Link.history, Link.inFlight, Link.empty] at hf
  conns c P h := by cases h

/-- A connection is opened for the player of the join. -/
theorem openedFor_step {a : Action} (hs : s.step a = some s') {c : Conn}
    (hc : (s'.conns c).openedFor = some P) : (s.conns c).openedFor = some P ∨
      ∃ f id, a = .readerHandler f ∧ f.val = .proxyJoin id ∧ f.of = some P ∧ c = s.opened := by
  by_cases hread : ∃ f, a = .readerHandler f
  · obtain ⟨f, rfl⟩ := hread
    obtain ⟨ha, rfl⟩ := step_eq_some hs
    revert hc
    apply readerFrame_cases (motive := fun t => (t.conns c).openedFor = some P →
      (s.conns c).openedFor = some P ∨ ∃ g id, Action.readerHandler f = .readerHandler g ∧
        g.val = .proxyJoin id ∧ g.of = some P ∧ c = s.opened) { s with down := s.down.pop f } f
    case join =>
      intro id hv hc
      change (update s.conns s.opened (.new id f.of) c).openedFor = some P at hc
      rw [Function.update_apply] at hc
      split at hc
      · next he => exact .inr ⟨f, id, rfl, hv, hc, he⟩
      · exact .inl hc
    case data =>
      intro id pkg d _ _ _ hc
      exact .inl ((forall_conns (R := fun d y => y.openedFor = (s.conns d).openedFor) (fun _ => rfl)
        (x := { s.conns d with rx := (s.conns d).rx.send ⟨pkg.bytes, f.of⟩ }) rfl c).symm.trans hc)
    case disconnect =>
      intro id d _ _ hc
      exact .inl ((forall_conns (R := fun d y => y.openedFor = (s.conns d).openedFor) (fun _ => rfl)
        (x := { s.conns d with disconnected := true }) rfl c).symm.trans hc)
    all_goals intros; exact .inl ‹_›
  · by_cases hdis : ∃ id, a = .readerDisconnect id
    · obtain ⟨id, rfl⟩ := hdis
      obtain ⟨-, rfl⟩ := step_eq_some hs
      exact .inl hc
    · have hsame := (client_step hs (fun f he => hread ⟨f, he⟩) (fun id he => hdis ⟨id, he⟩)).2.2 c
      exact .inl (hsame ▸ hc)

theorem Entered.step {a : Action} (h : Entered s) (hj : Joining s) (hclean : s.down.garbled = false)
    (hs : s.step a = some s') : Entered s' where
  frames f hf id hv P hP := by
    rcases made_step hs hj hf hv with hold | ⟨Q, hQ, hentered⟩
    · exact entered_step hs (h.frames f hold id hv P hP)
    · rw [hP] at hQ
      cases hQ
      exact hentered
  conns c P hc := by
    rcases openedFor_step hs hc with hold | ⟨f, id, rfl, hv, hP, -⟩
    · exact entered_step hs (h.conns c P hold)
    · have hg := (of_decide_eq_true (step_eq_some hs).1).2
      have hmem : f ∈ s.made := by
        rw [made, Link.history, (Link.pop_of_gives hclean hg).2.1]
        simp
      exact entered_step hs (h.frames f hmem id hv P hP)

/-! ### The disconnects that the server has taken -/

/-- A player in a slot is not the one whose connection a disconnect of the slot's id came from. -/
def Vacating (s : Session) : Prop :=
  ∀ id P, s.distributor.getById id = some P → ∀ f ∈ s.up.taken, f.val = .proxyDisconnect id →
    ∀ c, f.of = some c → (s.conns c).openedFor ≠ some P

theorem vacating_init : Vacating init := fun _ _ _ f hf => by cases hf

theorem upTaken_step {a : Action} (hs : s.step a = some s') {f : Marked Conn SocketPacket}
    (hf : f ∈ s'.up.taken) : f ∈ s.up.taken ∨ a = .handleReader f := by
  obtain ⟨ha, rfl⟩ := step_eq_some hs
  cases a with
  | handleReader g =>
    have htaken : f ∈ (s.up.pop g).taken := by
      revert hf
      apply handleFrame_cases (motive := fun t => f ∈ t.up.taken → f ∈ (s.up.pop g).taken)
        { s with up := s.up.pop g } g <;> intros <;> exact ‹_›
    rw [Link.pop] at htaken
    split at htaken
    · rcases List.mem_append.1 htaken with hold | hnew
      · exact .inl hold
      · obtain rfl := List.mem_singleton.1 hnew
        exact .inr rfl
    · exact .inl htaken
  | handleWriter m =>
    revert hf
    apply handleMessage_cases (motive := fun t => f ∈ t.up.taken → f ∈ s.up.taken ∨ _)
      { s with queue := s.queue.tail } m <;> intros <;> exact .inl ‹_›
  | readerHandler g =>
    revert hf
    apply readerFrame_cases (motive := fun t => f ∈ t.up.taken → f ∈ s.up.taken ∨ _)
      { s with down := s.down.pop g } g <;> intros <;> exact .inl ‹_›
  | writerHandler m =>
    revert hf
    apply backendMessage_cases (motive := fun t => f ∈ t.up.taken → f ∈ s.up.taken ∨ _)
      { s with toProxy := s.toProxy.tail } m <;> intros <;> exact .inl ‹_›
  | _ => exact .inl hf

theorem Vacating.step {a : Action} (h : Vacating s) (hj : Joining s) (he : Entered s) (hc : Closing s)
    (hs : s.step a = some s') : Vacating s' := by
  intro id P hslot f hf hv c hof hfor
  rcases upTaken_step hs hf with hold | rfl
  · -- the connection is an earlier one, so it was opened for the player before
    have hmem : some c ∈ s.closing id := by
      refine List.mem_append_left _ (mem_marks.2 ?_)
      rw [← hv, ← hof]
      exact List.mem_append_left _ (List.mem_append_left _ hold)
    obtain ⟨d, hd, hlt, -⟩ := hc.dropped id _ hmem
    obtain rfl := Option.some.inj hd
    have hbefore : (s.conns c).openedFor = some P := by
      refine (openedFor_step hs hfor).resolve_right ?_
      rintro ⟨-, -, -, -, -, rfl⟩
      exact Nat.lt_irrefl _ hlt
    rcases getById_step hj hs hslot with hslot | hawait
    · exact h id P hslot f hold hv c hof hbefore
    · have hentered := he.conns c P hbefore
      cases hp : (s.players P).phase with
      | awaitId startData => rw [hp] at hentered; cases hentered
      | absent | hasId | handling | finished | failed => rw [hp] at hawait; cases hawait
  · obtain ⟨-, rfl⟩ := step_eq_some hs
    change ({ s with up := s.up.pop f }.handleFrame f).distributor.getById id = some P at hslot
    rw [handleFrame, hv] at hslot
    change (s.distributor.removeById id).2.getById id = some P at hslot
    rw [Distributor.getById_removeById, if_pos rfl] at hslot
    cases hslot

/-! ### The connections that the client has forgotten -/

/-- The player that has an id by the frames taken has the newest connection with it, in the slot or having
asked for its removal. -/
def Attended (s : Session) : Prop :=
  s.clientWriter ≠ .ended → ∀ id P, s.guest id = some P → ∃ c, s.Newest id c ∧
    (s.conns c).openedFor = some P ∧ (s.client.connection id = some c ∨ some c ∈ s.closing id)

theorem attended_init : Attended init := fun _ id P h => by cases h

/-- `writer_handler` does not start again. -/
theorem clientWriter_step {a : Action} (hs : s.step a = some s') (hne : s'.clientWriter ≠ .ended) :
    s.clientWriter ≠ .ended := by
  obtain ⟨ha, rfl⟩ := step_eq_some hs
  cases a with
  | handleWriter m =>
    revert hne
    apply handleMessage_cases (motive := fun t => t.clientWriter ≠ .ended → s.clientWriter ≠ .ended)
      { s with queue := s.queue.tail } m <;> intros <;> exact ‹_›
  | handleReader f =>
    revert hne
    apply handleFrame_cases (motive := fun t => t.clientWriter ≠ .ended → s.clientWriter ≠ .ended)
      { s with up := s.up.pop f } f <;> intros <;> exact ‹_›
  | readerHandler f =>
    revert hne
    apply readerFrame_cases (motive := fun t => t.clientWriter ≠ .ended → s.clientWriter ≠ .ended)
      { s with down := s.down.pop f } f <;> intros <;> exact ‹_›
  | writerHandler m => exact clientWriter_ne_ended (of_decide_eq_true ha).1
  | writerHandlerFeed f => rw [of_decide_eq_true ha]; simp
  | writerHandlerEmpty => rw [(of_decide_eq_true ha).1]; simp
  | writerHandlerFlushed => rw [(of_decide_eq_true ha).1]; simp
  | writerHandlerFails | writerHandlerAborted => exact absurd rfl hne
  | _ => exact hne

theorem Attended.of_same {a : Action} (h : Attended s) (hs : s.step a = some s')
    (hread : ∀ f, a ≠ .readerHandler f) (hdis : ∀ id, a ≠ .readerDisconnect id) : Attended s' := by
  intro hne id P hguest
  obtain ⟨htaken, hclient, hfor⟩ := client_step hs hread hdis
  rw [guest, htaken] at hguest
  obtain ⟨c, hn, hc, hslot⟩ := h (clientWriter_step hs hne) id P hguest
  have hjoined : id ∉ joinedId a := by
    cases a with
    | readerHandler f => exact absurd rfl (hread f)
    | _ => exact fun he => by cases he
  refine ⟨c, hn.step hs hjoined, (hfor c).trans hc, ?_⟩
  rw [hclient]
  exact hslot.imp_right fun hx => (closing_step hs hne).2 id hx

end Session

namespace Requested
open Session
variable {t t' : Requested} {id : ClientID} {c : Conn}

/-- Each removal in `disconnect_rx` was made a frame, too, and no player is left without a connection that
did not ask for it. -/
structure Attending (t : Requested) : Prop where
  asked : t.session.clientWriter ≠ .ended → ∀ x ∈ t.requests, ⟨.proxyDisconnect x.val, x.of⟩ ∈ t.session.answers
  attended : Attended t.session

theorem attending_init : Attending init := ⟨fun _ _ hx => (by cases hx), attended_init⟩

/-- A removal that is on its way is the newest connection's. -/
theorem Attending.closing (h : Attending t) (hat : Attributed t) (hne : t.session.clientWriter ≠ .ended)
    (hn : t.session.Newest id c) (hr : t.session.Removes id) : some c ∈ t.session.closing id := by
  rw [Session.closing, List.mem_append, mem_marks, mem_marks]
  rcases hr with ⟨m, hm, hv⟩ | hid
  · obtain ⟨d, hd, hnd⟩ := hat.asking.toProxy m hm id hv
    obtain rfl := LastAt.unique hn hnd
    right
    rw [← hv, ← hd]
    exact hm
  · rw [← hat.asked.requests] at hid
    obtain ⟨x, hx, rfl⟩ := List.mem_map.1 hid
    obtain ⟨d, hd, hnd⟩ := hat.asked.newest x hx
    obtain rfl := LastAt.unique hn hnd
    left
    rw [← hd]
    exact h.asked hne x hx

theorem Attending.asked_step {a : Action} (h : Attending t) (hs : t.step a = some t') :
    t'.session.clientWriter ≠ .ended →
      ∀ x ∈ t'.requests, ⟨.proxyDisconnect x.val, x.of⟩ ∈ t'.session.answers := by
  intro hne x hx
  obtain ⟨hsession, hrequests⟩ := Requested.step_eq_some hs
  rw [hrequests] at hx
  rcases mem_requestsAfter hx with hold | ⟨m, id, rfl, hv, rfl⟩
  · exact (closing_step hsession hne).1 (h.asked (clientWriter_step hsession hne) x hold)
  · obtain ⟨ha, hnext⟩ := Session.step_eq_some hsession
    have hanswers : t'.session = { t.session with toProxy := t.session.toProxy.tail }.backendMessage m := hnext
    rw [hanswers] at hne ⊢
    simp only [backendMessage, hv] at hne ⊢
    split
    · exact List.mem_append_right _ (List.mem_singleton_self _)
    · next hr =>
      rw [if_neg hr] at hne
      exact absurd rfl hne

/-- `reader_handler` forgets a connection: it had asked for it. -/
theorem Attending.forget (h : Attending t) (hat : Attributed t) {s' : Session} (hr : t.session.Removes id)
    (hw : s'.clientWriter = t.session.clientWriter) (hguest : ∀ id, s'.guest id = t.session.guest id)
    (hnewest : ∀ id c, t.session.Newest id c → s'.Newest id c) (hconns : s'.conns = t.session.conns)
    (hclient : s'.client = t.session.client.removeConnection id)
    (hclosing : ∀ id, s'.closing id = t.session.closing id) : Attended s' := by
  intro hne id' P hP
  rw [hw] at hne
  rw [hguest] at hP
  obtain ⟨c, hn, hc, hslot⟩ := h.attended hne id' P hP
  refine ⟨c, hnewest id' c hn, by rw [hconns]; exact hc, ?_⟩
  rw [hclosing, hclient, Client.connection_removeConnection]
  by_cases hid : id = id'
  · subst hid
    exact .inr (h.closing hat hne hn hr)
  · rw [if_neg hid]
    exact hslot

theorem Attending.readerHandler (h : Attending t) (hat : Attributed t) (hl : Listed t.session)
    {f : Marked Player SocketPacket} {s' : Session} (hs : t.session.step (.readerHandler f) = some s') :
    Attended s' := by
  have hg := (of_decide_eq_true (Session.step_eq_some hs).1).2
  have hclean := hat.clean.down
  have hpop := guest_pop hclean hg
  by_cases hjoin : ∃ id, f.val = .proxyJoin id
  · obtain ⟨id, hv⟩ := hjoin
    have hjoined : joinedId (.readerHandler f) = some id := by simp [joinedId, clientReceives, hv]
    have hnew := newest_join hs hjoined
    have hold : ∀ {id' : ClientID} {c : Conn}, t.session.Newest id' c → id' ≠ id → s'.Newest id' c := by
      intro id' c hn hne
      refine hn.step hs fun he => hne ?_
      rw [hjoined] at he
      exact (Option.some.inj he).symm
    have hlt : id.toNat < MAXIMUM_CLIENTS := by
      refine hat.clean.join f ?_ id hv
      rw [downstream, (Link.pop_of_gives hclean hg).2.1]
      exact List.mem_cons_self
    have hnext : s' = { t.session with
        down := t.session.down.pop f
        client := t.session.client.addConnection id t.session.opened
        conns := update t.session.conns t.session.opened (.new id f.of)
        opened := t.session.opened + 1 } := by
      rw [(Session.step_eq_some hs).2]
      show readerFrame _ f = _
      rw [readerFrame, hv]
    subst hnext
    intro hne id' P hP
    change guest { t.session with down := t.session.down.pop f } id' = some P at hP
    rw [hpop] at hP
    by_cases hid : id' = id
    · subst hid
      refine ⟨t.session.opened, hnew, ?_, .inl ?_⟩
      · show (update t.session.conns t.session.opened (.new id' f.of) t.session.opened).openedFor = _
        rw [Function.update_self]
        exact (if_pos hv).symm.trans hP
      · show (t.session.client.addConnection id' t.session.opened).connection id' = _
        rw [Client.connection_addConnection, if_pos ⟨rfl, hlt⟩]
    · rw [tenure_next_of_ne (by rw [hv]; simpa using fun he => hid he.symm) (by simp [hv])] at hP
      obtain ⟨c, hn, hc, hslot⟩ := h.attended hne id' P hP
      refine ⟨c, hold hn hid, ?_, hslot.imp_left fun hslot => ?_⟩
      · show (update t.session.conns t.session.opened (.new id f.of) c).openedFor = _
        rw [Function.update_of_ne (Nat.ne_of_lt hn.lt_opened)]
        exact hc
      · show (t.session.client.addConnection id t.session.opened).connection id' = _
        rw [Client.connection_addConnection, if_neg fun he => hid he.1.symm]
        exact hslot
  · have hno : ∀ id, f.val ≠ .proxyJoin id := fun id hv => hjoin ⟨id, hv⟩
    have hnewest : ∀ id c, t.session.Newest id c → s'.Newest id c := by
      refine fun id c hn => hn.step hs fun he => ?_
      rw [joinedId, clientReceives, Option.bind_some] at he
      split at he
      · next hv => exact hno _ hv
      · cases he
    -- the connections are as before, and in their slots
    have hkeep : ∀ {u : Session}, (∀ id c, t.session.Newest id c → u.Newest id c) →
        u.down = t.session.down.pop f → u.client = t.session.client →
        (∀ c, (u.conns c).openedFor = (t.session.conns c).openedFor) →
        (∀ id, u.closing id = t.session.closing id) → u.clientWriter = t.session.clientWriter →
        (∀ id, f.val ≠ .proxyDisconnect id) → Attended u := by
      intro u hn hdown hclient hfor hclosing hw hdis hne id P hP
      have hguest : u.guest id = t.session.guest id := by
        rw [guest, hdown]
        exact (hpop id).trans (tenure_next_of_ne (hno id) (hdis id) _)
      rw [hguest] at hP
      obtain ⟨c, hnc, hc, hslot⟩ := h.attended (hw ▸ hne) id P hP
      exact ⟨c, hn id c hnc, (hfor c).trans hc, by rw [hclient, hclosing]; exact hslot⟩
    -- the slot of the frame's id is emptied, and nobody has the id by the frames any more
    have hempty : ∀ {id : ClientID} {u : Session}, (∀ id c, t.session.Newest id c → u.Newest id c) →
        f.val = .proxyDisconnect id → u.down = t.session.down.pop f →
        u.client = t.session.client.removeConnection id →
        (∀ c, (u.conns c).openedFor = (t.session.conns c).openedFor) →
        (∀ id, u.closing id = t.session.closing id) → u.clientWriter = t.session.clientWriter →
        Attended u := by
      intro id u hn hv hdown hclient hfor hclosing hw hne id' P hP
      rw [guest, hdown] at hP
      change guest { t.session with down := t.session.down.pop f } id' = some P at hP
      rw [hpop] at hP
      have hid : id ≠ id' := by
        rintro rfl
        have hnone : (tenure id).next (t.session.guest id) f = none := (if_neg (hno id)).trans (if_pos hv)
        rw [hnone] at hP
        cases hP
      rw [tenure_next_of_ne (hno id') (by rw [hv]; simpa using hid)] at hP
      obtain ⟨c, hnc, hc, hslot⟩ := h.attended (hw ▸ hne) id' P hP
      refine ⟨c, hn id' c hnc, (hfor c).trans hc, ?_⟩
      rw [hclosing, hclient, Client.connection_removeConnection, if_neg hid]
      exact hslot
    have hfor : ∀ {c : Conn} {x : ClientConnection}, x.openedFor = (t.session.conns c).openedFor →
        ∀ d, (update t.session.conns c x d).openedFor = (t.session.conns d).openedFor := fun hx =>
      forall_conns (R := fun d y => y.openedFor = (t.session.conns d).openedFor) (fun _ => rfl) hx
    obtain ⟨-, rfl⟩ := Session.step_eq_some hs
    revert hnewest
    apply readerFrame_cases (motive := fun u => (∀ id c, t.session.Newest id c → u.Newest id c) → Attended u)
      { t.session with down := t.session.down.pop f } f
    case join => intro id hv; exact absurd hv (hno id)
    case data =>
      intro id pkg c hv _ _ hn
      exact hkeep hn rfl rfl (hfor rfl) (fun _ => rfl) rfl (by simp [hv])
    case dataLost =>
      intro id pkg c hv hc htask hn hne
      -- the connection has ended, so it has asked for its removal
      have hr : t.session.Removes id := by
        refine (hl hne id c hc).resolve_left ?_
        change (t.session.conns c).task = .ended at htask
        simp [ClientConnection.live, htask]
      exact h.forget hat hr rfl (fun id' => (hpop id').trans (tenure_next_of_ne (hno id') (by simp [hv]) _))
        hn rfl rfl (fun _ => rfl) hne
    case dataNone => intro _ _ hv _ hn; exact hkeep hn rfl rfl (fun _ => rfl) (fun _ => rfl) rfl (by simp [hv])
    case disconnect => intro id c hv _ hn; exact hempty hn hv rfl rfl (hfor rfl) (fun _ => rfl) rfl
    case disconnectNone => intro id hv _ hn; exact hempty hn hv rfl rfl (fun _ => rfl) (fun _ => rfl) rfl
    case pong => intro _ hv hn; exact hkeep hn rfl rfl (fun _ => rfl) (fun _ => rfl) rfl (by simp [hv])
    case unexpected => intro _ _ hdis hn; exact hkeep hn rfl rfl (fun _ => rfl) (fun _ => rfl) rfl hdis

theorem Attending.step {a : Action} (h : Attending t) (hat : Attributed t) (hl : Listed t.session)
    (hs : t.step a = some t') : Attending t' := by
  refine ⟨h.asked_step hs, ?_⟩
  have hsession := (Requested.step_eq_some hs).1
  by_cases hread : ∃ f, a = .readerHandler f
  · obtain ⟨f, rfl⟩ := hread
    exact h.readerHandler hat hl hsession
  · by_cases hdis : ∃ id, a = .readerDisconnect id
    · obtain ⟨id, rfl⟩ := hdis
      have hnewest : ∀ id' c, t.session.Newest id' c → t'.session.Newest id' c :=
        fun id' c hn => hn.step hsession (fun he => by cases he)
      obtain ⟨ha, hnext⟩ := Session.step_eq_some hsession
      have hr : t.session.Removes id := .inr (List.mem_of_mem_head? (of_decide_eq_true ha).2)
      rw [hnext] at hnewest ⊢
      exact h.forget hat hr rfl (fun _ => rfl) hnewest rfl rfl (fun _ => rfl)
    · exact h.attended.of_same hsession (fun f he => hread ⟨f, he⟩) (fun id he => hdis ⟨id, he⟩)

/-! ### At rest -/

/-- What holds of both tables where no earlier connection can be closed for a later one. -/
structure Paired (t : Requested) : Prop where
  attributed : Attributed t
  tabled : Tabled t.session
  closing : Session.Closing t.session
  entered : Entered t.session
  vacating : Vacating t.session
  attending : Attending t

theorem paired_init : Paired init :=
  ⟨attributed_init, tabled_init, closing_init, entered_init, vacating_init, attending_init⟩

theorem Paired.step {a : Action} (h : Paired t) (hc : t.session.ConnectionFree a) (hs : t.step a = some t') :
    Paired t' := by
  have hsession := (Requested.step_eq_some hs).1
  have hj := h.tabled.joining
  exact
    ⟨h.attributed.step hc hs, h.tabled.step hc.1 hsession, h.closing.step hsession,
      h.entered.step hj h.tabled.clean.down hsession, h.vacating.step hj h.entered h.closing hsession,
      h.attending.step h.attributed h.tabled.listed hs⟩

/-- Where nothing is on its way, the client has under an id the connection of the player in the server's slot. -/
theorem Paired.same_tables (hp : Paired t) (hr : AtRest t.session) (id : ClientID) :
    t.session.distributor.getById id =
      (t.session.client.connection id).bind fun c => (t.session.conns c).openedFor := by
  have ht := hp.tabled
  have hne : t.session.clientWriter ≠ .ended := by rw [hr.clientWriter]; simp
  cases hc : t.session.client.connection id with
  | some c =>
    obtain ⟨-, -, P, hP, hguest⟩ := ht.guested.slot id c hc
    rw [Option.bind_some, hP]
    refine hr.tenant ht.tenanted ht.occupied ?_
    rw [Session.tenant, hr.made]
    exact hguest
  | none =>
    rw [Option.bind_none, Option.eq_none_iff_forall_not_mem]
    intro P hslot
    -- the player's connection was forgotten, and its disconnect was taken by the server
    have hguest : t.session.guest id = some P := by
      have htenant := ht.tenanted.slot (by rw [hr.writer]; simp) id P hslot
      rw [Session.tenant, hr.made] at htenant
      exact htenant
    obtain ⟨c, -, hfor, hcase⟩ := hp.attending.attended hne id P hguest
    have hclosing := hcase.resolve_left (by rw [hc]; simp)
    rw [Session.closing, hr.toProxy, List.mem_append, mem_marks] at hclosing
    have hanswer := hclosing.resolve_right (by simp [marks])
    rw [hr.answers] at hanswer
    exact hp.vacating id P hslot _ hanswer rfl c rfl hfor

/-- In a run in which ids are given and joins come only when nothing is left that closes an earlier
connection, the session at rest has under each id the connection, at the client, that was opened for the
player in the slot of the server, and none where the slot is empty. -/
theorem rest_same_tables
    (h : Lts.Reach Requested.step (fun t a => t.session.ConnectionFree a) Requested.init t)
    (hgoing : Going t.session) (hrest : Resting t.session) (id : ClientID) :
    t.session.distributor.getById id =
      (t.session.client.connection id).bind fun c => (t.session.conns c).openedFor := by
  have hp : Paired t := h.invariant (I := Paired) paired_init fun _ hi hc hs => hi.step hc hs
  exact hp.same_tables (hrest.atRest hgoing hp.tabled.waiting) id

theorem rest_same_tables_leaveAndRejoin :
    ∃ t, Lts.run Requested.step Requested.init leaveAndRejoin = some t ∧
      (t.session.players 0).phase = .finished 0 ∧ (t.session.players 1).phase = .handling 1 ∧
      (t.session.players 2).phase = .handling 0 ∧
      ∀ id, t.session.distributor.getById id =
        (t.session.client.connection id).bind (fun c => (t.session.conns c).openedFor) := by
  obtain ⟨s, hrun, hgoing, hrest, hfirst, hsecond, hthird⟩ := leaveAndRejoin_rests
  rw [← run_session] at hrun
  obtain ⟨t, ht, rfl⟩ := Option.map_eq_some_iff.1 hrun
  exact ⟨t, ht, hfirst, hsecond, hthird, rest_same_tables (Lts.Reach.of_run ht (by decide +kernel)) hgoing hrest⟩

end Requested
end CraftIP
