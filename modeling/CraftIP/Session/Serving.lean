import CraftIP.Session.Uplink

/-!
# What ends `reader_handler`

`send_to` fails for an id that has no connection, and `reader_handler` passes the error on, so one data
frame that comes after its connection is gone ends the session for all players. Where connections are
forgotten only when no data for them is on its way or follows, no data frame ends `reader_handler`
(`reader_handler_survives_data`).
-/

namespace CraftIP
open Function (update)

namespace Session

/-- Whether the client has a connection under the id. -/
def isRegistered (s : Session) (id : ClientID) : Bool := (s.client.connection id).isSome

/-- What the frames of an id make of its registration: data needs a connection. -/
def registration (id : ClientID) : Monitor Bool (Marked Player SocketPacket) where
  next b f :=
    if f.val = .proxyJoin id then id.toNat < MAXIMUM_CLIENTS
    else if f.val = .proxyDisconnect id then false
    else b
  ok b f := f.val.dataFor id = true → b = true

instance (id : ClientID) (b : Bool) (f : Marked Player SocketPacket) : Decidable ((registration id).ok b f) :=
  inferInstanceAs (Decidable (_ → _))

/-- The id under which the action has data forwarded. -/
def forwardedId : Action → Option ClientID
  | .handleWriter m =>
    match m.val with
    | .packet id _ => some id
    | _ => none
  | _ => none

/-- The id whose connection the client forgets by the action without having been told to. -/
def forgottenId (s : Session) : Action → Option ClientID
  | .readerDisconnect id => some id
  | .readerHandler f =>
    match f.val with
    | .proxyData packet =>
      (s.client.connection packet.clientId).bind fun c =>
        if (s.conns c).task = .ended then some packet.clientId else none
    | _ => none
  | _ => none

/-- The frames that are on their way after the action. -/
def remaining (s : Session) : Action → List (Marked Player SocketPacket)
  | .readerHandler _ => s.downstream.tail
  | _ => s.downstream

/-- First packets are short, data is forwarded only for an id under which the client will have a
connection when it comes, and a connection is forgotten only when no data for it is on its way. -/
def ServedFree (s : Session) (a : Action) : Prop :=
  ShortStart a ∧
    (∀ id ∈ forwardedId a, (registration id).final (s.isRegistered id) s.downstream = true) ∧
    ∀ id ∈ s.forgottenId a, (registration id).Accepts false (s.remaining a)

instance (s : Session) (a : Action) : Decidable (s.ServedFree a) :=
  inferInstanceAs (Decidable (_ ∧ _ ∧ _))

/-- Every data frame on its way will find a connection. -/
def Served (s : Session) : Prop := ∀ id, (registration id).Accepts (s.isRegistered id) s.downstream

variable {s s' : Session}

theorem served_init : Served init := fun _ => trivial

theorem Served.endWriter (h : Served s) : Served s.endWriter := fun id => by
  show (registration id).Accepts (s.isRegistered id) (s.down.inFlight ++ [])
  rw [List.append_nil]
  exact (h id).left

/-- `handle_writer` takes up a frame. -/
theorem Served.feed (h : Served s) (hw : s.writer = .recv ∨ s.writer = .tryRecv)
    {f : Marked Player SocketPacket}
    (hdata : ∀ id, f.val.dataFor id = true → (registration id).final (s.isRegistered id) s.downstream = true)
    (id : ClientID) : (registration id).Accepts (s.isRegistered id) (s.down.inFlight ++ [f]) := by
  rw [downstream_of_recv hw] at hdata
  rw [Monitor.accepts_concat]
  exact ⟨(h id).left, hdata id⟩

theorem Served.handleMessage (h : Served s) (hw : s.writer = .recv ∨ s.writer = .tryRecv)
    {m : Marked Player (ClientToProxy Player Player)}
    (hfree : ∀ id ∈ forwardedId (.handleWriter m),
      (registration id).final (s.isRegistered id) s.downstream = true) : Served (s.handleMessage m) := by
  apply handleMessage_cases (motive := Served) s m
  case full => intros; exact h.endWriter
  case joined => intros; exact h.feed hw (fun _ he => by cases he)
  case gone => intros; exact h.endWriter
  case packet =>
    intro id pkg hv
    refine h.feed hw fun id' he => hfree id' ?_
    obtain rfl : id = id' := of_decide_eq_true he
    rw [forwardedId, hv]; rfl
  case ping => intros; exact h.feed hw (fun _ he => by cases he)
  case removed => intros; exact h.feed hw (fun _ he => by cases he)
  case unknown =>
    intros
    intro id
    show (registration id).Accepts (s.isRegistered id) (s.down.inFlight ++ [])
    rw [List.append_nil]
    exact (h id).left

/-- The first of the frames is taken, and the connection of its id is as the frame makes it. -/
theorem Served.pop (h : Served s) {f : Marked Player SocketPacket} (hin : s.downstream = f :: s'.downstream)
    (hnext : ∀ id, s'.isRegistered id = (registration id).next (s.isRegistered id) f) : Served s' := by
  intro id
  have hid := h id
  rw [hin] at hid
  rw [hnext]
  exact hid.2

theorem registration_next_of_ne {f : Marked Player SocketPacket} {id : ClientID} (b : Bool)
    (hjoin : f.val ≠ .proxyJoin id) (hdis : f.val ≠ .proxyDisconnect id) :
    (registration id).next b f = b := by
  show (if _ then _ else _) = _
  rw [if_neg hjoin, if_neg hdis]

theorem isRegistered_removeConnection (id id' : ClientID) :
    isRegistered { s with client := s.client.removeConnection id } id' =
      if id = id' then false else s.isRegistered id' := by
  rw [isRegistered, Client.connection_removeConnection]
  split <;> rfl

/-- The client forgets a connection for which no data is on its way. -/
theorem Served.forget (h : Served s) {id : ClientID} (hid : (registration id).Accepts false s.downstream) :
    Served { s with client := s.client.removeConnection id } := by
  intro id'
  rw [isRegistered_removeConnection]
  split
  · next he => subst he; exact hid
  · exact h id'

theorem Served.readerHandler (h : Served s) {f : Marked Player SocketPacket}
    (hin : s.downstream = f :: downstream { s with down := s.down.pop f })
    (hfree : ∀ id ∈ s.forgottenId (.readerHandler f), (registration id).Accepts false s.downstream.tail) :
    Served ({ s with down := s.down.pop f }.readerFrame f) := by
  apply readerFrame_cases (motive := Served) { s with down := s.down.pop f } f
  case join =>
    intro id hv
    refine h.pop hin fun id' => ?_
    show ((s.client.addConnection id s.opened).connection id').isSome =
      if f.val = .proxyJoin id' then decide (id'.toNat < MAXIMUM_CLIENTS)
      else if f.val = .proxyDisconnect id' then false else s.isRegistered id'
    rw [Client.connection_addConnection, hv]
    by_cases he : id = id'
    · subst he
      by_cases hlt : id.toNat < MAXIMUM_CLIENTS
      · simp [hlt]
      · have hnone : s.client.connection id = none := Slots.get_eq_none_of_le (by omega)
        simp [hlt, hnone]
    · simp [he, isRegistered]
  case data =>
    intro id pkg c hv hc ht
    refine h.pop hin fun id' => ?_
    exact (registration_next_of_ne _ (by rw [hv]; simp) (by rw [hv]; simp)).symm
  case dataLost =>
    intro id pkg c hv hc ht
    have hpop : Served { s with down := s.down.pop f } := h.pop hin fun id' =>
      (registration_next_of_ne _ (by rw [hv]; simp) (by rw [hv]; simp)).symm
    refine hpop.forget ?_
    have hforgotten : id ∈ s.forgottenId (.readerHandler f) := by
      have hc' : s.client.connection id = some c := hc
      have ht' : (s.conns c).task = .ended := ht
      simp [forgottenId, hv, hc', ht']
    have hacc := hfree id hforgotten
    rw [hin] at hacc
    exact hacc
  case dataNone =>
    intro id pkg hv hc
    refine h.pop hin fun id' => ?_
    exact (registration_next_of_ne _ (by rw [hv]; simp) (by rw [hv]; simp)).symm
  case disconnect =>
    intro id c hv hc
    refine h.pop hin fun id' => ?_
    refine (isRegistered_removeConnection (s := s) id id').trans ?_
    show _ = if f.val = .proxyJoin id' then _ else if f.val = .proxyDisconnect id' then false else _
    simp [hv]
  case disconnectNone =>
    intro id hv hc
    refine h.pop hin fun id' => ?_
    refine (isRegistered_removeConnection (s := s) id id').trans ?_
    show _ = if f.val = .proxyJoin id' then _ else if f.val = .proxyDisconnect id' then false else _
    simp [hv]
  case pong =>
    intro ping hv
    refine h.pop hin fun id' => ?_
    exact (registration_next_of_ne _ (by rw [hv]; simp) (by rw [hv]; simp)).symm
  case unexpected =>
    intro hjoin _ hdis
    refine h.pop hin fun id' => ?_
    exact (registration_next_of_ne _ (hjoin id') (hdis id')).symm

theorem backendMessage_served (h : Served s) (m : Marked Conn BackendToProxy) :
    Served (s.backendMessage m) := by
  apply backendMessage_cases (motive := Served) s m <;> intros <;> exact h

theorem handleFrame_served (h : Served s) (f : Marked Conn SocketPacket) : Served (s.handleFrame f) := by
  apply handleFrame_cases (motive := Served) s f <;> intros <;> exact h

theorem Served.step {a : Action} (h : Served s) (hclean : Clean s) (hfree : s.ServedFree a)
    (hs : s.step a = some s') : Served s' := by
  obtain ⟨ha, rfl⟩ := step_eq_some hs
  obtain ⟨-, hforward, hforget⟩ := hfree
  cases a with
  | handleWriter m =>
    have hs : Served { s with queue := s.queue.tail } := h
    exact hs.handleMessage (of_decide_eq_true ha).1 hforward
  | handleWriterFeed f =>
    have hw := of_decide_eq_true ha
    intro id
    show (registration id).Accepts (s.isRegistered id) ((s.down.feed (fits f.val) f).inFlight ++ [])
    have hid := h id
    rw [downstream, hw] at hid
    rw [Link.inFlight_feed, List.append_nil]
    exact hid
  | handleWriterEmpty =>
    intro id
    have hid := h id
    rw [downstream, (of_decide_eq_true ha).1] at hid
    exact hid
  | handleWriterFlushed =>
    intro id
    have hid := h id
    rw [downstream, (of_decide_eq_true ha).1] at hid
    exact hid
  | handleWriterFails | handleWriterAborted => exact h.endWriter
  | downWrite n =>
    intro id
    show (registration id).Accepts (s.isRegistered id)
      ((s.down.write n).inFlight ++ HandleWriter.held s.writer)
    rw [Link.inFlight_write]
    exact h id
  | handleReader f =>
    have hs : Served { s with up := s.up.pop f } := h
    exact handleFrame_served hs f
  | readerHandler f =>
    have hg := (of_decide_eq_true ha).2
    refine h.readerHandler ?_ hforget
    rw [downstream, (Link.pop_of_gives hclean.down hg).2.1]
    rfl
  | readerDisconnect id => exact h.forget (hforget id rfl)
  | writerHandler m =>
    have hs : Served { s with toProxy := s.toProxy.tail } := h
    exact backendMessage_served hs m
  | connect | joinFails | sendStart | clientRead | clientReadEnds | clientWriterTake | clientWriterDrained
  | clientWriterWrite | clientWriterFlushed | clientWriterFlushFails | clientWriterClosed
  | clientWriterFails | clientWriterAborted | clientFinish | handleReaderEnds | handleEnds | upWrite
  | readerDisconnectClosed | readerPing | readerEnds | writerHandlerFeed | writerHandlerEmpty
  | writerHandlerFlushed | writerHandlerFails | writerHandlerAborted | backendConnected
  | backendConnectFails | backendRecv | backendWrite | backendWritten | backendWriteFails | backendClosed
  | backendRead | backendReadEnds | backendDropped => exact h

/-- A data frame ends `reader_handler` exactly when its id has no connection. -/
theorem readerFrame_data_goes_on {f : Marked Player SocketPacket} {id : ClientID} {pkg : MinecraftDataPacket}
    (hf : f.val = .proxyData ⟨id, pkg⟩) (hr : s.clientReader = true) :
    (s.readerFrame f).clientReader = true ↔ s.isRegistered id = true := by
  have hsame : ∀ {id' : ClientID} {pkg' : MinecraftDataPacket},
      SocketPacket.proxyData ⟨id', pkg'⟩ = f.val → id' = id := by
    intro id' pkg' he
    rw [hf] at he
    cases he; rfl
  rw [isRegistered]
  apply readerFrame_cases
    (motive := fun t => t.clientReader = true ↔ (s.client.connection id).isSome = true) s f
  case data =>
    intro id' pkg' c hv hc ht
    obtain rfl := hsame hv.symm
    simp [hc, hr]
  case dataLost =>
    intro id' pkg' c hv hc ht
    obtain rfl := hsame hv.symm
    simp [hc, hr]
  case dataNone =>
    intro id' pkg' hv hc
    obtain rfl := hsame hv.symm
    simp [hc]
  case join => intro id' hv; rw [hf] at hv; cases hv
  case disconnect => intro id' c hv _; rw [hf] at hv; cases hv
  case disconnectNone => intro id' hv _; rw [hf] at hv; cases hv
  case pong => intro ping hv; rw [hf] at hv; cases hv
  case unexpected => intro _ hdata _; exact absurd hf (hdata _)

/-- In a run in which data is only forwarded, and connections are only forgotten, so that no data comes
for an id without a connection, no data frame ends `reader_handler`. -/
theorem reader_handler_survives_data (h : Lts.Reach step ServedFree init s)
    {f : Marked Player SocketPacket} {id : ClientID} {pkg : MinecraftDataPacket}
    (hf : f.val = .proxyData ⟨id, pkg⟩) (hs : s.step (.readerHandler f) = some s') :
    s'.clientReader = true := by
  obtain ⟨hclean, hserved⟩ := h.invariant (I := fun s => Clean s ∧ Served s) ⟨clean_init, served_init⟩
    fun {s a s'} _ ⟨hclean, hserved⟩ hc hs => ⟨hclean.step hc.1 hs, hserved.step hclean hc hs⟩
  obtain ⟨ha, rfl⟩ := step_eq_some hs
  obtain ⟨hr, hg⟩ := of_decide_eq_true ha
  refine (readerFrame_data_goes_on (s := { s with down := s.down.pop f }) hf hr).2 ?_
  have hid := hserved id
  rw [downstream, (Link.pop_of_gives hclean.down hg).2.1] at hid
  exact hid.1 (by rw [hf]; exact decide_eq_true rfl)

/-- The backend of player 0 closes while a byte of the player is on its way to it. -/
def closeBackendBeforeData : List Action :=
  [.clientRead 0 0 [9], .handleWriter ⟨.packet 0 ⟨[9]⟩, some 0⟩,
    .handleWriterFeed ⟨.proxyData ⟨0, ⟨[9]⟩⟩, some 0⟩, .downWrite 1,
    .backendReadEnds 0, .writerHandlerFlushed, .writerHandler ⟨.removeMinecraftClient 0, some 0⟩,
    .readerDisconnect 0]

theorem reader_handler_ended_by_data :
    ∃ s s' f packet, Lts.Reach step (fun _ _ => True) init s ∧ f.val = .proxyData packet ∧
      s.step (.readerHandler f) = some s' ∧ s'.clientReader ≠ true := by
  obtain ⟨s, hrun, s', hs', hr⟩ : ∃ s, Lts.run step init (joinAndRead ++ closeBackendBeforeData) = some s ∧
      ∃ s', s.step (.readerHandler ⟨.proxyData ⟨0, ⟨[9]⟩⟩, some 0⟩) = some s' ∧ s'.clientReader = false := by
    decide +kernel
  exact ⟨s, s', _, _, Lts.Reach.of_run hrun (.of_forall (fun _ _ => trivial) _ _), rfl, hs', by simp [hr]⟩

/-- The backend of player 2 closes, and then a byte of player 1 comes. -/
def closeAndRead : List Action :=
  leaveAndRejoin ++ [.backendReadEnds 2, .writerHandler ⟨.removeMinecraftClient 0, some 2⟩, .readerDisconnect 0,
    .clientRead 1 1 [9], .handleWriter ⟨.packet 1 ⟨[9]⟩, some 1⟩,
    .handleWriterFeed ⟨.proxyData ⟨1, ⟨[9]⟩⟩, some 1⟩, .downWrite 1]

theorem reader_handler_survives_close :
    ∃ s s', Lts.run step init closeAndRead = some s ∧ s.isRegistered 0 = false ∧
      s.step (.readerHandler ⟨.proxyData ⟨1, ⟨[9]⟩⟩, some 1⟩) = some s' ∧ s'.clientReader = true := by
  obtain ⟨s, hrun, hgone, hstep⟩ : ∃ s, Lts.run step init closeAndRead = some s ∧ s.isRegistered 0 = false ∧
      (s.step (.readerHandler ⟨.proxyData ⟨1, ⟨[9]⟩⟩, some 1⟩)).isSome = true := by
    decide +kernel
  obtain ⟨s', hs'⟩ := Option.isSome_iff_exists.1 hstep
  exact ⟨s, s', hrun, hgone, hs',
    reader_handler_survives_data (Lts.Reach.of_run hrun (by decide +kernel)) rfl hs'⟩

end Session
end CraftIP
