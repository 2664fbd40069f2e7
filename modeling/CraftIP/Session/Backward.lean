import CraftIP.Session.Backend

/-!
# From the backend to the tunnel

When no id is given twice, the data frames that `writer_handler` has made for an id and the packets that
wait for it make up the bytes read by the backend connection with the id, in their order (`Answered`).
-/

namespace CraftIP
open Function (update)

namespace Session

/-- The frames that `writer_handler` has made. -/
def answers (s : Session) : List (Marked Conn SocketPacket) :=
  s.up.history ++ WriterHandler.held s.clientWriter

/-- A backend connection has, or had, the id. -/
def Opened (s : Session) (id : ClientID) : Prop := ∃ c < s.opened, (s.conns c).clientId = id

/-- While `writer_handler` runs, nothing that was read from a backend is lost, doubled or out of order. -/
structure Answered (s : Session) : Prop where
  toProxy : ∀ m ∈ s.toProxy, ∀ id, m.val.names id = true → s.Opened id
  frames : ∀ f ∈ s.answers, ∀ id, f.val.names id = true → s.Opened id
  sent : s.clientWriter ≠ .ended → ∀ c < s.opened,
    dataFor (s.conns c).clientId s.answers ++ backendFor (s.conns c).clientId s.toProxy = (s.conns c).bytesRead
  history : ∀ c < s.opened, dataFor (s.conns c).clientId s.up.history <+: (s.conns c).bytesRead

theorem answered_init : Answered init where
  toProxy := by simp [init]
  frames := by simp [init, answers, WriterHandler.held, Link.history, Link.inFlight, Link.empty]
  sent _ c h := absurd h (Nat.not_lt_zero c)
  history c h := absurd h (Nat.not_lt_zero c)

variable {s s' : Session}

theorem answers_of_recv (h : s.clientWriter = .tryRecv ∨ s.clientWriter = .recv) :
    s.answers = s.up.history := by
  rcases h with h | h <;> simp [answers, h, WriterHandler.held]

theorem clientWriter_ne_ended (h : s.clientWriter = .tryRecv ∨ s.clientWriter = .recv) :
    s.clientWriter ≠ .ended := by
  rcases h with h | h <;> simp [h]

theorem answers_endClientWriter : s.endClientWriter.answers = s.up.history := List.append_nil _

/-- The frame that `writer_handler` held is lost with it. -/
theorem Answered.endClientWriter (h : Answered s) : Answered s.endClientWriter where
  toProxy := (fun _ hm => by cases hm)
  frames f hf := h.frames f (List.mem_append_left _ (answers_endClientWriter ▸ hf))
  sent hw := absurd rfl hw
  history := h.history

/-- The frames are the same, wherever they are. -/
theorem Answered.relink (h : Answered s) (up : Link (Marked Conn SocketPacket)) (w : WriterHandler)
    (hanswers : up.history ++ WriterHandler.held w = s.answers) (hw : w ≠ .ended → s.clientWriter ≠ .ended)
    (hhistory : ∀ c < s.opened, dataFor (s.conns c).clientId up.history <+: (s.conns c).bytesRead) :
    Answered { s with up, clientWriter := w } where
  toProxy := h.toProxy
  frames f hf := h.frames f (hanswers ▸ hf)
  sent hne c hc := by rw [answers, hanswers]; exact h.sent (hw hne) c hc
  history := hhistory

/-- `writer_handler` makes a frame of a message. -/
theorem Answered.feed (h : Answered s) (hw : s.clientWriter = .tryRecv ∨ s.clientWriter = .recv)
    {m : Marked Conn BackendToProxy} {q : List (Marked Conn BackendToProxy)} (hq : s.toProxy = m :: q)
    {f : Marked Conn SocketPacket} (hnames : ∀ id, f.val.names id = m.val.names id)
    (hbytes : ∀ id, f.val.bytesFor id = m.val.bytesFor id) (rx : List ClientID) :
    Answered { s with toProxy := q, disconnectRx := rx, clientWriter := .feed f } := by
  have hanswers : ∀ rx, answers { s with toProxy := q, disconnectRx := rx, clientWriter := .feed f } =
      s.answers ++ [f] := fun _ => by rw [answers_of_recv hw]; rfl
  have hmem : m ∈ s.toProxy := hq ▸ List.mem_cons_self
  refine
    { toProxy := fun m' hm' => h.toProxy m' (hq ▸ List.mem_cons_of_mem m hm')
      frames := ?_
      sent := fun _ c hc => ?_
      history := h.history }
  · rw [hanswers]
    exact forall_mem_append_singleton h.frames fun id he => h.toProxy m hmem id (hnames id ▸ he)
  · have hsent := h.sent (clientWriter_ne_ended hw) c hc
    rw [hq, backendFor_cons, ← List.append_assoc, ← hbytes] at hsent
    rw [hanswers, dataFor_append, dataFor_singleton]
    exact hsent

theorem Answered.backendMessage (h : Answered s) (hw : s.clientWriter = .tryRecv ∨ s.clientWriter = .recv)
    {m : Marked Conn BackendToProxy} (hm : s.toProxy.head? = some m) :
    Answered ({ s with toProxy := s.toProxy.tail }.backendMessage m) := by
  obtain ⟨q, hq⟩ := List.head?_eq_some_iff.1 hm
  rw [hq, List.tail_cons]
  apply backendMessage_cases (motive := Answered) { s with toProxy := q } m
  case packet =>
    intro id pkg hv
    exact h.feed hw hq (fun id' => by rw [hv]; rfl) (fun id' => by rw [hv]; rfl) _
  case remove =>
    intro id hv
    exact h.feed hw hq (fun id' => by rw [hv]; rfl) (fun id' => by rw [hv]; rfl) _
  case ping =>
    intro ping hv
    exact h.feed hw hq (fun id' => by rw [hv]; rfl) (fun id' => by rw [hv]; rfl) _
  case ends => exact { h.endClientWriter with }

theorem Answered.handleMessage (h : Answered s) (m : Marked Player (ClientToProxy Player Player)) :
    Answered (s.handleMessage m) := by
  apply handleMessage_cases (motive := Answered) s m <;> intros <;> exact { h with }

theorem Answered.handleFrame (h : Answered s) (f : Marked Conn SocketPacket) :
    Answered (s.handleFrame f) := by
  apply handleFrame_cases (motive := Answered) s f <;> intros <;> exact { h with }

theorem Opened.update_conn {id : ClientID} (h : s.Opened id) {c : Conn} {x : ClientConnection}
    (hid : x.clientId = (s.conns c).clientId) : Opened { s with conns := update s.conns c x } id := by
  obtain ⟨d, hd, he⟩ := h
  refine ⟨d, hd, ?_⟩
  show (update s.conns c x d).clientId = id
  rw [Function.update_apply]
  split
  · next hdc => rw [hid, ← hdc, he]
  · exact he

/-- A connection does something else than reading. -/
theorem Answered.update_conn (h : Answered s) {c : Conn} {x : ClientConnection}
    (hid : x.clientId = (s.conns c).clientId) (hread : x.bytesRead = (s.conns c).bytesRead) :
    Answered { s with conns := update s.conns c x } where
  toProxy m hm id he := (h.toProxy m hm id he).update_conn hid
  frames f hf id he := (h.frames f hf id he).update_conn hid
  sent hw := forall_conns (R := fun d x => d < s.opened →
    dataFor x.clientId s.answers ++ backendFor x.clientId s.toProxy = x.bytesRead) (h.sent hw)
    fun hc => by rw [hid, hread]; exact h.sent hw c hc
  history := forall_conns (R := fun d x => d < s.opened → dataFor x.clientId s.up.history <+: x.bytesRead)
    h.history fun hc => by rw [hid, hread]; exact h.history c hc

/-- The messages to `writer_handler` change by some without data. -/
theorem Answered.requeue (h : Answered s) {q : List (Marked Conn BackendToProxy)}
    (hnames : ∀ m ∈ q, ∀ id, m.val.names id = true → s.Opened id)
    (hq : ∀ id, backendFor id q = backendFor id s.toProxy) : Answered { s with toProxy := q } where
  toProxy := hnames
  frames := h.frames
  sent hw c hc := by
    show _ ++ backendFor _ q = _
    rw [hq]; exact h.sent hw c hc
  history := h.history

theorem backendFor_offerBackend {m : Marked Conn BackendToProxy} {id : ClientID}
    (hm : m.val.bytesFor id = []) : backendFor id (s.offerBackend m) = backendFor id s.toProxy := by
  rw [offerBackend]
  split
  · rfl
  · rw [backendFor_append, backendFor_cons, hm]; exact List.append_nil _

/-- A connection is opened under an id that no connection had. -/
theorem Answered.join (h : Answered s) {id : ClientID} (hnew : ∀ c < s.opened, (s.conns c).clientId ≠ id)
    (P : Option Player) (client : Client Conn) :
    Answered { s with
      client
      conns := update s.conns s.opened (.new id P)
      opened := s.opened + 1 } := by
  have hsame : ∀ c < s.opened, update s.conns s.opened (.new id P) c = s.conns c := fun c hc =>
    Function.update_of_ne (Nat.ne_of_lt hc) _ _
  have hself : update s.conns s.opened (.new id P) s.opened = .new id P := Function.update_self _ _ _
  have hopened : ∀ {id'}, s.Opened id' → Opened { s with
      client
      conns := update s.conns s.opened (.new id P)
      opened := s.opened + 1 } id' := by
    rintro id' ⟨c, hc, he⟩
    exact ⟨c, Nat.lt_succ_of_lt hc, (congrArg _ (hsame c hc)).trans he⟩
  have hno : ¬ s.Opened id := fun ⟨c, hc, he⟩ => hnew c hc he
  have hdata : dataFor id s.answers = [] := dataFor_eq_nil fun f hf =>
    Bool.eq_false_iff.2 fun he => hno (h.frames f hf id he)
  have hqueue : backendFor id s.toProxy = [] := backendFor_eq_nil fun m hm =>
    Bool.eq_false_iff.2 fun he => hno (h.toProxy m hm id he)
  refine
    { toProxy := fun m hm id' he => hopened (h.toProxy m hm id' he)
      frames := fun f hf id' he => hopened (h.frames f hf id' he)
      sent := fun hw c hc => ?_
      history := fun c hc => ?_ }
  · show dataFor (update s.conns s.opened (.new id P) c).clientId s.answers ++
      backendFor (update s.conns s.opened (.new id P) c).clientId s.toProxy =
        (update s.conns s.opened (.new id P) c).bytesRead
    rcases Nat.lt_succ_iff_lt_or_eq.1 hc with hlt | rfl
    · rw [hsame c hlt]; exact h.sent hw c hlt
    · rw [hself]
      show dataFor id s.answers ++ backendFor id s.toProxy = []
      rw [hdata, hqueue]; rfl
  · show dataFor (update s.conns s.opened (.new id P) c).clientId s.up.history <+:
      (update s.conns s.opened (.new id P) c).bytesRead
    rcases Nat.lt_succ_iff_lt_or_eq.1 hc with hlt | rfl
    · rw [hsame c hlt]; exact h.history c hlt
    · rw [hself]
      show dataFor id s.up.history <+: []
      rw [List.prefix_nil]
      rw [answers, dataFor_append] at hdata
      exact (List.append_eq_nil_iff.1 hdata).1

theorem Answered.readerFrame (h : Answered s) {f : Marked Player SocketPacket}
    (hnew : ∀ id, f.val = .proxyJoin id → ∀ c < s.opened, (s.conns c).clientId ≠ id) :
    Answered (s.readerFrame f) := by
  apply readerFrame_cases (motive := Answered) s f
  case join => intro id hv; exact h.join (hnew id hv) _ _
  case data => intros; exact h.update_conn rfl rfl
  case disconnect =>
    intro id c hv hc
    exact { h.update_conn (c := c) (x := { s.conns c with disconnected := true }) rfl rfl with }
  case dataLost => intros; exact { h with }
  case dataNone => intros; exact { h with }
  case disconnectNone => intros; exact { h with }
  case pong => intros; exact h
  case unexpected => intros; exact { h with }

theorem Answered.step {a : Action} (h : Answered s) (harrived : Arrived s) (hsent : Sent s) (hclean : Clean s)
    (hfails : a.socketFails = false) (hs : s.step a = some s') : Answered s' := by
  obtain ⟨ha, rfl⟩ := step_eq_some hs
  cases a with
  | handleWriter m =>
    have hs : Answered { s with queue := s.queue.tail } := { h with }
    exact hs.handleMessage m
  | handleReader f =>
    have hhistory := (Link.pop_of_gives hclean.up (of_decide_eq_true ha).2).2.2.1
    have hs : Answered { s with up := s.up.pop f } :=
      h.relink (s.up.pop f) s.clientWriter (by rw [hhistory]; rfl) id (hhistory ▸ h.history)
    exact hs.handleFrame f
  | upWrite n =>
    exact h.relink (s.up.write n) s.clientWriter (by rw [Link.history_write]; rfl) id
      (by rw [Link.history_write]; exact h.history)
  | readerHandler f =>
    have hin := (Link.pop_of_gives hclean.down (of_decide_eq_true ha).2).2.1
    have hs : Answered { s with down := s.down.pop f } := { h with }
    exact hs.readerFrame fun id hv => harrived.clientId_ne (hsent.not_taken hin hv)
  | readerPing time =>
    exact { h.requeue (forall_mem_offerBackend h.toProxy (by simp [BackendToProxy.names]))
      fun id => backendFor_offerBackend (s := s) (m := ⟨.ping time, none⟩) rfl with }
  | writerHandler m =>
    obtain ⟨hw, hm⟩ := of_decide_eq_true ha
    exact h.backendMessage hw hm
  | writerHandlerFeed f =>
    have hw := of_decide_eq_true ha
    have hanswers : (s.up.feed (fits f.val) f).history ++ WriterHandler.held .tryRecv = s.answers := by
      rw [Link.history_feed, answers, hw]; exact List.append_nil _
    have hne : s.clientWriter ≠ .ended := by rw [hw]; simp
    refine h.relink _ _ hanswers (fun _ => hne) fun c hc => ?_
    have hsent := h.sent hne c hc
    rw [← hanswers] at hsent
    exact hsent ▸ (by rw [dataFor_append, List.append_assoc]; exact List.prefix_append _ _)
  | writerHandlerEmpty =>
    have hw := (of_decide_eq_true ha).1
    exact h.relink s.up .flush (by rw [answers, hw]; rfl) (by simp [hw]) h.history
  | writerHandlerFlushed =>
    have hw := (of_decide_eq_true ha).1
    exact h.relink s.up .recv (by rw [answers, hw]; rfl) (by simp [hw]) h.history
  | writerHandlerAborted => exact h.endClientWriter
  | backendRead c chunk =>
    obtain ⟨htask, -⟩ := of_decide_eq_true ha
    have hc : c < s.opened := harrived.lt_opened (by simp [htask])
    set x : ClientConnection := { s.conns c with
      bytesRead := (s.conns c).bytesRead ++ chunk
      task := if s.clientWriter = .ended then .dropping else .select } with hx
    have hopened : ∀ {id}, s.Opened id → Opened { s with conns := update s.conns c x } id :=
      fun ho => ho.update_conn rfl
    refine
      { toProxy := forall_mem_offerBackend (fun m hm id he => hopened (h.toProxy m hm id he)) fun id he => ?_
        frames := fun f hf id he => hopened (h.frames f hf id he)
        sent := fun hw d hd => ?_
        history := ?_ }
    · exact hopened ⟨c, hc, of_decide_eq_true he⟩
    · have hne : s.clientWriter ≠ .ended := hw
      have hsent := h.sent hne d hd
      show dataFor (update s.conns c x d).clientId s.answers ++
        backendFor (update s.conns c x d).clientId
          (s.offerBackend ⟨.packet (s.conns c).clientId ⟨chunk⟩, some c⟩) =
          (update s.conns c x d).bytesRead
      rw [offerBackend, if_neg hne, backendFor_append, backendFor_cons, backendFor_nil, List.append_nil,
        BackendToProxy.bytesFor, ← List.append_assoc]
      by_cases hdc : d = c
      · subst hdc
        rw [Function.update_self, if_pos rfl]
        show dataFor (s.conns d).clientId s.answers ++ backendFor (s.conns d).clientId s.toProxy ++ chunk =
          (s.conns d).bytesRead ++ chunk
        rw [hsent]
      · rw [Function.update_of_ne hdc, if_neg fun he => hdc (harrived.inj d hd c hc he.symm), List.append_nil]
        exact hsent
    · exact forall_conns (R := fun d x => d < s.opened → dataFor x.clientId s.up.history <+: x.bytesRead)
        h.history fun _ => (h.history c hc).trans (List.prefix_append _ _)
  | backendReadEnds c =>
    have htask : (s.conns c).task = .select := of_decide_eq_true ha
    have hc : c < s.opened := harrived.lt_opened (by simp [htask])
    have hs := h.requeue (q := s.offerBackend ⟨.removeMinecraftClient (s.conns c).clientId, some c⟩)
      (forall_mem_offerBackend h.toProxy fun id he => ⟨c, hc, of_decide_eq_true he⟩)
      fun id => backendFor_offerBackend rfl
    exact { hs.update_conn (c := c) (x := { s.conns c with task := .dropping }) rfl rfl with }
  | backendConnected | backendRecv | backendWrite | backendWritten | backendClosed | backendDropped =>
    exact h.update_conn rfl rfl
  | clientWriterFlushFails | clientWriterFails | handleWriterFails | writerHandlerFails
  | backendConnectFails | backendWriteFails => cases hfails
  | connect | joinFails | sendStart | clientRead | clientReadEnds | clientWriterTake | clientWriterDrained
  | clientWriterWrite | clientWriterFlushed | clientWriterClosed | clientWriterAborted | clientFinish
  | handleWriterFeed | handleWriterEmpty | handleWriterFlushed | handleWriterAborted | handleReaderEnds
  | handleEnds | downWrite | readerDisconnect | readerDisconnectClosed | readerEnds => exact { h with }

end Session
end CraftIP
