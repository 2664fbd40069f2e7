import CraftIP.Session.Exchange

/-!
# Whose connection is closed

A removal that a backend connection sends reaches `reader_handler` over `disconnect_rx`, beside the frames
of the tunnel, and names an id only. `Requested` says whose the removals in `disconnect_rx` are. Where a
`ProxyJoin` only comes when nothing is left that removes an earlier connection with the id, and the server
gives an id only when nothing is left that removes its earlier holder, every slot is emptied for its own
connection (`removal_hits_connection`).
-/

namespace CraftIP
open Function (update)

/-- A session, and the removals in `disconnect_rx` with the connections they are of. -/
structure Requested where
  session : Session
  requests : List (Marked Conn ClientID)

namespace Requested
open Session

def init : Requested := ⟨Session.init, []⟩

/-- `disconnect_tx` and `disconnect_rx`. -/
def requestsAfter (t : Requested) : Action → List (Marked Conn ClientID)
  | .writerHandler m =>
    match m.val with
    | .removeMinecraftClient id => if t.session.clientReader then t.requests ++ [⟨id, m.of⟩] else t.requests
    | _ => t.requests
  | .readerDisconnect _ => t.requests.tail
  | _ => t.requests

def step (t : Requested) (a : Action) : Option Requested :=
  (t.session.step a).map fun s => ⟨s, t.requestsAfter a⟩

theorem step_session (t : Requested) (a : Action) : (t.step a).map session = t.session.step a := by
  rw [step, Option.map_map]
  exact congrFun Option.map_id _

/-- The requests are only looked at: the runs are those of the session. -/
theorem run_session (as : List Action) :
    (Lts.run step init as).map session = Lts.run Session.step Session.init as :=
  Lts.run_map session step_session as init

end Requested

/-! ### The last place of a value in a list -/

section Last
variable {α : Type} {l : List α} {x y : α} {i j : Nat}

def LastAt (l : List α) (x : α) (i : Nat) : Prop := l[i]? = some x ∧ ∀ j, l[j]? = some x → j ≤ i

theorem LastAt.unique (hi : LastAt l x i) (hj : LastAt l x j) : i = j :=
  Nat.le_antisymm (hj.2 i hi.1) (hi.2 j hj.1)

theorem LastAt.concat (h : LastAt l x i) (hne : y ≠ x) : LastAt (l ++ [y]) x i := by
  have hlt : i < l.length := (List.getElem?_eq_some_iff.1 h.1).1
  refine ⟨by rw [List.getElem?_append_left hlt]; exact h.1, fun j hj => ?_⟩
  by_cases hjl : j < l.length
  · rw [List.getElem?_append_left hjl] at hj
    exact h.2 j hj
  · rw [List.getElem?_append_right (Nat.le_of_not_lt hjl)] at hj
    obtain ⟨_, hy⟩ := List.getElem?_eq_some_iff.1 hj
    rw [List.getElem_singleton] at hy
    exact absurd hy hne

theorem lastAt_concat (l : List α) (x : α) : LastAt (l ++ [x]) x l.length := by
  refine ⟨by simp, fun j hj => ?_⟩
  have hlt := (List.getElem?_eq_some_iff.1 hj).1
  rw [List.length_append, List.length_singleton] at hlt
  exact Nat.lt_succ_iff.1 hlt

end Last

namespace Session

variable {s s' : Session}

/-! ### The disconnects of the server -/

/-- Whose joins and disconnects the frames of an id are: the state is the mark of the last join. -/
def departure (id : ClientID) : Monitor (Option Player) (Marked Player SocketPacket) where
  next P f := if f.val = .proxyJoin id then f.of else P
  ok P f := f.val = .proxyDisconnect id → f.of = P

/-- Every disconnect that `handle_writer` makes follows the join of its player, and the last join of an id
is its owner's. -/
structure Parted (s : Session) : Prop where
  frames : ∀ id, (departure id).Accepts none s.made
  last : s.writer ≠ .ended → ∀ id, (departure id).final none s.made = s.owner id

theorem parted_init : Parted init := ⟨fun _ => trivial, fun _ _ => rfl⟩

theorem Parted.endWriter (h : Parted s) : Parted s.endWriter :=
  ⟨fun id => by rw [made_endWriter]; exact (h.frames id).left, fun hw => absurd rfl hw⟩

theorem Parted.relink (h : Parted s) (down : Link (Marked Player SocketPacket)) (w : HandleWriter)
    (hmade : down.history ++ HandleWriter.held w = s.made) (hw : w ≠ .ended → s.writer ≠ .ended) :
    Parted { s with down, writer := w } :=
  ⟨fun id => by rw [made, hmade]; exact h.frames id,
    fun hne id => by rw [made, hmade]; exact h.last (hw hne) id⟩

/-- `handle_writer` takes up a frame that starts no connection. -/
theorem Parted.feed (h : Parted s) (hw : s.writer = .recv ∨ s.writer = .tryRecv)
    {f : Marked Player SocketPacket} (hjoin : ∀ id, f.val ≠ .proxyJoin id)
    (hdis : ∀ id, f.val = .proxyDisconnect id → f.of = s.owner id) : Parted { s with writer := .feed f } := by
  have hmade : made { s with writer := .feed f } = s.made ++ [f] := by rw [made_of_recv hw]; rfl
  have hlast := h.last (writer_ne_ended hw)
  refine ⟨fun id => ?_, fun _ id => ?_⟩
  · rw [hmade, Monitor.accepts_concat, hlast]
    exact ⟨h.frames id, hdis id⟩
  · rw [hmade, Monitor.final_append, hlast]
    exact if_neg (hjoin id)

theorem Parted.handleMessage (h : Parted s) (hj : Joining s) (hr : Removing s)
    (hw : s.writer = .recv ∨ s.writer = .tryRecv) {m : Marked Player (ClientToProxy Player Player)}
    (hm : s.queue.head? = some m) : Parted ({ s with queue := s.queue.tail }.handleMessage m) := by
  have htail : Parted { s with queue := s.queue.tail } := { h with }
  apply handleMessage_cases (motive := Parted) { s with queue := s.queue.tail } m
  case full => intros; exact htail.endWriter
  case joined =>
    intro P tx id d startData hv hins hphase
    obtain ⟨rfl, -, -⟩ := hj.awaiting hm hv
    have hmade : s.down.history ++ [⟨.proxyJoin id, some P⟩] = s.made ++ [⟨.proxyJoin id, some P⟩] := by
      rw [made_of_recv hw]
    refine ⟨fun id' => ?_, fun _ id' => ?_⟩
    · show (departure id').Accepts none (s.down.history ++ [_])
      rw [hmade, Monitor.accepts_concat]
      exact ⟨h.frames id', fun he => by cases he⟩
    · show (departure id').final none (s.down.history ++ [_]) = update s.owner id (some P) id'
      rw [hmade, Monitor.final_append, h.last (writer_ne_ended hw), Function.update_apply]
      show (if SocketPacket.proxyJoin id = .proxyJoin id' then some P else s.owner id') = _
      simp only [SocketPacket.proxyJoin.injEq, eq_comm]
  case gone => intros; exact ⟨htail.endWriter.frames, fun hw => absurd rfl hw⟩
  case packet => intros; exact htail.feed hw (by simp) (by simp)
  case ping => intros; exact htail.feed hw (by simp) (by simp)
  case removed =>
    intro id hv _
    have hfeed := htail.feed hw (f := ⟨.proxyDisconnect id, m.of⟩) (by simp) fun id' he => by
      cases he
      exact hr.queue m (List.mem_of_mem_head? hm) id hv
    exact { hfeed with }
  case unknown =>
    intros
    have hlink := htail.relink s.down .tryRecv (by show _ = s.made; rw [made_of_recv hw]; exact List.append_nil _)
      (fun _ => writer_ne_ended hw)
    exact { hlink with }

theorem Parted.step {a : Action} (h : Parted s) (hj : Joining s) (hr : Removing s) (hs : s.step a = some s') :
    Parted s' := by
  obtain ⟨ha, rfl⟩ := step_eq_some hs
  cases a with
  | handleWriter m =>
    obtain ⟨hw, hm⟩ := of_decide_eq_true ha
    exact h.handleMessage hj hr hw hm
  | handleWriterFeed f =>
    have hw := of_decide_eq_true ha
    refine h.relink (s.down.feed (fits f.val) f) .tryRecv ?_ (fun _ => by rw [hw]; simp)
    rw [Link.history_feed, made, hw]; exact List.append_nil _
  | handleWriterEmpty =>
    have hw := (of_decide_eq_true ha).1
    exact h.relink s.down .flush (by rw [made, hw]; rfl) (fun _ => by rw [hw]; simp)
  | handleWriterFlushed =>
    have hw := (of_decide_eq_true ha).1
    exact h.relink s.down .recv (by rw [made, hw]; rfl) (fun _ => by rw [hw]; simp)
  | handleWriterFails | handleWriterAborted => exact h.endWriter
  | downWrite n =>
    exact h.relink (s.down.write n) s.writer (by rw [Link.history_write]; rfl) (fun hw => hw)
  | handleReader f =>
    apply handleFrame_cases (motive := Parted) { s with up := s.up.pop f } f <;> intros <;> exact { h with }
  | readerHandler f =>
    have hs : Parted { s with down := s.down.pop f } :=
      h.relink (s.down.pop f) s.writer (by rw [Link.history_pop]; rfl) (fun hw => hw)
    apply readerFrame_cases (motive := Parted) { s with down := s.down.pop f } f <;> intros <;> exact { hs with }
  | writerHandler m =>
    apply backendMessage_cases (motive := Parted) { s with toProxy := s.toProxy.tail } m <;>
      intros <;> exact { h with }
  | _ => exact { h with }

/-- The disconnect that the client takes next is of the player of the last join it has taken. -/
theorem Parted.of_gives (h : Parted s) (hclean : s.down.garbled = false) {f : Marked Player SocketPacket}
    (hg : s.down.Gives f) {id : ClientID} (hf : f.val = .proxyDisconnect id) : f.of = s.joined id := by
  have hin := (Link.pop_of_gives hclean hg).2.1
  have hframes := h.frames id
  rw [made, Link.history, hin, List.append_assoc, Monitor.accepts_append] at hframes
  exact hframes.2.1 hf

/-! ### The newest connection of an id -/

/-- The connection is the last that was opened with the id. -/
def Newest (s : Session) (id : ClientID) (c : Conn) : Prop := LastAt s.clientIds id c

theorem Newest.step {a : Action} {id : ClientID} {c : Conn} (h : s.Newest id c) (hs : s.step a = some s')
    (hne : id ∉ joinedId a) : s'.Newest id c := by
  rw [Newest, clientIds_step hs]
  cases hj : joinedId a with
  | none => rw [Option.toList_none, List.append_nil]; exact h
  | some id' =>
    refine LastAt.concat h fun he => hne ?_
    rw [hj, he]; rfl

theorem newest_join {a : Action} {id : ClientID} (hs : s.step a = some s') (hj : joinedId a = some id) :
    s'.Newest id s.opened := by
  have hlast := lastAt_concat s.clientIds id
  rw [clientIds, List.length_map, List.length_range] at hlast
  rw [Newest, clientIds_step hs, hj]
  exact hlast

theorem Newest.lt_opened {id : ClientID} {c : Conn} (h : s.Newest id c) : c < s.opened := by
  have hlt := (List.getElem?_eq_some_iff.1 h.1).1
  rwa [clientIds, List.length_map, List.length_range] at hlt

theorem Newest.clientId {id : ClientID} {c : Conn} (h : s.Newest id c) :
    (s.conns c).clientId = id := by
  obtain ⟨hlt, he⟩ := List.getElem?_eq_some_iff.1 h.1
  simpa [clientIds] using he

/-- No connection with the id goes on, and no removal of the id is left. -/
def ConnectionGone (s : Session) (id : ClientID) : Prop :=
  (∀ c < s.opened, (s.conns c).clientId = id → (s.conns c).live = false) ∧
    (∀ m ∈ s.toProxy, m.val ≠ .removeMinecraftClient id) ∧ id ∉ s.disconnectRx

instance (s : Session) (id : ClientID) : Decidable (s.ConnectionGone id) :=
  inferInstanceAs (Decidable (_ ∧ _ ∧ _))

/-- First packets are short, the server gives an id when the earlier holder's removal is done, and a
`ProxyJoin` comes when the earlier connection with its id has gone and no removal of the id is left. -/
def ConnectionFree (s : Session) (a : Action) : Prop :=
  ShortStart a ∧ (∀ id ∈ s.givenId a, s.RemoveGone id) ∧ ∀ id ∈ joinedId a, s.ConnectionGone id

instance (s : Session) (a : Action) : Decidable (s.ConnectionFree a) :=
  inferInstanceAs (Decidable (_ ∧ _ ∧ _))

/-- The connections in slots, those that go on and those that asked for their removal are the newest. -/
structure Asking (s : Session) : Prop where
  slot : ∀ id c, s.client.connection id = some c → s.Newest id c
  live : ∀ c, (s.conns c).live = true → s.Newest (s.conns c).clientId c
  toProxy : ∀ m ∈ s.toProxy, ∀ id, m.val = .removeMinecraftClient id → ∃ c, m.of = some c ∧ s.Newest id c

theorem asking_init : Asking init where
  slot id c h := by simp [init] at h
  live _ h := by cases h
  toProxy := by simp [init]

theorem Asking.mono (h : Asking s) (hnewest : ∀ id c, s.Newest id c → s'.Newest id c)
    (hslot : ∀ id c, s'.client.connection id = some c → s.client.connection id = some c)
    (hconns : ∀ c, (s'.conns c).clientId = (s.conns c).clientId ∧
      ((s'.conns c).live = true → (s.conns c).live = true))
    (htoProxy : ∀ m ∈ s'.toProxy, ∀ id, m.val = .removeMinecraftClient id →
      ∃ c, m.of = some c ∧ s.Newest id c) : Asking s' where
  slot id c hc := hnewest id c (h.slot id c (hslot id c hc))
  live c hc := by rw [(hconns c).1]; exact hnewest _ c (h.live c ((hconns c).2 hc))
  toProxy m hm id hv := by
    obtain ⟨c, hc, hn⟩ := htoProxy m hm id hv
    exact ⟨c, hc, hnewest id c hn⟩

theorem connection_removeConnection_eq_some {client : Client Conn} {id id' : ClientID} {c : Conn}
    (h : (client.removeConnection id).connection id' = some c) : client.connection id' = some c := by
  rw [Client.connection_removeConnection] at h
  split at h
  · cases h
  · exact h

theorem Asking.join (h : Asking s) {f : Marked Player SocketPacket} {id : ClientID} (hf : f.val = .proxyJoin id)
    (hs : s.step (.readerHandler f) = some s') (hgone : s.ConnectionGone id) : Asking s' := by
  have hjoin : joinedId (.readerHandler f) = some id := by simp [joinedId, clientReceives, hf]
  have hnew : s'.Newest id s.opened := newest_join hs hjoin
  have hold : ∀ {id' : ClientID} {c : Conn}, s.Newest id' c → id' ≠ id → s'.Newest id' c := by
    intro id' c hn hne
    refine hn.step hs fun he => hne ?_
    rw [hjoin] at he
    exact (Option.some.inj he).symm
  obtain ⟨-, rfl⟩ := step_eq_some hs
  have hnext : s.next (.readerHandler f) = { s with
      down := s.down.pop f
      client := s.client.addConnection id s.opened
      conns := update s.conns s.opened (.new id f.of)
      opened := s.opened + 1 } := by
    show readerFrame _ f = _
    rw [readerFrame, hf]
  refine { slot := fun id' c hc => ?_, live := fun c hc => ?_, toProxy := fun m hm id' hv => ?_ }
  · rw [hnext] at hc
    change (s.client.addConnection id s.opened).connection id' = some c at hc
    rw [Client.connection_addConnection] at hc
    split at hc
    · next he =>
      obtain ⟨rfl, -⟩ := he
      cases hc
      exact hnew
    · next he =>
      refine hold (h.slot id' c hc) fun heq => he ?_
      subst heq
      exact ⟨rfl, Client.lt_of_connection hc⟩
  · have hconns : (s.next (.readerHandler f)).conns = update s.conns s.opened (.new id f.of) := by rw [hnext]
    rw [hconns, Function.update_apply] at hc ⊢
    split at hc
    · next he => rw [if_pos he, he]; exact hnew
    · next he =>
      rw [if_neg he]
      have hn := h.live c hc
      refine hold hn fun heq => ?_
      rw [hgone.1 c hn.lt_opened heq] at hc
      cases hc
  · rw [hnext] at hm
    obtain ⟨c, hc, hn⟩ := h.toProxy m hm id' hv
    exact ⟨c, hc, hold hn fun heq => hgone.2.1 m hm (heq ▸ hv)⟩

theorem Asking.step {a : Action} (h : Asking s) (hfree : ∀ id ∈ joinedId a, s.ConnectionGone id)
    (hs : s.step a = some s') : Asking s' := by
  by_cases hjoin : joinedId a = none
  · have hnewest : ∀ id c, s.Newest id c → s'.Newest id c := fun id c hn =>
      hn.step hs (by rw [hjoin]; exact fun he => by cases he)
    obtain ⟨ha, rfl⟩ := step_eq_some hs
    have hsame : ∀ c, (s.conns c).clientId = (s.conns c).clientId ∧
        ((s.conns c).live = true → (s.conns c).live = true) := fun _ => ⟨rfl, fun hc => hc⟩
    have hconn : ∀ {c : Conn} {x : ClientConnection}, x.clientId = (s.conns c).clientId →
        (x.live = true → (s.conns c).live = true) →
        ∀ d, (update s.conns c x d).clientId = (s.conns d).clientId ∧
          ((update s.conns c x d).live = true → (s.conns d).live = true) := fun hid hx =>
      forall_conns (R := fun d y => y.clientId = (s.conns d).clientId ∧
        (y.live = true → (s.conns d).live = true)) hsame ⟨hid, hx⟩
    have hlive : ∀ {c : Conn} {t : HandleClient}, (s.conns c).task = t → t ≠ .dropping → t ≠ .ended →
        (s.conns c).live = true := by
      intro c t ht h1 h2
      simp [ClientConnection.live, ht, h1, h2]
    -- a connection that goes on asks for its own removal
    have hdrop : ∀ {c : Conn} {l : List (Marked Conn BackendToProxy)}, (s.conns c).live = true →
        (∀ m ∈ l, ∀ id, m.val = .removeMinecraftClient id → ∃ d, m.of = some d ∧ s.Newest id d) →
        ∀ m ∈ { s with toProxy := l }.offerBackend ⟨.removeMinecraftClient (s.conns c).clientId, some c⟩,
          ∀ id, m.val = .removeMinecraftClient id → ∃ d, m.of = some d ∧ s.Newest id d := by
      intro c l hc hl
      refine forall_mem_offerBackend (s := { s with toProxy := l })
        (p := fun m => ∀ id, m.val = .removeMinecraftClient id → ∃ d, m.of = some d ∧ s.Newest id d) hl ?_
      intro id he
      cases he
      exact ⟨c, rfl, h.live c hc⟩
    cases a with
    | readerHandler f =>
      have hno : ∀ id, f.val ≠ .proxyJoin id := by
        intro id hv
        rw [joinedId, clientReceives, Option.bind_some, hv] at hjoin
        cases hjoin
      revert hnewest
      apply readerFrame_cases (motive := fun t => (∀ id c, s.Newest id c → t.Newest id c) → Asking t)
        { s with down := s.down.pop f } f
      case join => intro id hv; exact absurd hv (hno id)
      case data => intro _ _ _ _ _ _ hn; exact h.mono hn (fun _ _ hc => hc) (hconn rfl fun hc => hc) h.toProxy
      case dataLost =>
        intro _ _ _ _ _ _ hn
        exact h.mono hn (fun _ _ => connection_removeConnection_eq_some) hsame h.toProxy
      case dataNone => intro _ _ _ _ hn; exact h.mono hn (fun _ _ hc => hc) hsame h.toProxy
      case disconnect =>
        intro _ _ _ _ hn
        exact h.mono hn (fun _ _ => connection_removeConnection_eq_some) (hconn rfl fun hc => hc) h.toProxy
      case disconnectNone =>
        intro _ _ _ hn
        exact h.mono hn (fun _ _ => connection_removeConnection_eq_some) hsame h.toProxy
      case pong => intro _ _ hn; exact h.mono hn (fun _ _ hc => hc) hsame h.toProxy
      case unexpected => intro _ _ _ hn; exact h.mono hn (fun _ _ hc => hc) hsame h.toProxy
    | readerDisconnect id =>
      exact h.mono hnewest (fun _ _ => connection_removeConnection_eq_some) hsame h.toProxy
    | readerPing time =>
      exact h.mono hnewest (fun _ _ hc => hc) hsame (forall_mem_offerBackend h.toProxy (by simp))
    | writerHandler m =>
      revert hnewest
      apply backendMessage_cases (motive := fun t => (∀ id c, s.Newest id c → t.Newest id c) → Asking t)
        { s with toProxy := s.toProxy.tail } m
      case packet => intro _ _ _ hn; exact h.mono hn (fun _ _ hc => hc) hsame (forall_mem_tail h.toProxy)
      case remove => intro _ _ hn; exact h.mono hn (fun _ _ hc => hc) hsame (forall_mem_tail h.toProxy)
      case ping => intro _ _ hn; exact h.mono hn (fun _ _ hc => hc) hsame (forall_mem_tail h.toProxy)
      case ends => intro hn; exact h.mono hn (fun _ _ hc => hc) hsame (fun _ hm => by cases hm)
    | writerHandlerFails | writerHandlerAborted =>
      exact h.mono hnewest (fun _ _ hc => hc) hsame (fun _ hm => by cases hm)
    | backendConnected c =>
      exact h.mono hnewest (fun _ _ hc => hc)
        (hconn rfl fun _ => hlive (of_decide_eq_true ha) (by simp) (by simp)) h.toProxy
    | backendConnectFails c error =>
      exact h.mono hnewest (fun _ _ hc => hc) (hconn (x := { s.conns c with task := .dropping }) rfl
        fun hc => by cases hc) (hdrop (hlive (of_decide_eq_true ha) (by simp) (by simp))
          (forall_mem_offerBackend h.toProxy (by simp)))
    | backendRecv c data =>
      exact h.mono hnewest (fun _ _ hc => hc)
        (hconn rfl fun _ => hlive (of_decide_eq_true ha).1 (by simp) (by simp)) h.toProxy
    | backendWrite c rest n =>
      exact h.mono hnewest (fun _ _ hc => hc)
        (hconn rfl fun _ => hlive (of_decide_eq_true ha) (by simp) (by simp)) h.toProxy
    | backendWritten c =>
      exact h.mono hnewest (fun _ _ hc => hc)
        (hconn rfl fun _ => hlive (of_decide_eq_true ha) (by simp) (by simp)) h.toProxy
    | backendWriteFails c rest =>
      exact h.mono hnewest (fun _ _ hc => hc) (hconn (x := { s.conns c with task := .dropping }) rfl
        fun hc => by cases hc) (hdrop (hlive (of_decide_eq_true ha) (by simp) (by simp)) h.toProxy)
    | backendClosed c =>
      exact h.mono hnewest (fun _ _ hc => hc)
        (hconn (x := { s.conns c with task := .ended, needForClose := false }) rfl fun hc => by cases hc) h.toProxy
    | backendRead c chunk =>
      exact h.mono hnewest (fun _ _ hc => hc)
        (hconn rfl fun _ => hlive (of_decide_eq_true ha).1 (by simp) (by simp))
        (forall_mem_offerBackend h.toProxy (by simp))
    | backendReadEnds c =>
      exact h.mono hnewest (fun _ _ hc => hc) (hconn (x := { s.conns c with task := .dropping }) rfl
        fun hc => by cases hc) (hdrop (hlive (of_decide_eq_true ha) (by simp) (by simp)) h.toProxy)
    | backendDropped c =>
      exact h.mono hnewest (fun _ _ hc => hc)
        (hconn (x := { s.conns c with task := .ended }) rfl fun hc => by cases hc) h.toProxy
    | handleWriter m =>
      apply handleMessage_cases (motive := Asking) { s with queue := s.queue.tail } m <;>
        intros <;> exact { h with }
    | handleReader f =>
      apply handleFrame_cases (motive := Asking) { s with up := s.up.pop f } f <;> intros <;> exact { h with }
    | _ => exact { h with }
  · obtain ⟨id, hid⟩ := Option.ne_none_iff_exists'.1 hjoin
    cases a with
    | readerHandler f =>
      have hf : f.val = .proxyJoin id := by
        rw [joinedId, clientReceives, Option.bind_some] at hid
        split at hid
        · next hv => rw [hv, Option.some.inj hid]
        · cases hid
      exact h.join hf hs (hfree id hid)
    | _ => cases hid

end Session

namespace Requested
open Session

variable {t t' : Requested}

theorem step_eq_some {a : Action} (h : t.step a = some t') :
    t.session.step a = some t'.session ∧ t'.requests = t.requestsAfter a := by
  obtain ⟨s, hs, rfl⟩ := Option.map_eq_some_iff.1 h
  exact ⟨hs, rfl⟩

/-- The requests are those in `disconnect_rx`, each of the newest connection with its id. -/
structure Asked (t : Requested) : Prop where
  requests : t.requests.map (·.val) = t.session.disconnectRx
  newest : ∀ x ∈ t.requests, ∃ c, x.of = some c ∧ t.session.Newest x.val c

theorem requestsAfter_val {a : Action} (h : t.requests.map (·.val) = t.session.disconnectRx)
    {s' : Session} (hs : t.session.step a = some s') :
    (t.requestsAfter a).map (·.val) = s'.disconnectRx := by
  obtain ⟨ha, rfl⟩ := Session.step_eq_some hs
  cases a with
  | readerDisconnect id => exact List.map_tail.trans (congrArg List.tail h)
  | writerHandler m =>
    show List.map _ (requestsAfter _ _) = (backendMessage _ m).disconnectRx
    cases hv : m.val with
    | removeMinecraftClient id =>
      simp only [requestsAfter, backendMessage, hv]
      split
      · rw [List.map_append, h]; rfl
      · exact h
    | packet | death | ping => simp only [requestsAfter, backendMessage, hv]; exact h
  | readerHandler f =>
    apply readerFrame_cases (motive := fun s => t.requests.map (·.val) = s.disconnectRx)
      { t.session with down := t.session.down.pop f } f <;> intros <;> exact h
  | handleWriter m =>
    apply handleMessage_cases (motive := fun s => t.requests.map (·.val) = s.disconnectRx)
      { t.session with queue := t.session.queue.tail } m <;> intros <;> exact h
  | handleReader f =>
    apply handleFrame_cases (motive := fun s => t.requests.map (·.val) = s.disconnectRx)
      { t.session with up := t.session.up.pop f } f <;> intros <;> exact h
  | _ => exact h

/-- A request that is there after a step was there before, or was just made. -/
theorem mem_requestsAfter {a : Action} {x : Marked Conn ClientID} (hx : x ∈ t.requestsAfter a) :
    x ∈ t.requests ∨
      ∃ m id, a = .writerHandler m ∧ m.val = .removeMinecraftClient id ∧ x = ⟨id, m.of⟩ := by
  cases a with
  | readerDisconnect id => exact .inl (List.mem_of_mem_tail hx)
  | writerHandler m =>
    simp only [requestsAfter] at hx
    split at hx
    · next id hv =>
      split at hx
      · rcases List.mem_append.1 hx with hx | hx
        · exact .inl hx
        · exact .inr ⟨m, id, rfl, hv, List.mem_singleton.1 hx⟩
      · exact .inl hx
    · exact .inl hx
  | _ => exact .inl hx

theorem Asked.step {a : Action} (h : Asked t) (hasking : Asking t.session)
    (hfree : ∀ id ∈ joinedId a, t.session.ConnectionGone id) (hs : t.step a = some t') : Asked t' := by
  obtain ⟨hsession, hrequests⟩ := step_eq_some hs
  refine ⟨by rw [hrequests]; exact requestsAfter_val h.requests hsession, fun x hx => ?_⟩
  rw [hrequests] at hx
  rcases mem_requestsAfter hx with hold | ⟨m, id, rfl, hv, rfl⟩
  · obtain ⟨c, hof, hn⟩ := h.newest x hold
    refine ⟨c, hof, hn.step hsession fun hid => (hfree _ hid).2.2 ?_⟩
    rw [← h.requests]
    exact List.mem_map_of_mem hold
  · have hm := (of_decide_eq_true (Session.step_eq_some hsession).1).2
    obtain ⟨c, hof, hn⟩ := hasking.toProxy m (List.mem_of_mem_head? hm) id hv
    exact ⟨c, hof, hn.step hsession (fun hid => by cases hid)⟩

/-- What ties frames, slots and requests to connections. -/
structure Attributed (t : Requested) : Prop where
  clean : Clean t.session
  joining : Joining t.session
  removing : Removing t.session
  parted : Parted t.session
  joinedFor : JoinedFor t.session
  asking : Asking t.session
  asked : Asked t

theorem attributed_init : Attributed init :=
  ⟨clean_init, joining_init, removing_init, parted_init, joinedFor_init, asking_init,
    ⟨rfl, fun _ hx => by cases hx⟩⟩

theorem Attributed.step {a : Action} (h : Attributed t) (hc : t.session.ConnectionFree a)
    (hs : t.step a = some t') : Attributed t' := by
  have hsession := (step_eq_some hs).1
  exact
    ⟨h.clean.step hc.1 hsession, h.joining.step hsession, h.removing.step hc.2.1 hsession,
      h.parted.step h.joining h.removing hsession, h.joinedFor.step h.clean.down hsession,
      h.asking.step hc.2.2 hsession, h.asked.step h.asking hc.2.2 hs⟩

/-- The connection's own removal comes over `disconnect_rx`, a send on its channel fails, a disconnect of
its player comes, or a join comes when it no longer goes on. -/
def ClosedFor (t : Requested) (a : Action) (id : ClientID) (c : Conn) : Prop :=
  (a = .readerDisconnect id ∧ t.requests.head? = some ⟨id, some c⟩) ∨
    ∃ f, a = .readerHandler f ∧
      ((∃ pkg, f.val = .proxyData ⟨id, pkg⟩ ∧ (t.session.conns c).task = .ended) ∨
        (f.val = .proxyDisconnect id ∧ f.of = (t.session.conns c).openedFor) ∨
        (f.val = .proxyJoin id ∧ (t.session.conns c).live = false))

theorem handleMessage_client (s : Session) (m : Marked Player (ClientToProxy Player Player)) :
    (s.handleMessage m).client = s.client := by
  apply handleMessage_cases (motive := fun t => t.client = s.client) s m <;> intros <;> rfl

theorem handleFrame_client (s : Session) (f : Marked Conn SocketPacket) :
    (s.handleFrame f).client = s.client := by
  apply handleFrame_cases (motive := fun t => t.client = s.client) s f <;> intros <;> rfl

theorem backendMessage_client (s : Session) (m : Marked Conn BackendToProxy) :
    (s.backendMessage m).client = s.client := by
  apply backendMessage_cases (motive := fun t => t.client = s.client) s m <;> intros <;> rfl

theorem connection_removeConnection_ne {client : Client Conn} {id id' : ClientID} {c : Conn}
    (hslot : client.connection id = some c) (hgone : (client.removeConnection id').connection id ≠ some c) :
    id' = id := by
  by_contra hne
  rw [Client.connection_removeConnection, if_neg hne] at hgone
  exact hgone hslot

/-- In a run in which ids are given and joins come only when nothing is left that closes an earlier
connection, a slot of the client is emptied or overwritten for its own connection only. -/
theorem removal_hits_connection
    (h : Lts.Reach Requested.step (fun t a => t.session.ConnectionFree a) Requested.init t) {a : Action}
    (hc : t.session.ConnectionFree a) (hs : t.step a = some t') {id : ClientID} {c : Conn}
    (hslot : t.session.client.connection id = some c) (hgone : t'.session.client.connection id ≠ some c) :
    t.ClosedFor a id c := by
  have hinv : Attributed t := h.invariant (I := Attributed) attributed_init fun _ hi hc hs => hi.step hc hs
  have hnewest := hinv.asking.slot id c hslot
  obtain ⟨ha, hnext⟩ := Session.step_eq_some (step_eq_some hs).1
  rw [hnext] at hgone
  cases a with
  | readerDisconnect id' =>
    obtain rfl := connection_removeConnection_ne hslot hgone
    have hhead := (of_decide_eq_true ha).2
    refine .inl ⟨rfl, ?_⟩
    rw [← hinv.asked.requests, List.head?_map] at hhead
    obtain ⟨⟨id, of⟩, hx, rfl⟩ := Option.map_eq_some_iff.1 hhead
    obtain ⟨d, rfl, hd⟩ := hinv.asked.newest _ (List.mem_of_mem_head? hx)
    obtain rfl := LastAt.unique hnewest hd
    exact hx
  | readerHandler f =>
    refine .inr ⟨f, rfl, ?_⟩
    have hg := (of_decide_eq_true ha).2
    revert hgone
    apply readerFrame_cases (motive := fun s => s.client.connection id ≠ some c →
        (∃ pkg, f.val = .proxyData ⟨id, pkg⟩ ∧ (t.session.conns c).task = .ended) ∨
        (f.val = .proxyDisconnect id ∧ f.of = (t.session.conns c).openedFor) ∨
        (f.val = .proxyJoin id ∧ (t.session.conns c).live = false))
      { t.session with down := t.session.down.pop f } f
    case join =>
      intro id' hv hgone
      have hid : id' = id := by
        by_contra hne
        refine hgone ?_
        show (t.session.client.addConnection id' t.session.opened).connection id = some c
        rw [Client.connection_addConnection, if_neg (fun he => hne he.1)]
        exact hslot
      subst hid
      have hjoin : joinedId (.readerHandler f) = some id' := by simp [joinedId, clientReceives, hv]
      exact .inr (.inr ⟨hv, (hc.2.2 id' hjoin).1 c hnewest.lt_opened hnewest.clientId⟩)
    case data => intro _ _ _ _ _ _ hgone; exact absurd hslot hgone
    case dataLost =>
      intro id' pkg c' hv hc' ht hgone
      obtain rfl := connection_removeConnection_ne hslot hgone
      obtain rfl : c' = c := Option.some.inj (hc'.symm.trans hslot)
      exact .inl ⟨pkg, hv, ht⟩
    case dataNone => intro _ _ _ _ hgone; exact absurd hslot hgone
    case disconnect =>
      intro id' c' hv hc' hgone
      obtain rfl := connection_removeConnection_ne hslot hgone
      have hof := hinv.parted.of_gives hinv.clean.down hg hv
      exact .inr (.inl ⟨hv, hof.trans (hinv.joinedFor id' c hslot).2.symm⟩)
    case disconnectNone =>
      intro id' hv hc' hgone
      obtain rfl := connection_removeConnection_ne hslot hgone
      cases hc'.symm.trans hslot
    case pong => intro _ _ hgone; exact absurd hslot hgone
    case unexpected => intro _ _ _ hgone; exact absurd hslot hgone
  | handleWriter m =>
    refine absurd (Eq.trans ?_ hslot) hgone
    exact congrArg (·.connection id) (handleMessage_client { t.session with queue := t.session.queue.tail } m)
  | handleReader f =>
    refine absurd (Eq.trans ?_ hslot) hgone
    exact congrArg (·.connection id) (handleFrame_client { t.session with up := t.session.up.pop f } f)
  | writerHandler m =>
    refine absurd (Eq.trans ?_ hslot) hgone
    exact congrArg (·.connection id)
      (backendMessage_client { t.session with toProxy := t.session.toProxy.tail } m)
  | _ => exact absurd hslot hgone

/-- Player 0's backend closes and its slot at the server is given to player 1, whose join comes while the
removal waits in `disconnect_rx`. -/
def closeBackendAndRejoin : List Action :=
  [.backendReadEnds 0, .writerHandlerFlushed, .writerHandler ⟨.removeMinecraftClient 0, some 0⟩,
    .writerHandlerFeed ⟨.proxyDisconnect 0, some 0⟩, .writerHandlerEmpty, .upWrite 1,
    .handleReader ⟨.proxyData ⟨0, ⟨[1]⟩⟩, some 0⟩, .handleReader ⟨.proxyDisconnect 0, some 0⟩,
    .connect 1 samplePacket, .handleWriter ⟨.addMinecraftClient 1 1, some 1⟩,
    .handleWriterFeed ⟨.proxyJoin 0, some 1⟩, .downWrite 1, .readerHandler ⟨.proxyJoin 0, some 1⟩]

theorem removal_hits_next_connection :
    ∃ t t' a id c, Lts.Reach Requested.step (fun _ _ => True) Requested.init t ∧ t.step a = some t' ∧
      t.session.client.connection id = some c ∧ t'.session.client.connection id ≠ some c ∧
      ¬ t.ClosedFor a id c := by
  obtain ⟨t, hrun, hslot, hrequests, t', ht', hgone⟩ : ∃ t,
      Lts.run Requested.step Requested.init (joinAndRead ++ closeBackendAndRejoin) = some t ∧
      t.session.client.connection 0 = some 1 ∧ t.requests = [⟨0, some 0⟩] ∧
      ∃ t', t.step (.readerDisconnect 0) = some t' ∧ t'.session.client.connection 0 = none := by
    decide +kernel
  refine ⟨t, t', _, 0, 1, Lts.Reach.of_run hrun (.of_forall (fun _ _ => trivial) _ _), ht', hslot,
    by rw [hgone]; simp, ?_⟩
  rintro (⟨-, hhead⟩ | ⟨f, hf, -⟩)
  · rw [hrequests] at hhead; cases hhead
  · cases hf

/-- The backend of player 2, which has the id that player 0 had, closes. -/
def rejoinAndClose : List Action :=
  leaveAndRejoin ++ [.backendReadEnds 2, .writerHandler ⟨.removeMinecraftClient 0, some 2⟩]

theorem removal_hits_connection_two :
    ∃ t t', Lts.run Requested.step Requested.init rejoinAndClose = some t ∧
      t.step (.readerDisconnect 0) = some t' ∧ t.session.client.connection 0 = some 2 ∧
      t'.session.client.connection 0 = none ∧ t.ClosedFor (.readerDisconnect 0) 0 2 := by
  obtain ⟨t, hrun, hslot, t', ht', hgone⟩ : ∃ t, Lts.run Requested.step Requested.init rejoinAndClose = some t ∧
      t.session.client.connection 0 = some 2 ∧
      ∃ t', t.step (.readerDisconnect 0) = some t' ∧ t'.session.client.connection 0 = none := by
    decide +kernel
  have hfree : t.session.ConnectionFree (.readerDisconnect 0) :=
    ⟨Nat.zero_le _, fun _ hid => (by cases hid), fun _ hid => by cases hid⟩
  exact ⟨t, t', hrun, ht', hslot, hgone,
    removal_hits_connection (Lts.Reach.of_run hrun (by decide +kernel)) hfree ht' hslot (by rw [hgone]; simp)⟩

end Requested
end CraftIP
