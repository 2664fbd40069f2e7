import CraftIP.Session.Lossless
import CraftIP.Session.Occupied
import Mathlib.Data.List.Nodup

/-!
# The disconnect exchange

A player's task sends one removal for its id, and a backend connection one for its own. Each makes at most
one `ProxyDisconnect`, so neither end sends more of an id than `ProxyJoin`s of it went through the tunnel
(`disconnects_le_joins`).
-/

namespace CraftIP
open Function (update)

/-! ### The marks of what equals a value -/

section Marks
variable {ο α : Type} [DecidableEq α]

/-- Whose the values of the list are that equal `v`. -/
def marks (v : α) (l : List (Marked ο α)) : List (Option ο) := (l.filter (·.val = v)).map (·.of)

theorem marks_append (v : α) (l l' : List (Marked ο α)) : marks v (l ++ l') = marks v l ++ marks v l' := by
  simp [marks]

theorem marks_cons_of_ne {v : α} {x : Marked ο α} (hx : x.val ≠ v) (l : List (Marked ο α)) :
    marks v (x :: l) = marks v l := by
  simp [marks, hx]

theorem marks_cons_self {v : α} {x : Marked ο α} (hx : x.val = v) (l : List (Marked ο α)) :
    marks v (x :: l) = x.of :: marks v l := by
  simp [marks, hx]

theorem marks_concat_of_ne {v : α} {x : Marked ο α} (hx : x.val ≠ v) (l : List (Marked ο α)) :
    marks v (l ++ [x]) = marks v l := by
  rw [marks_append, marks_cons_of_ne hx]; exact List.append_nil _

theorem marks_concat_self (v : α) (o : Option ο) (l : List (Marked ο α)) :
    marks v (l ++ [⟨v, o⟩]) = marks v l ++ [o] := by
  rw [marks_append, marks_cons_self (x := ⟨v, o⟩) rfl]; rfl

/-- A message is taken from a queue and a frame for the same id goes out: the marks are the same in all. -/
theorem marks_move {β : Type} [DecidableEq β] {x : ClientID → α} {y : ClientID → β} {m : Marked ο β}
    {id : ClientID} (hx : Function.Injective x) (hy : Function.Injective y) (hv : m.val = y id) (id' : ClientID)
    (l : List (Marked ο α)) (q : List (Marked ο β)) :
    marks (x id') (l ++ [⟨x id, m.of⟩]) ++ marks (y id') q = marks (x id') l ++ marks (y id') (m :: q) := by
  by_cases he : id = id'
  · subst he
    rw [marks_concat_self, marks_cons_self hv, List.append_assoc]
    rfl
  · rw [marks_concat_of_ne (fun h => he (hx h)), marks_cons_of_ne (fun h => he (hy (hv.symm.trans h)))]

theorem marks_sublist {v : α} {l l' : List (Marked ο α)} (h : l.Sublist l') :
    (marks v l).Sublist (marks v l') :=
  (h.filter _).map _

theorem length_marks (v : α) (l : List (Marked ο α)) :
    (marks v l).length = l.countP (·.val = v) := by
  rw [marks, List.length_map, List.countP_eq_length_filter]

end Marks

namespace Session

variable {s s' : Session}

theorem marks_offer {v : ClientToProxy Player Player} {m : Marked Player (ClientToProxy Player Player)}
    (hm : m.val ≠ v) : marks v (s.offer m) = marks v s.queue := by
  rw [offer]
  split
  · rfl
  · exact marks_concat_of_ne hm _

theorem marks_offerBackend {v : BackendToProxy} {m : Marked Conn BackendToProxy} (hm : m.val ≠ v) :
    marks v (s.offerBackend m) = marks v s.toProxy := by
  rw [offerBackend]
  split
  · rfl
  · exact marks_concat_of_ne hm _

/-! ### The server -/

/-- Whose removals of the id were made a frame or are queued. -/
def leaving (s : Session) (id : ClientID) : List (Option Player) :=
  marks (.proxyDisconnect id) s.made ++ marks (.removeMinecraftClient id) s.queue

/-- Every player's removal is there once, after its join. -/
structure Leaving (s : Session) : Prop where
  once : ∀ id, (s.leaving id).Nodup
  finished : ∀ id, ∀ x ∈ s.leaving id, ∃ P, x = some P ∧ (s.players P).phase = .finished id
  joined : s.writer ≠ .ended → ∀ P id, (s.players P).phase.given? = some id →
    some P ∈ marks (.proxyJoin id) s.made
  left : ∀ id, marks (.proxyDisconnect id) s.made ⊆ marks (.proxyJoin id) s.down.history

theorem leaving_init : Leaving init where
  once _ := List.nodup_nil
  finished _ _ h := by cases h
  joined _ _ id h := by cases h
  left _ _ h := by cases h

/-- No removal comes, and no frame of a join goes. -/
theorem Leaving.mono (h : Leaving s) (hleaving : ∀ id, (s'.leaving id).Sublist (s.leaving id))
    (hfinished : ∀ P id, (s.players P).phase = .finished id → (s'.players P).phase = .finished id)
    (hjoined : s'.writer ≠ .ended → ∀ P id, (s'.players P).phase.given? = some id →
      some P ∈ marks (.proxyJoin id) s'.made)
    (hleft : ∀ id, marks (.proxyDisconnect id) s'.made ⊆ marks (.proxyJoin id) s'.down.history) :
    Leaving s' where
  once id := (h.once id).sublist (hleaving id)
  finished id x hx := by
    obtain ⟨P, rfl, hP⟩ := h.finished id x ((hleaving id).subset hx)
    exact ⟨P, rfl, hfinished P id hP⟩
  joined := hjoined
  left := hleft

/-- The frame that `handle_writer` held is lost with it. -/
theorem Leaving.endWriter (h : Leaving s) : Leaving s.endWriter := by
  have hmade : s.endWriter.made.Sublist s.made := by
    rw [made_endWriter]; exact List.sublist_append_left _ _
  refine h.mono (fun id => (marks_sublist hmade).append (List.nil_sublist _)) (fun _ _ hP => hP)
    (fun hw => absurd rfl hw) fun id => ?_
  exact List.Subset.trans (marks_sublist hmade).subset (h.left id)

/-- `handle_writer` takes up a frame that is no disconnect. -/
theorem Leaving.feed (h : Leaving s) (hw : s.writer = .recv ∨ s.writer = .tryRecv)
    {f : Marked Player SocketPacket} (hf : ∀ id, f.val ≠ .proxyDisconnect id) :
    Leaving { s with writer := .feed f } := by
  have hmade : made { s with writer := .feed f } = s.made ++ [f] := by rw [made_of_recv hw]; rfl
  refine h.mono (fun id => ?_) (fun _ _ hP => hP) (fun _ P id hP => ?_) fun id => ?_
  · rw [leaving, leaving, hmade, marks_concat_of_ne (hf id)]
  · rw [hmade, marks_append]
    exact List.mem_append_left _ (h.joined (writer_ne_ended hw) P id hP)
  · rw [hmade, marks_concat_of_ne (hf id)]; exact h.left id

/-- A player goes on without a new id, and sends no removal. -/
theorem Leaving.update_player (h : Leaving s) {P : Player} {p : PlayerState}
    {q : List (Marked Player (ClientToProxy Player Player))}
    (hfinished : ∀ id, (s.players P).phase = .finished id → p.phase = .finished id)
    (hgiven : ∀ id, p.phase.given? = some id → (s.players P).phase.given? = some id)
    (hq : ∀ id, marks (.removeMinecraftClient id) q = marks (.removeMinecraftClient id) s.queue) :
    Leaving { s with players := update s.players P p, queue := q } :=
  h.mono (fun id => by rw [leaving, leaving, hq]; rfl)
    (forall_players (R := fun Q p => ∀ id, (s.players Q).phase = .finished id → p.phase = .finished id)
      (fun _ _ hQ => hQ) hfinished)
    (fun hw => forall_players (R := fun Q p => ∀ id, p.phase.given? = some id →
      some Q ∈ marks (.proxyJoin id) s.made) (h.joined hw) fun id he => h.joined hw P id (hgiven id he))
    h.left

/-- A player that has not finished has sent no removal. -/
theorem Leaving.finish (h : Leaving s) {P : Player} {id : ClientID} {p : PlayerState}
    (hP : (s.players P).phase = .handling id) (hp : p.phase = .finished id) :
    Leaving { s with
      players := update s.players P p, queue := s.offer ⟨.removeMinecraftClient id, some P⟩ } := by
  have hnot : some P ∉ s.leaving id := by
    intro hmem
    obtain ⟨Q, hQ, hfinished⟩ := h.finished id _ hmem
    obtain rfl : P = Q := Option.some.inj hQ
    rw [hP] at hfinished
    cases hfinished
  have hkeep : Leaving { s with players := update s.players P p } := by
    refine h.update_player (q := s.queue) (fun id' he => ?_) (fun id' he => ?_) (fun _ => rfl)
    · rw [hP] at he; cases he
    · rw [hp] at he; rw [hP]; exact he
  by_cases hw : s.writer = .ended
  · rw [offer, if_pos hw]; exact hkeep
  · rw [offer, if_neg hw]
    have hleaving : ∀ id', leaving
        { s with players := update s.players P p, queue := s.queue ++ [⟨.removeMinecraftClient id, some P⟩] }
          id' = if id = id' then s.leaving id ++ [some P] else s.leaving id' := by
      intro id'
      show marks _ s.made ++ marks _ (s.queue ++ [_]) = _
      split
      · next he => subst he; rw [marks_concat_self, ← List.append_assoc]; rfl
      · next he => rw [marks_concat_of_ne (by simpa using he)]; rfl
    refine { hkeep with once := fun id' => ?_, finished := fun id' x hx => ?_ }
    · rw [hleaving]
      split
      · exact List.nodup_append_comm.1 (List.nodup_cons.2 ⟨hnot, h.once id⟩)
      · exact h.once id'
    · rw [hleaving] at hx
      split at hx
      · next he =>
        subst he
        rcases List.mem_append.1 hx with hx | hx
        · exact hkeep.finished id x hx
        · obtain rfl := List.mem_singleton.1 hx
          exact ⟨P, rfl, by show (update s.players P p P).phase = _; rw [Function.update_self]; exact hp⟩
      · exact hkeep.finished id' x hx

theorem Leaving.handleMessage (h : Leaving s) (hj : Joining s) (hw : s.writer = .recv ∨ s.writer = .tryRecv)
    {m : Marked Player (ClientToProxy Player Player)} (hm : s.queue.head? = some m) :
    Leaving ({ s with queue := s.queue.tail }.handleMessage m) := by
  obtain ⟨q, hq⟩ := List.head?_eq_some_iff.1 hm
  have htail : Leaving { s with queue := s.queue.tail } :=
    h.mono (fun id => List.Sublist.append_left (marks_sublist (List.tail_sublist _)) _) (fun _ _ hP => hP)
      h.joined h.left
  apply handleMessage_cases (motive := Leaving) { s with queue := s.queue.tail } m
  case full => intros; exact htail.endWriter
  case joined =>
    intro P tx id d startData hv hins hphase
    obtain ⟨rfl, -, -⟩ := hj.awaiting hm hv
    have hfeed := htail.feed hw (f := ⟨.proxyJoin id, some P⟩) (by simp)
    refine hfeed.mono (fun _ => List.Sublist.refl _) ?_ (fun _ => ?_) hfeed.left
    · refine forall_players (R := fun Q p => ∀ id, (s.players Q).phase = .finished id →
        p.phase = .finished id) (fun _ _ hQ => hQ) fun id' he => ?_
      rw [hphase] at he; cases he
    · refine forall_players (R := fun Q p => ∀ id', p.phase.given? = some id' →
        some Q ∈ marks (.proxyJoin id') (made { s with writer := .feed ⟨.proxyJoin id, some P⟩ }))
        (hfeed.joined (by simp)) fun id' he => ?_
      obtain rfl : id = id' := Option.some.inj he
      show some P ∈ marks _ (s.down.history ++ [_])
      rw [marks_concat_self]
      exact List.mem_append_right _ (List.mem_singleton_self _)
  case gone => intros; exact { htail.endWriter with }
  case packet => intros; exact htail.feed hw (by simp)
  case ping => intros; exact htail.feed hw (by simp)
  case removed =>
    intro id hv hid
    have hmade : s.down.history ++ [⟨.proxyDisconnect id, m.of⟩] =
        s.made ++ [⟨.proxyDisconnect id, m.of⟩] := by rw [made_of_recv hw]
    -- the player has finished, so its join went before
    obtain ⟨P, hof, hP⟩ := h.finished id m.of (by
      rw [leaving, hq, marks_cons_self hv]
      exact List.mem_append_right _ List.mem_cons_self)
    have hjoin : m.of ∈ marks (.proxyJoin id) s.down.history := by
      rw [hof, ← made_of_recv hw]
      exact h.joined (writer_ne_ended hw) P id (by rw [hP]; rfl)
    refine h.mono (fun id' => ?_) (fun _ _ hP => hP) (fun _ Q id' hQ => ?_) fun id' => ?_
    · show (marks _ (s.down.history ++ [_]) ++ marks _ s.queue.tail).Sublist _
      rw [hmade, leaving, hq, List.tail_cons,
        marks_move (fun _ _ he => by cases he; rfl) (fun _ _ he => by cases he; rfl) hv]
    · show _ ∈ marks _ (s.down.history ++ [_])
      rw [hmade, marks_append]
      exact List.mem_append_left _ (h.joined (writer_ne_ended hw) Q id' hQ)
    · show marks _ (s.down.history ++ [_]) ⊆ marks _ s.down.history
      rw [hmade]
      by_cases he : id = id'
      · subst he
        rw [marks_concat_self]
        exact List.append_subset.2 ⟨h.left id, List.cons_subset.2 ⟨hjoin, List.nil_subset _⟩⟩
      · rw [marks_concat_of_ne (by simpa using he)]; exact h.left id'
  case unknown =>
    intros
    have hmade : s.down.history ++ HandleWriter.held .tryRecv = s.made := by
      rw [made_of_recv hw]; exact List.append_nil _
    refine htail.mono (fun id => ?_) (fun _ _ hP => hP) (fun _ P id hP => ?_) fun id => ?_
    · show (marks _ (s.down.history ++ _) ++ _).Sublist _
      rw [hmade]; exact List.Sublist.refl _
    · show _ ∈ marks _ (s.down.history ++ _)
      rw [hmade]; exact h.joined (writer_ne_ended hw) P id hP
    · show marks _ (s.down.history ++ _) ⊆ _
      rw [hmade]; exact h.left id

theorem Leaving.handleFrame (h : Leaving s) (f : Marked Conn SocketPacket) : Leaving (s.handleFrame f) := by
  apply handleFrame_cases (motive := Leaving) s f
  case disconnect =>
    intro id P hv hg
    have hs := h.update_player (P := P) (p := { s.players P with disconnected := true }) (q := s.queue)
      (fun _ he => he) (fun _ he => he) (fun _ => rfl)
    exact { hs with }
  case disconnectNone => intros; exact { h with }
  case data =>
    intro id pkg P hv hg
    have hphase : ((s.players P).send ⟨pkg.bytes, f.of⟩).phase = (s.players P).phase := by
      rw [PlayerState.send]; split <;> rfl
    exact h.update_player (q := s.queue) (by rw [hphase]; exact fun _ he => he)
      (by rw [hphase]; exact fun _ he => he) (fun _ => rfl)
  case dataNone => intros; exact h
  case ping =>
    intro ping hv
    exact h.mono (fun id => by rw [leaving, marks_offer (by simp)]; exact List.Sublist.refl _)
      (fun _ _ he => he) h.joined h.left
  case other => intros; exact h

theorem Leaving.readerFrame (h : Leaving s) (f : Marked Player SocketPacket) : Leaving (s.readerFrame f) := by
  apply readerFrame_cases (motive := Leaving) s f <;> intros <;> exact { h with }

theorem Leaving.backendMessage (h : Leaving s) (m : Marked Conn BackendToProxy) :
    Leaving (s.backendMessage m) := by
  apply backendMessage_cases (motive := Leaving) s m <;> intros <;> exact { h with }

/-- The frames are the same, wherever they are. -/
theorem Leaving.relink (h : Leaving s) (down : Link (Marked Player SocketPacket)) (w : HandleWriter)
    (hmade : down.history ++ HandleWriter.held w = s.made) (hw : w ≠ .ended → s.writer ≠ .ended)
    (hhistory : s.down.history.Sublist down.history) : Leaving { s with down, writer := w } := by
  refine h.mono (fun id => ?_) (fun _ _ he => he) (fun hne P id hP => ?_) fun id => ?_
  · rw [leaving, made, hmade]; exact List.Sublist.refl _
  · rw [made, hmade]; exact h.joined (hw hne) P id hP
  · rw [made, hmade]
    exact List.Subset.trans (h.left id) (marks_sublist hhistory).subset

theorem Leaving.step {a : Action} (h : Leaving s) (hj : Joining s) (hs : s.step a = some s') :
    Leaving s' := by
  obtain ⟨ha, rfl⟩ := step_eq_some hs
  -- a player that goes on and sends nothing
  have hplayer : ∀ {P : Player} {p : PlayerState},
      (∀ id, (s.players P).phase = .finished id → p.phase = .finished id) →
      (∀ id, p.phase.given? = some id → (s.players P).phase.given? = some id) →
      Leaving { s with players := update s.players P p } := fun hfinished hgiven =>
    h.update_player (q := s.queue) hfinished hgiven (fun _ => rfl)
  cases a with
  | connect P startData =>
    have hp := (of_decide_eq_true ha).1
    exact h.update_player (fun _ he => by rw [hp] at he; cases he) (fun _ he => by cases he)
      (fun _ => marks_concat_of_ne (by simp) _)
  | joinFails P =>
    refine hplayer (fun id he => ?_) (fun _ he => by cases he)
    have hjoin := (of_decide_eq_true ha).1
    rw [he] at hjoin
    cases hjoin
  | sendStart P id startData =>
    have hp := (of_decide_eq_true ha).1
    exact h.update_player (fun _ he => by rw [hp] at he; cases he) (fun _ he => by rw [hp]; exact he)
      (fun _ => marks_concat_of_ne (by simp) _)
  | clientRead P id chunk =>
    exact h.update_player (fun _ he => he) (fun _ he => he) (fun _ => marks_offer (by simp))
  | clientFinish P id => exact h.finish (of_decide_eq_true ha).1 rfl
  | clientReadEnds P | clientWriterTake P _ | clientWriterDrained P | clientWriterWrite P _
  | clientWriterFlushed P | clientWriterFlushFails P | clientWriterClosed P | clientWriterFails P
  | clientWriterAborted P => exact hplayer (fun _ he => he) (fun _ he => he)
  | handleWriter m =>
    obtain ⟨hw, hm⟩ := of_decide_eq_true ha
    exact h.handleMessage hj hw hm
  | handleWriterFeed f =>
    have hw := of_decide_eq_true ha
    refine h.relink (s.down.feed (fits f.val) f) .tryRecv ?_ (fun _ => by rw [hw]; simp) ?_
    · rw [Link.history_feed, made, hw]; exact List.append_nil _
    · rw [Link.history_feed]; exact List.sublist_append_left _ _
  | handleWriterEmpty =>
    have hw := (of_decide_eq_true ha).1
    exact h.relink s.down .flush (by rw [made, hw]; rfl) (fun _ => by rw [hw]; simp) (List.Sublist.refl _)
  | handleWriterFlushed =>
    have hw := (of_decide_eq_true ha).1
    exact h.relink s.down .recv (by rw [made, hw]; rfl) (fun _ => by rw [hw]; simp) (List.Sublist.refl _)
  | handleWriterFails | handleWriterAborted => exact h.endWriter
  | downWrite n =>
    exact h.relink (s.down.write n) s.writer (by rw [Link.history_write]; rfl) (fun hw => hw)
      (by rw [Link.history_write])
  | handleReader f =>
    have hs : Leaving { s with up := s.up.pop f } := { h with }
    exact hs.handleFrame f
  | readerHandler f =>
    have hs : Leaving { s with down := s.down.pop f } :=
      h.relink (s.down.pop f) s.writer (by rw [Link.history_pop]; rfl) (fun hw => hw)
        (by rw [Link.history_pop])
    exact hs.readerFrame f
  | writerHandler m =>
    have hs : Leaving { s with toProxy := s.toProxy.tail } := { h with }
    exact hs.backendMessage m
  | handleReaderEnds | handleEnds | upWrite | readerDisconnect | readerDisconnectClosed
  | readerPing | readerEnds | writerHandlerFeed | writerHandlerEmpty | writerHandlerFlushed
  | writerHandlerFails | writerHandlerAborted | backendConnected | backendConnectFails | backendRecv
  | backendWrite | backendWritten | backendWriteFails | backendClosed | backendRead | backendReadEnds
  | backendDropped => exact { h with }

theorem Leaving.count (h : Leaving s) (id : ClientID) :
    s.down.history.countP (·.val = .proxyDisconnect id) ≤ s.down.history.countP (·.val = .proxyJoin id) := by
  rw [← length_marks, ← length_marks]
  have hsub : (marks (.proxyDisconnect id) s.down.history).Sublist (marks (.proxyDisconnect id) s.made) :=
    marks_sublist (List.sublist_append_left _ _)
  have hnodup := ((h.once id).sublist (List.sublist_append_left _ _)).sublist hsub
  exact hnodup.length_le_of_subset (List.Subset.trans hsub.subset (h.left id))

/-! ### The client -/

/-- Whose removals of the id were made a frame or wait for `writer_handler`. -/
def closing (s : Session) (id : ClientID) : List (Option Conn) :=
  marks (.proxyDisconnect id) s.answers ++ marks (.removeMinecraftClient id) s.toProxy

/-- The removal of every backend connection is there once, and the connection no longer goes on. -/
structure Closing (s : Session) : Prop where
  once : ∀ id, (s.closing id).Nodup
  dropped : ∀ id, ∀ x ∈ s.closing id,
    ∃ c, x = some c ∧ c < s.opened ∧ (s.conns c).clientId = id ∧ (s.conns c).live = false
  opened : ∀ c, (s.conns c).live = true → c < s.opened

theorem closing_init : Closing init where
  once _ := List.nodup_nil
  dropped _ _ h := by cases h
  opened _ h := by cases h

theorem Closing.mono (h : Closing s) (hclosing : ∀ id, (s'.closing id).Sublist (s.closing id))
    (hopened : s'.opened = s.opened)
    (hconns : ∀ c, (s'.conns c).clientId = (s.conns c).clientId ∧
      ((s'.conns c).live = true → (s.conns c).live = true)) : Closing s' where
  once id := (h.once id).sublist (hclosing id)
  dropped id x hx := by
    obtain ⟨c, rfl, hlt, hid, hlive⟩ := h.dropped id x ((hclosing id).subset hx)
    refine ⟨c, rfl, hopened ▸ hlt, (hconns c).1.trans hid, ?_⟩
    exact Bool.eq_false_iff.2 fun he => by rw [(hconns c).2 he] at hlive; cases hlive
  opened c hc := hopened ▸ h.opened c ((hconns c).2 hc)

/-- The frames and messages may go, the connections stay. -/
theorem Closing.sublist (h : Closing s) (up : Link (Marked Conn SocketPacket)) (w : WriterHandler)
    (q : List (Marked Conn BackendToProxy))
    (hanswers : (up.history ++ WriterHandler.held w).Sublist s.answers) (hq : q.Sublist s.toProxy) :
    Closing { s with up, clientWriter := w, toProxy := q } :=
  h.mono (fun _ => (marks_sublist hanswers).append (marks_sublist hq)) rfl fun _ => ⟨rfl, fun hc => hc⟩

theorem Closing.endClientWriter (h : Closing s) : Closing s.endClientWriter :=
  h.sublist s.up .ended [] (by simp [answers, WriterHandler.held]) (List.nil_sublist _)

/-- A connection goes on, and sends no removal. -/
theorem Closing.update_conn (h : Closing s) {c : Conn} {x : ClientConnection}
    {q : List (Marked Conn BackendToProxy)} (hid : x.clientId = (s.conns c).clientId)
    (hlive : x.live = true → (s.conns c).live = true)
    (hq : ∀ id, marks (.removeMinecraftClient id) q = marks (.removeMinecraftClient id) s.toProxy) :
    Closing { s with conns := update s.conns c x, toProxy := q } :=
  h.mono (fun id => by rw [closing, closing, hq]; rfl) rfl
    (forall_conns (R := fun d y => y.clientId = (s.conns d).clientId ∧
      (y.live = true → (s.conns d).live = true)) (fun _ => ⟨rfl, fun hc => hc⟩) ⟨hid, hlive⟩)

/-- A connection that goes on has sent no removal. -/
theorem Closing.drop (h : Closing s) {c : Conn} (hc : (s.conns c).live = true)
    {l : List (Marked Conn BackendToProxy)}
    (hl : ∀ id, marks (.removeMinecraftClient id) l = marks (.removeMinecraftClient id) s.toProxy) :
    Closing { s with
      conns := update s.conns c { s.conns c with task := .dropping }
      toProxy :=
        { s with toProxy := l }.offerBackend ⟨.removeMinecraftClient (s.conns c).clientId, some c⟩ } := by
  have hnot : some c ∉ s.closing (s.conns c).clientId := by
    intro hmem
    obtain ⟨d, hd, -, -, hlive⟩ := h.dropped _ _ hmem
    obtain rfl : c = d := Option.some.inj hd
    rw [hc] at hlive
    cases hlive
  have hkeep : Closing { s with conns := update s.conns c { s.conns c with task := .dropping }, toProxy := l } :=
    h.update_conn rfl (fun he => by cases he) hl
  by_cases hw : s.clientWriter = .ended
  · rw [offerBackend, if_pos hw]; exact hkeep
  · rw [offerBackend, if_neg hw]
    have hclosing : ∀ id, closing { s with
        conns := update s.conns c { s.conns c with task := .dropping }
        toProxy := l ++ [⟨.removeMinecraftClient (s.conns c).clientId, some c⟩] }
          id = if (s.conns c).clientId = id then s.closing id ++ [some c] else s.closing id := by
      intro id
      show marks _ s.answers ++ marks _ (l ++ [_]) = _
      split
      · next he => subst he; rw [marks_concat_self, hl, ← List.append_assoc]; rfl
      · next he => rw [marks_concat_of_ne (by simpa using he), hl]; rfl
    refine { hkeep with once := fun id => ?_, dropped := fun id y hy => ?_ }
    · rw [hclosing]
      split
      · next he =>
        subst he
        exact List.nodup_append_comm.1 (List.nodup_cons.2 ⟨hnot, h.once _⟩)
      · exact h.once id
    · have hold : ∀ y ∈ s.closing id, ∃ d, y = some d ∧ d < s.opened ∧
          (update s.conns c { s.conns c with task := .dropping } d).clientId = id ∧
          (update s.conns c { s.conns c with task := .dropping } d).live = false := fun y hy =>
        hkeep.dropped id y (by rw [closing, hl]; exact hy)
      rw [hclosing] at hy
      split at hy
      · next he =>
        subst he
        rcases List.mem_append.1 hy with hy | hy
        · exact hold y hy
        · obtain rfl := List.mem_singleton.1 hy
          refine ⟨c, rfl, h.opened c hc, ?_, ?_⟩
          · show (update s.conns c _ c).clientId = _; rw [Function.update_self]
          · show (update s.conns c _ c).live = _; rw [Function.update_self]; rfl
      · exact hold y hy

theorem Closing.backendMessage (h : Closing s) (hw : s.clientWriter = .tryRecv ∨ s.clientWriter = .recv)
    {m : Marked Conn BackendToProxy} (hm : s.toProxy.head? = some m) :
    Closing ({ s with toProxy := s.toProxy.tail }.backendMessage m) := by
  obtain ⟨q, hq⟩ := List.head?_eq_some_iff.1 hm
  have htail : (s.toProxy.tail).Sublist s.toProxy := List.tail_sublist _
  have hanswers : s.up.history = s.answers := (answers_of_recv hw).symm
  have hfeed : ∀ {f : Marked Conn SocketPacket}, (∀ id, f.val ≠ .proxyDisconnect id) →
      Closing { s with toProxy := s.toProxy.tail, clientWriter := .feed f } := by
    intro f hf
    refine h.mono (fun id => ?_) rfl (fun _ => ⟨rfl, fun hc => hc⟩)
    show (marks _ (s.up.history ++ [f]) ++ marks _ s.toProxy.tail).Sublist _
    rw [hanswers, marks_concat_of_ne (hf id)]
    exact List.Sublist.append_left (marks_sublist htail) _
  apply backendMessage_cases (motive := Closing) { s with toProxy := s.toProxy.tail } m
  case packet => intros; exact hfeed (by simp)
  case remove =>
    intro id hv
    refine h.mono (fun id' => ?_) rfl (fun _ => ⟨rfl, fun hc => hc⟩)
    show (marks _ (s.up.history ++ [_]) ++ marks _ s.toProxy.tail).Sublist _
    rw [hanswers, closing, hq, List.tail_cons,
      marks_move (fun _ _ he => by cases he; rfl) (fun _ _ he => by cases he; rfl) hv]
  case ping => intros; exact hfeed (by simp)
  case ends =>
    exact h.sublist s.up .ended [] (by simp [answers, WriterHandler.held]) (List.nil_sublist _)

theorem Closing.readerFrame (h : Closing s) (f : Marked Player SocketPacket) : Closing (s.readerFrame f) := by
  apply readerFrame_cases (motive := Closing) s f
  case join =>
    intro id hv
    refine { once := h.once, dropped := fun id' y hy => ?_, opened := ?_ }
    · obtain ⟨c, rfl, hlt, hid, hlive⟩ := h.dropped id' y hy
      refine ⟨c, rfl, Nat.lt_succ_of_lt hlt, ?_, ?_⟩
      · show (update s.conns s.opened _ c).clientId = id'
        rw [Function.update_of_ne (Nat.ne_of_lt hlt)]; exact hid
      · show (update s.conns s.opened _ c).live = false
        rw [Function.update_of_ne (Nat.ne_of_lt hlt)]; exact hlive
    · exact forall_conns (R := fun d y => y.live = true → d < s.opened + 1)
        (fun d hd => Nat.lt_succ_of_lt (h.opened d hd)) fun _ => Nat.lt_succ_self _
  case data =>
    intro id pkg c hv hc ht
    exact { h.update_conn (c := c) (x := { s.conns c with rx := (s.conns c).rx.send ⟨pkg.bytes, f.of⟩ })
      (q := s.toProxy) rfl (fun hl => hl) (fun _ => rfl) with }
  case disconnect =>
    intro id c hv hc
    exact { h.update_conn (c := c) (x := { s.conns c with disconnected := true })
      (q := s.toProxy) rfl (fun hl => hl) (fun _ => rfl) with }
  case dataLost => intros; exact { h with }
  case dataNone => intros; exact { h with }
  case disconnectNone => intros; exact { h with }
  case pong => intros; exact h
  case unexpected => intros; exact { h with }

theorem Closing.handleMessage (h : Closing s) (m : Marked Player (ClientToProxy Player Player)) :
    Closing (s.handleMessage m) := by
  apply handleMessage_cases (motive := Closing) s m <;> intros <;> exact { h with }

theorem Closing.handleFrame (h : Closing s) (f : Marked Conn SocketPacket) : Closing (s.handleFrame f) := by
  apply handleFrame_cases (motive := Closing) s f <;> intros <;> exact { h with }

theorem Closing.step {a : Action} (h : Closing s) (hs : s.step a = some s') : Closing s' := by
  obtain ⟨ha, rfl⟩ := step_eq_some hs
  -- a connection whose task is not yet over
  have hlive : ∀ {c : Conn} {t : HandleClient}, (s.conns c).task = t → t ≠ .dropping → t ≠ .ended →
      (s.conns c).live = true := by
    intro c t ht h1 h2
    simp [ClientConnection.live, ht, h1, h2]
  have hconn : ∀ {c : Conn} {x : ClientConnection}, x.clientId = (s.conns c).clientId →
      (x.live = true → (s.conns c).live = true) → Closing { s with conns := update s.conns c x } :=
    fun hid hx => h.update_conn (q := s.toProxy) hid hx (fun _ => rfl)
  cases a with
  | readerHandler f =>
    have hs : Closing { s with down := s.down.pop f } := { h with }
    exact hs.readerFrame f
  | readerPing time =>
    refine h.mono (fun id => ?_) rfl fun _ => ⟨rfl, fun hc => hc⟩
    show (marks _ s.answers ++ marks _ (s.offerBackend _)).Sublist _
    rw [marks_offerBackend (by simp)]
    exact List.Sublist.refl _
  | writerHandler m =>
    obtain ⟨hw, hm⟩ := of_decide_eq_true ha
    exact h.backendMessage hw hm
  | writerHandlerFeed f =>
    have hw := of_decide_eq_true ha
    refine h.sublist (s.up.feed (fits f.val) f) .tryRecv s.toProxy ?_ (List.Sublist.refl _)
    rw [Link.history_feed, answers, hw]
    simp [WriterHandler.held]
  | writerHandlerEmpty =>
    have hw := (of_decide_eq_true ha).1
    exact h.sublist s.up .flush s.toProxy (by simp [answers, hw, WriterHandler.held]) (List.Sublist.refl _)
  | writerHandlerFlushed =>
    have hw := (of_decide_eq_true ha).1
    exact h.sublist s.up .recv s.toProxy (by simp [answers, hw, WriterHandler.held]) (List.Sublist.refl _)
  | writerHandlerFails | writerHandlerAborted => exact h.endClientWriter
  | upWrite n =>
    exact h.sublist (s.up.write n) s.clientWriter s.toProxy (by rw [Link.history_write]; exact List.Sublist.refl _)
      (List.Sublist.refl _)
  | handleReader f =>
    have hs : Closing { s with up := s.up.pop f } :=
      h.sublist (s.up.pop f) s.clientWriter s.toProxy (by rw [Link.history_pop]; exact List.Sublist.refl _)
        (List.Sublist.refl _)
    exact hs.handleFrame f
  | handleWriter m =>
    have hs : Closing { s with queue := s.queue.tail } := { h with }
    exact hs.handleMessage m
  | backendConnected c =>
    exact hconn rfl fun _ => hlive (of_decide_eq_true ha) (by simp) (by simp)
  | backendConnectFails c error =>
    exact h.drop (hlive (of_decide_eq_true ha) (by simp) (by simp))
      (l := s.offerBackend ⟨.death error, some c⟩) (fun _ => marks_offerBackend (by simp))
  | backendRecv c data =>
    exact hconn rfl fun _ => hlive (of_decide_eq_true ha).1 (by simp) (by simp)
  | backendWrite c rest n =>
    exact hconn rfl fun _ => hlive (of_decide_eq_true ha) (by simp) (by simp)
  | backendWritten c =>
    exact hconn rfl fun _ => hlive (of_decide_eq_true ha) (by simp) (by simp)
  | backendWriteFails c rest =>
    exact h.drop (hlive (of_decide_eq_true ha) (by simp) (by simp)) (fun _ => rfl)
  | backendClosed c => exact hconn rfl fun he => by cases he
  | backendRead c chunk =>
    exact h.update_conn rfl (fun _ => hlive (of_decide_eq_true ha).1 (by simp) (by simp))
      (fun _ => marks_offerBackend (by simp))
  | backendReadEnds c =>
    exact h.drop (hlive (of_decide_eq_true ha) (by simp) (by simp)) (fun _ => rfl)
  | backendDropped c => exact hconn rfl fun he => by cases he
  | connect | joinFails | sendStart | clientRead | clientReadEnds | clientWriterTake | clientWriterDrained
  | clientWriterWrite | clientWriterFlushed | clientWriterFlushFails | clientWriterClosed
  | clientWriterFails | clientWriterAborted | clientFinish | handleWriterFeed | handleWriterEmpty
  | handleWriterFlushed | handleWriterFails | handleWriterAborted | handleReaderEnds | handleEnds
  | downWrite | readerDisconnect | readerDisconnectClosed | readerEnds => exact { h with }

/-- The ids of the backend connections, in the order they were opened. -/
def clientIds (s : Session) : List ClientID := (List.range s.opened).map fun c => (s.conns c).clientId

theorem Closing.count (h : Closing s) (id : ClientID) :
    s.up.history.countP (·.val = .proxyDisconnect id) ≤ s.clientIds.count id := by
  have hsub : (marks (.proxyDisconnect id) s.up.history).Sublist (s.closing id) :=
    (marks_sublist (List.sublist_append_left _ _)).trans (List.sublist_append_left _ _)
  have hmem : marks (.proxyDisconnect id) s.up.history ⊆
      ((List.range s.opened).filter fun c => (s.conns c).clientId == id).map some := by
    intro x hx
    obtain ⟨c, rfl, hlt, hid, -⟩ := h.dropped id x (hsub.subset hx)
    exact List.mem_map_of_mem (List.mem_filter.2 ⟨List.mem_range.2 hlt, beq_iff_eq.2 hid⟩)
  have hle := ((h.once id).sublist hsub).length_le_of_subset hmem
  rw [length_marks, List.length_map, ← List.countP_eq_length_filter] at hle
  rw [clientIds, List.count, List.countP_map]
  exact hle

/-! ### Along a run -/

/-- The frame that `handle_writer` sends. -/
def serverSends : Action → Option (Marked Player SocketPacket)
  | .handleWriterFeed f => some f
  | _ => none

/-- The frame that `writer_handler` sends. -/
def clientSends : Action → Option (Marked Conn SocketPacket)
  | .writerHandlerFeed f => some f
  | _ => none

/-- The frame that `reader_handler` receives. -/
def clientReceives : Action → Option (Marked Player SocketPacket)
  | .readerHandler f => some f
  | _ => none

def joinedId (a : Action) : Option ClientID :=
  (clientReceives a).bind fun f => match f.val with
    | .proxyJoin id => some id
    | _ => none

theorem count_joinedId (as : List Action) (id : ClientID) :
    (as.filterMap joinedId).count id = (as.filterMap clientReceives).countP (·.val = .proxyJoin id) := by
  have hcomp : as.filterMap joinedId = (as.filterMap clientReceives).filterMap fun f =>
      match f.val with
      | .proxyJoin id => some id
      | _ => none := by
    rw [List.filterMap_filterMap]; rfl
  rw [hcomp, List.count_filterMap]
  congr 1
  funext f
  cases f.val with
  | proxyJoin id' => simp only [SocketPacket.proxyJoin.injEq]; rfl
  | _ => simp

theorem down_step {a : Action} (hs : s.step a = some s') :
    s'.down.history = s.down.history ++ (serverSends a).toList := by
  obtain ⟨ha, rfl⟩ := step_eq_some hs
  cases a with
  | handleWriterFeed f => exact Link.history_feed _ _ _
  | downWrite n => exact (Link.history_write _ _).trans (List.append_nil _).symm
  | handleWriter m =>
    refine Eq.trans ?_ (List.append_nil _).symm
    apply handleMessage_cases (motive := fun t => t.down.history = s.down.history)
      { s with queue := s.queue.tail } m <;> intros <;> rfl
  | handleReader f =>
    refine Eq.trans ?_ (List.append_nil _).symm
    apply handleFrame_cases (motive := fun t => t.down.history = s.down.history)
      { s with up := s.up.pop f } f <;> intros <;> rfl
  | readerHandler f =>
    refine Eq.trans ?_ ((Link.history_pop s.down f).trans (List.append_nil _).symm)
    apply readerFrame_cases (motive := fun t => t.down.history = (s.down.pop f).history)
      { s with down := s.down.pop f } f <;> intros <;> rfl
  | writerHandler m =>
    refine Eq.trans ?_ (List.append_nil _).symm
    apply backendMessage_cases (motive := fun t => t.down.history = s.down.history)
      { s with toProxy := s.toProxy.tail } m <;> intros <;> rfl
  | _ => exact (List.append_nil _).symm

theorem up_step {a : Action} (hs : s.step a = some s') :
    s'.up.history = s.up.history ++ (clientSends a).toList := by
  obtain ⟨ha, rfl⟩ := step_eq_some hs
  cases a with
  | writerHandlerFeed f => exact Link.history_feed _ _ _
  | upWrite n => exact (Link.history_write _ _).trans (List.append_nil _).symm
  | handleWriter m =>
    refine Eq.trans ?_ (List.append_nil _).symm
    apply handleMessage_cases (motive := fun t => t.up.history = s.up.history)
      { s with queue := s.queue.tail } m <;> intros <;> rfl
  | handleReader f =>
    refine Eq.trans ?_ ((Link.history_pop s.up f).trans (List.append_nil _).symm)
    apply handleFrame_cases (motive := fun t => t.up.history = (s.up.pop f).history)
      { s with up := s.up.pop f } f <;> intros <;> rfl
  | readerHandler f =>
    refine Eq.trans ?_ (List.append_nil _).symm
    apply readerFrame_cases (motive := fun t => t.up.history = s.up.history)
      { s with down := s.down.pop f } f <;> intros <;> rfl
  | writerHandler m =>
    refine Eq.trans ?_ (List.append_nil _).symm
    apply backendMessage_cases (motive := fun t => t.up.history = s.up.history)
      { s with toProxy := s.toProxy.tail } m <;> intros <;> rfl
  | _ => exact (List.append_nil _).symm

theorem clientIds_congr (hopened : s'.opened = s.opened)
    (h : ∀ c, (s'.conns c).clientId = (s.conns c).clientId) : s'.clientIds = s.clientIds := by
  rw [clientIds, clientIds, hopened]
  exact List.map_congr_left fun c _ => h c

theorem clientId_update {c : Conn} {x : ClientConnection} (hx : x.clientId = (s.conns c).clientId) :
    ∀ d, (update s.conns c x d).clientId = (s.conns d).clientId :=
  forall_conns (R := fun d y => y.clientId = (s.conns d).clientId) (fun _ => rfl) hx

theorem clientIds_step {a : Action} (hs : s.step a = some s') :
    s'.clientIds = s.clientIds ++ (joinedId a).toList := by
  obtain ⟨ha, rfl⟩ := step_eq_some hs
  cases a with
  | readerHandler f =>
    have hother : (∀ id, f.val ≠ .proxyJoin id) →
        s.clientIds = s.clientIds ++ (joinedId (.readerHandler f)).toList := by
      intro hjoin
      have hnone : joinedId (.readerHandler f) = none := by
        cases hv : f.val with
        | proxyJoin id => exact absurd hv (hjoin id)
        | _ => simp [joinedId, clientReceives, hv]
      rw [hnone, Option.toList_none, List.append_nil]
    apply readerFrame_cases
      (motive := fun t => t.clientIds = s.clientIds ++ (joinedId (.readerHandler f)).toList)
      { s with down := s.down.pop f } f
    case join =>
      intro id hv
      have hjoined : joinedId (.readerHandler f) = some id := by simp [joinedId, clientReceives, hv]
      rw [hjoined, clientIds, List.range_succ, List.map_append]
      refine congrArg₂ _ (List.map_congr_left fun c hc => ?_) ?_
      · show (update s.conns s.opened _ c).clientId = _
        rw [Function.update_of_ne (Nat.ne_of_lt (List.mem_range.1 hc))]
      · show [(update s.conns s.opened _ s.opened).clientId] = _
        rw [Function.update_self]
        rfl
    case data =>
      intro _ _ _ hv _ _
      refine Eq.trans ?_ (hother (by simp [hv]))
      exact clientIds_congr rfl (clientId_update (by rfl))
    case dataLost => intro _ _ _ hv _ _; exact hother (by simp [hv])
    case dataNone => intro _ _ hv _; exact hother (by simp [hv])
    case disconnect =>
      intro _ _ hv _
      refine Eq.trans ?_ (hother (by simp [hv]))
      exact clientIds_congr rfl (clientId_update (by rfl))
    case disconnectNone => intro _ hv _; exact hother (by simp [hv])
    case pong => intro _ hv; exact hother (by simp [hv])
    case unexpected => intro hjoin _ _; exact hother hjoin
  | handleWriter m =>
    refine Eq.trans ?_ (List.append_nil _).symm
    apply handleMessage_cases (motive := fun t => t.clientIds = s.clientIds)
      { s with queue := s.queue.tail } m <;> intros <;> rfl
  | handleReader f =>
    refine Eq.trans ?_ (List.append_nil _).symm
    apply handleFrame_cases (motive := fun t => t.clientIds = s.clientIds)
      { s with up := s.up.pop f } f <;> intros <;> rfl
  | writerHandler m =>
    refine Eq.trans ?_ (List.append_nil _).symm
    apply backendMessage_cases (motive := fun t => t.clientIds = s.clientIds)
      { s with toProxy := s.toProxy.tail } m <;> intros <;> rfl
  | backendConnected | backendConnectFails | backendRecv | backendWrite | backendWritten | backendWriteFails
  | backendClosed | backendRead | backendReadEnds | backendDropped =>
    refine Eq.trans ?_ (List.append_nil _).symm
    exact clientIds_congr rfl (clientId_update (by rfl))
  | _ => exact (List.append_nil _).symm

/-- At every moment of a run, the server has sent at most as many disconnects of an id as joins, and the
client at most as many as it has received joins. -/
theorem disconnects_le_joins {as : List Action} (h : Lts.run step init as = some s) (id : ClientID) :
    (as.filterMap serverSends).countP (·.val = .proxyDisconnect id) ≤
        (as.filterMap serverSends).countP (·.val = .proxyJoin id) ∧
      (as.filterMap clientSends).countP (·.val = .proxyDisconnect id) ≤
        (as.filterMap clientReceives).countP (·.val = .proxyJoin id) := by
  have hleaving : Leaving s ∧ Joining s :=
    Lts.run_invariant (I := fun _ s => Leaving s ∧ Joining s) ⟨leaving_init, joining_init⟩
      (fun _ ⟨hl, hj⟩ hs => ⟨hl.step hj hs, hj.step hs⟩) h
  have hclosing : Closing s :=
    Lts.run_invariant (I := fun _ s => Closing s) closing_init (fun _ hc hs => hc.step hs) h
  have hdown : s.down.history = as.filterMap serverSends :=
    Lts.run_log (fun s => s.down.history) serverSends rfl down_step h
  have hup : s.up.history = as.filterMap clientSends :=
    Lts.run_log (fun s => s.up.history) clientSends rfl up_step h
  have hids : s.clientIds = as.filterMap joinedId :=
    Lts.run_log clientIds joinedId rfl clientIds_step h
  refine ⟨hdown ▸ hleaving.1.count id, ?_⟩
  calc (as.filterMap clientSends).countP (·.val = .proxyDisconnect id)
      = s.up.history.countP (·.val = .proxyDisconnect id) := by rw [hup]
    _ ≤ s.clientIds.count id := hclosing.count id
    _ = (as.filterMap clientReceives).countP (·.val = .proxyJoin id) := by rw [hids, count_joinedId]

/-- Id 0 was joined twice and left once, id 1 was joined, and its backend closes. -/
def rejoinAndHangUp : List Action :=
  leaveAndRejoin ++ [.backendReadEnds 1, .writerHandler ⟨.removeMinecraftClient 1, some 1⟩,
    .writerHandlerFeed ⟨.proxyDisconnect 1, some 1⟩]

theorem disconnects_le_joins_rejoinAndHangUp :
    ∃ s, Lts.run step init rejoinAndHangUp = some s ∧
      ((rejoinAndHangUp.filterMap serverSends).countP (·.val = .proxyDisconnect 0) = 1 ∧
        (rejoinAndHangUp.filterMap serverSends).countP (·.val = .proxyJoin 0) = 2) ∧
      (rejoinAndHangUp.filterMap clientSends).countP (·.val = .proxyDisconnect 1) = 1 ∧
      ∀ id, (rejoinAndHangUp.filterMap serverSends).countP (·.val = .proxyDisconnect id) ≤
          (rejoinAndHangUp.filterMap serverSends).countP (·.val = .proxyJoin id) ∧
        (rejoinAndHangUp.filterMap clientSends).countP (·.val = .proxyDisconnect id) ≤
          (rejoinAndHangUp.filterMap clientReceives).countP (·.val = .proxyJoin id) := by
  have h : (Lts.run step init rejoinAndHangUp).isSome = true := by decide +kernel
  obtain ⟨s, hrun⟩ := Option.isSome_iff_exists.1 h
  exact ⟨s, hrun, by decide +kernel, by decide +kernel, disconnects_le_joins hrun⟩

end Session
end CraftIP
