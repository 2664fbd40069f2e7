import CraftIP.Session.Assigned
import CraftIP.Session.Bytes
import CraftIP.Session.Uplink

/-!
# From the players to the tunnel

When no id is given twice, the data frames that `handle_writer` has made for an id, the packets that wait
for it and what the player has not sent yet make up the bytes read from the player, in their order
(`Sent`), and no frame of an id comes before its join.
-/

namespace CraftIP
open Function (update)

/-- What a player in this phase has read and not sent. -/
def ClientPhase.unsent : ClientPhase → List UInt8
  | .awaitId startData => startData
  | .hasId _ startData => startData
  | _ => []

theorem ClientPhase.unsent_of_id? {phase : ClientPhase} {id : ClientID} (h : phase.id? = some id) :
    phase.unsent = [] := by
  cases phase <;> first | rfl | cases h

namespace Session

/-- The frames that `handle_writer` has made. -/
def made (s : Session) : List (Marked Player SocketPacket) := s.down.history ++ HandleWriter.held s.writer

/-- While `handle_writer` runs, nothing that was read from a player is lost, doubled or out of order. -/
structure Sent (s : Session) : Prop where
  start : ∀ P startData, (s.players P).phase = .awaitId startData → (s.players P).bytesRead = startData
  queue : ∀ m ∈ s.queue, ∀ id, m.val.names id = true → s.owner id ≠ none
  frames : ∀ f ∈ s.made, ∀ id, f.val.names id = true → s.owner id ≠ none
  join : ∀ f ∈ s.made, ∀ id, f.val = .proxyJoin id → f.of = s.owner id
  first : s.made.Pairwise fun g f => ∀ id, f.val = .proxyJoin id → g.val.names id = false
  sent : s.writer ≠ .ended → ∀ P id, s.owner id = some P →
    dataFor id s.made ++ queuedFor id s.queue ++ (s.players P).phase.unsent = (s.players P).bytesRead
  history : ∀ P id, s.owner id = some P → dataFor id s.down.history <+: (s.players P).bytesRead

theorem sent_init : Sent init where
  start P startData h := by cases h
  queue := by simp [init]
  frames := by simp [init, made, HandleWriter.held, Link.history, Link.inFlight, Link.empty]
  join := by simp [init, made, HandleWriter.held, Link.history, Link.inFlight, Link.empty]
  first := List.Pairwise.nil
  sent _ P id h := by cases h
  history P id h := by cases h

variable {s s' : Session}

theorem made_of_recv (h : s.writer = .recv ∨ s.writer = .tryRecv) : s.made = s.down.history := by
  rcases h with h | h <;> simp [made, h, HandleWriter.held]

theorem mem_made_of_history {f : Marked Player SocketPacket} (h : f ∈ s.down.history) : f ∈ s.made :=
  List.mem_append_left _ h

theorem made_endWriter : s.endWriter.made = s.down.history := List.append_nil _

/-- The frame that `handle_writer` held is lost with it. -/
theorem Sent.endWriter (h : Sent s) : Sent s.endWriter :=
  { h with
    queue := (fun _ hm => by cases hm)
    frames := fun f hf => h.frames f (mem_made_of_history (made_endWriter ▸ hf))
    join := fun f hf => h.join f (mem_made_of_history (made_endWriter ▸ hf))
    first := made_endWriter ▸ (List.pairwise_append.1 h.first).1
    sent := fun hw => absurd rfl hw }

/-- The frames are the same, wherever they are. -/
theorem Sent.relink (h : Sent s) (down : Link (Marked Player SocketPacket)) (w : HandleWriter)
    (hmade : down.history ++ HandleWriter.held w = s.made) (hw : w ≠ .ended → s.writer ≠ .ended)
    (hhistory : ∀ P id, s.owner id = some P → dataFor id down.history <+: (s.players P).bytesRead) :
    Sent { s with down, writer := w } where
  start := h.start
  queue := h.queue
  frames := fun f hf => h.frames f (hmade ▸ hf)
  join := fun f hf => h.join f (hmade ▸ hf)
  first := by rw [made, hmade]; exact h.first
  sent := fun hne P id hid => by rw [made, hmade]; exact h.sent (hw hne) P id hid
  history := hhistory

/-- `handle_writer` makes a frame of a message. -/
theorem Sent.feed (h : Sent s) (hw : s.writer = .recv ∨ s.writer = .tryRecv)
    {m : Marked Player (ClientToProxy Player Player)}
    {q : List (Marked Player (ClientToProxy Player Player))} (hq : s.queue = m :: q)
    {f : Marked Player SocketPacket} (hjoin : ∀ id, f.val ≠ .proxyJoin id)
    (hnames : ∀ id, f.val.names id = m.val.names id) (hbytes : ∀ id, f.val.bytesFor id = m.val.bytesFor id)
    (d : Distributor Player) : Sent { s with queue := q, distributor := d, writer := .feed f } := by
  have hmade : ∀ d, made { s with queue := q, distributor := d, writer := .feed f } = s.made ++ [f] :=
    fun _ => by rw [made_of_recv hw]; rfl
  have hmem : m ∈ s.queue := hq ▸ List.mem_cons_self
  refine
    { start := h.start
      queue := fun m' hm' => h.queue m' (hq ▸ List.mem_cons_of_mem m hm')
      frames := ?_
      join := ?_
      first := ?_
      sent := fun _ P id hid => ?_
      history := h.history }
  · rw [hmade]
    exact forall_mem_append_singleton h.frames fun id he => h.queue m hmem id (hnames id ▸ he)
  · rw [hmade]
    exact forall_mem_append_singleton h.join fun id he => absurd he (hjoin id)
  · rw [hmade, List.pairwise_append]
    refine ⟨h.first, List.pairwise_singleton _ _, fun g _ f' hf' id he => ?_⟩
    obtain rfl := List.mem_singleton.1 hf'
    exact absurd he (hjoin id)
  · have hsent := h.sent (writer_ne_ended hw) P id hid
    rw [hq, queuedFor_cons, ← List.append_assoc, ← hbytes] at hsent
    rw [hmade, dataFor_append, dataFor_singleton]
    exact hsent

/-- A player joins: nothing with its id is there before. -/
theorem Sent.joined (h : Sent s) (hassigned : Assigned s) (hw : s.writer = .recv ∨ s.writer = .tryRecv)
    {m : Marked Player (ClientToProxy Player Player)} (hm : s.queue.head? = some m) {P tx : Player}
    (hv : m.val = .addMinecraftClient P tx) {id : ClientID} (hnew : s.owner id = none)
    (d : Distributor Player) {startData : List UInt8} (hphase : (s.players P).phase = .awaitId startData) :
    Sent { s with
      queue := s.queue.tail
      distributor := d
      players := update s.players P { s.players P with phase := .hasId id startData }
      owner := update s.owner id (some tx)
      writer := .feed ⟨.proxyJoin id, some tx⟩ } := by
  obtain ⟨rfl, hawait, -⟩ := hassigned.joining.awaiting hm hv
  obtain ⟨q, hq⟩ := List.head?_eq_some_iff.1 hm
  have hnone := (hassigned.player P).of_awaiting hawait
  have hframes : ∀ f ∈ s.made, f.val.names id = false := fun f hf =>
    Bool.eq_false_iff.2 fun he => h.frames f hf id he hnew
  have hqueue : ∀ m ∈ s.queue, m.val.names id = false := fun m hm =>
    Bool.eq_false_iff.2 fun he => h.queue m hm id he hnew
  set t : Session := { s with
    queue := s.queue.tail
    distributor := d
    players := update s.players P { s.players P with phase := .hasId id startData }
    owner := update s.owner id (some P)
    writer := .feed ⟨.proxyJoin id, some P⟩ } with ht
  have hmade : t.made = s.made ++ [⟨.proxyJoin id, some P⟩] := by rw [made_of_recv hw]; rfl
  have howned : ∀ {id'}, s.owner id' ≠ none → t.owner id' = s.owner id' := by
    intro id' hid'
    exact Function.update_of_ne (by rintro rfl; exact hid' hnew) _ _
  have howner : t.owner id = some P := Function.update_self id (some P) s.owner
  have hplayer : t.players P = { s.players P with phase := .hasId id startData } :=
    Function.update_self P _ s.players
  -- a player that has an id already is another one
  have hother : ∀ {Q id'}, id' ≠ id → t.owner id' = some Q →
      s.owner id' = some Q ∧ t.players Q = s.players Q := by
    intro Q id' hne hid'
    have hid : s.owner id' = some Q := (Function.update_of_ne hne _ _).symm.trans hid'
    exact ⟨hid, Function.update_of_ne (by rintro rfl; exact hnone id' hid) _ _⟩
  refine
    { start := ?_, queue := fun m' hm' id' he => ?_, frames := ?_, join := ?_, first := ?_
      sent := fun _ Q id' hid' => ?_, history := fun Q id' hid' => ?_ }
  · refine forall_players (R := fun _ p => ∀ startData, p.phase = .awaitId startData →
      p.bytesRead = startData) h.start ?_
    intro _ he; cases he
  · have hne := h.queue m' (List.mem_of_mem_tail hm') id' he
    rw [howned hne]; exact hne
  · rw [hmade]
    refine forall_mem_append_singleton (fun f hf id' he => ?_) fun id' he => ?_
    · rw [howned (h.frames f hf id' he)]; exact h.frames f hf id' he
    · obtain rfl : id = id' := of_decide_eq_true he
      rw [howner]; simp
  · rw [hmade]
    refine forall_mem_append_singleton (fun f hf id' he => ?_) fun id' he => ?_
    · have hne := h.frames f hf id' (by rw [he]; exact decide_eq_true rfl)
      rw [howned hne]; exact h.join f hf id' he
    · cases he
      exact howner.symm
  · rw [hmade, List.pairwise_append]
    refine ⟨h.first, List.pairwise_singleton _ _, fun g hg f hf id' he => ?_⟩
    obtain rfl := List.mem_singleton.1 hf
    cases he
    exact hframes g hg
  · rw [hmade, dataFor_append, dataFor_singleton]
    show dataFor id' s.made ++ [] ++ queuedFor id' s.queue.tail ++ _ = _
    rw [List.append_nil]
    by_cases hid : id' = id
    · subst hid
      rw [howner] at hid'
      cases hid'
      rw [hplayer, dataFor_eq_nil hframes,
        queuedFor_eq_nil fun m hm => hqueue m (List.mem_of_mem_tail hm)]
      exact (h.start P startData hphase).symm
    · obtain ⟨howner', hsame⟩ := hother hid hid'
      have hsent := h.sent (writer_ne_ended hw) Q id' howner'
      rw [hq, queuedFor_cons, hv] at hsent
      rw [hsame, hq]
      exact hsent
  · by_cases hid : id' = id
    · rw [hid]
      show dataFor id s.down.history <+: _
      rw [dataFor_eq_nil fun f hf => hframes f (mem_made_of_history hf)]
      exact List.nil_prefix
    · obtain ⟨howner', hsame⟩ := hother hid hid'
      rw [hsame]
      exact h.history Q id' howner'

theorem Sent.handleMessage (h : Sent s) (hassigned : Assigned s)
    (hw : s.writer = .recv ∨ s.writer = .tryRecv) {m : Marked Player (ClientToProxy Player Player)}
    (hm : s.queue.head? = some m) (hnew : ∀ id ∈ s.givenId (.handleWriter m), s.owner id = none) :
    Sent ({ s with queue := s.queue.tail }.handleMessage m) := by
  obtain ⟨q, hq⟩ := List.head?_eq_some_iff.1 hm
  have htail : s.queue.tail = q := by rw [hq, List.tail_cons]
  rw [htail]
  apply handleMessage_cases (motive := Sent) { s with queue := q } m
  case full => intros; exact { h.endWriter with }
  case joined =>
    intro P tx id d startData hv hins hphase
    have hjoined := h.joined hassigned hw hm hv (hnew id (givenId_eq_some hv hins)) d hphase
    rw [htail] at hjoined
    exact hjoined
  case gone =>
    intro P tx id d hv hins hphase
    obtain ⟨startData, hp⟩ := hassigned.joining.awaitId hm hv
    exact absurd hp (hphase startData)
  case packet =>
    intro id pkg hv
    exact h.feed hw hq (by simp) (fun id' => by rw [hv]; rfl) (fun id' => by rw [hv]; rfl) _
  case ping =>
    intro ping hv
    exact h.feed hw hq (by simp) (fun id' => by rw [hv]; rfl) (fun id' => by rw [hv]; rfl) _
  case removed =>
    intro id hv _
    exact h.feed hw hq (by simp) (fun id' => by rw [hv]; rfl) (fun id' => by rw [hv]; rfl) _
  case unknown =>
    intro id hv _
    have hs : Sent { s with queue := q } :=
      { h with
        queue := fun m' hm' => h.queue m' (hq ▸ List.mem_cons_of_mem m hm')
        sent := fun hne P id' hid => by
          have hsent := h.sent hne P id' hid
          rw [hq, queuedFor_cons, hv] at hsent
          exact hsent }
    have hmade : s.down.history ++ HandleWriter.held .tryRecv = s.made := by
      rw [made_of_recv hw]; exact List.append_nil _
    exact { hs.relink _ .tryRecv hmade (fun _ => writer_ne_ended hw) hs.history with }

/-- What a player does that neither reads from it nor sends what it has not sent. -/
theorem Sent.update_player (h : Sent s) {P : Player} {p : PlayerState}
    (hstart : ∀ startData, p.phase = .awaitId startData → (s.players P).phase = .awaitId startData)
    (hunsent : p.phase.unsent = (s.players P).phase.unsent)
    (hread : p.bytesRead = (s.players P).bytesRead) : Sent { s with players := update s.players P p } where
  start := forall_players (R := fun _ p => ∀ startData, p.phase = .awaitId startData →
    p.bytesRead = startData) h.start (fun startData he => hread ▸ h.start P startData (hstart startData he))
  queue := h.queue
  frames := h.frames
  join := h.join
  first := h.first
  sent hw := forall_players (R := fun Q p => ∀ id, s.owner id = some Q →
    dataFor id s.made ++ queuedFor id s.queue ++ p.phase.unsent = p.bytesRead) (h.sent hw)
    fun id hid => by rw [hunsent, hread]; exact h.sent hw P id hid
  history := forall_players (R := fun Q p => ∀ id, s.owner id = some Q →
    dataFor id s.down.history <+: p.bytesRead) h.history fun id hid => by
      rw [hread]; exact h.history P id hid

/-- The queue changes by messages without data. -/
theorem Sent.requeue (h : Sent s) {q : List (Marked Player (ClientToProxy Player Player))}
    (hnames : ∀ m ∈ q, ∀ id, m.val.names id = true → s.owner id ≠ none)
    (hq : ∀ id, queuedFor id q = queuedFor id s.queue) : Sent { s with queue := q } :=
  { h with
    queue := hnames
    sent := fun hw P id hid => by
      show dataFor id s.made ++ queuedFor id q ++ _ = _
      rw [hq]; exact h.sent hw P id hid }

theorem queuedFor_offer {m : Marked Player (ClientToProxy Player Player)} {id : ClientID}
    (hm : m.val.bytesFor id = []) : queuedFor id (s.offer m) = queuedFor id s.queue := by
  rw [offer]
  split
  · rfl
  · rw [queuedFor_append, queuedFor_cons, hm]; exact List.append_nil _

theorem Sent.handleFrame (h : Sent s) (f : Marked Conn SocketPacket) : Sent (s.handleFrame f) := by
  apply handleFrame_cases (motive := Sent) s f
  case disconnect =>
    intro id P hv hg
    exact { h.update_player (P := P) (p := { s.players P with disconnected := true }) (fun _ he => he)
      rfl rfl with }
  case disconnectNone => intros; exact { h with }
  case data =>
    intro id pkg P hv hg
    have hsend : ∀ data, ((s.players P).send data).phase = (s.players P).phase ∧
        ((s.players P).send data).bytesRead = (s.players P).bytesRead := by
      intro data
      rw [PlayerState.send]; split <;> exact ⟨rfl, rfl⟩
    obtain ⟨hphase, hread⟩ := hsend ⟨pkg.bytes, f.of⟩
    exact h.update_player (fun _ he => hphase ▸ he) (by rw [hphase]) hread
  case dataNone => intros; exact h
  case ping =>
    intro ping hv
    exact h.requeue (forall_mem_offer h.queue (by simp [ClientToProxy.names])) fun id => queuedFor_offer rfl
  case other => intros; exact h

theorem Sent.readerFrame (h : Sent s) (f : Marked Player SocketPacket) : Sent (s.readerFrame f) := by
  apply readerFrame_cases (motive := Sent) s f <;> intros <;> exact { h with }

theorem Sent.backendMessage (h : Sent s) (m : Marked Conn BackendToProxy) : Sent (s.backendMessage m) := by
  apply backendMessage_cases (motive := Sent) s m <;> intros <;> exact { h with }

/-- A player sends data under its id: what it has not sent yet, or what it has read just now. -/
theorem Sent.send (h : Sent s) (hassigned : Assigned s) {P : Player} {id : ClientID}
    (howner : s.owner id = some P) (hw : s.writer ≠ .ended) {p : PlayerState} (data : List UInt8)
    (hid : p.phase.id? = some id)
    (hread : ∀ sent, sent ++ (s.players P).phase.unsent = (s.players P).bytesRead → sent ++ data = p.bytesRead)
    (hgrow : (s.players P).bytesRead <+: p.bytesRead) :
    Sent { s with
      players := update s.players P p
      queue := s.queue ++ [⟨.packet id ⟨data⟩, some P⟩] } where
  start := by
    refine forall_players (R := fun _ p => ∀ startData, p.phase = .awaitId startData →
      p.bytesRead = startData) h.start fun startData he => ?_
    rw [he] at hid; cases hid
  queue := by
    refine forall_mem_append_singleton h.queue fun id' he => ?_
    obtain rfl : id = id' := of_decide_eq_true he
    show s.owner id ≠ none
    rw [howner]; simp
  frames := h.frames
  join := h.join
  first := h.first
  sent _ Q id' hQ := by
    have hsent := h.sent hw Q id' hQ
    show dataFor id' s.made ++ queuedFor id' (s.queue ++ [⟨.packet id ⟨data⟩, some P⟩]) ++
      (update s.players P p Q).phase.unsent = (update s.players P p Q).bytesRead
    rw [queuedFor_append, queuedFor_cons, queuedFor_nil, List.append_nil, ClientToProxy.bytesFor]
    by_cases he : id = id'
    · subst he
      obtain rfl : P = Q := Option.some.inj (howner.symm.trans hQ)
      rw [Function.update_self, if_pos rfl, ClientPhase.unsent_of_id? hid, List.append_nil, ← List.append_assoc]
      exact hread _ hsent
    · have hne : Q ≠ P := by rintro rfl; exact he (hassigned.inj id id' Q howner hQ)
      rw [Function.update_of_ne hne, if_neg he, List.append_nil]
      exact hsent
  history := forall_players (R := fun Q p => ∀ id, s.owner id = some Q →
    dataFor id s.down.history <+: p.bytesRead) h.history fun id' hid' => (h.history P id' hid').trans hgrow

theorem Sent.step {a : Action} (h : Sent s) (hassigned : Assigned s) (hclean : Clean s)
    (hnew : ∀ id ∈ s.givenId a, s.owner id = none) (hs : s.step a = some s') : Sent s' := by
  obtain ⟨ha, rfl⟩ := step_eq_some hs
  cases a with
  | connect P startData =>
    obtain ⟨hp, hw⟩ := of_decide_eq_true ha
    have hnone : ∀ id, s.owner id ≠ some P := fun id hid => by
      rcases (hassigned.player P).owned id hid with he | he <;> rw [hp] at he <;> cases he
    have hs : Sent { s with queue := s.queue ++ [⟨.addMinecraftClient P P, some P⟩] } :=
      h.requeue (forall_mem_append_singleton h.queue (by simp [ClientToProxy.names]))
        fun id => (queuedFor_append _).trans (List.append_nil _)
    exact { hs with
      start := forall_players (R := fun _ p => ∀ startData, p.phase = .awaitId startData →
        p.bytesRead = startData) h.start (fun _ he => ClientPhase.awaitId.inj he)
      sent := fun hw Q id hid => by
        have hne : Q ≠ P := by rintro rfl; exact hnone id hid
        have hsent := hs.sent hw Q id hid
        rw [show (s.next (.connect P startData)).players Q = s.players Q from Function.update_of_ne hne _ _]
        exact hsent
      history := forall_players (R := fun Q p => ∀ id, s.owner id = some Q →
        dataFor id s.down.history <+: p.bytesRead) h.history fun id hid => absurd hid (hnone id) }
  | joinFails P =>
    obtain ⟨-, hw⟩ := of_decide_eq_true ha
    exact { h with
      start := forall_players (R := fun _ p => ∀ startData, p.phase = .awaitId startData →
        p.bytesRead = startData) h.start (fun _ he => by cases he)
      sent := fun hne => absurd hw hne
      history := forall_players (R := fun Q p => ∀ id, s.owner id = some Q →
        dataFor id s.down.history <+: p.bytesRead) h.history (h.history P) }
  | sendStart P id startData =>
    obtain ⟨hp, hw⟩ := of_decide_eq_true ha
    have howner := (hassigned.player P).given id (by rw [hp]; rfl)
    refine h.send hassigned howner hw _ rfl (fun sent he => ?_) (List.prefix_refl _)
    rw [hp] at he; exact he
  | clientRead P id chunk =>
    obtain ⟨-, hid, -⟩ := of_decide_eq_true ha
    have howner := (hassigned.player P).given id (ClientPhase.given?_of_id? hid)
    by_cases hw : s.writer = .ended
    · exact { h with
        start := forall_players (R := fun _ p => ∀ startData, p.phase = .awaitId startData →
          p.bytesRead = startData) h.start (fun _ he => by
            have he' : (s.players P).phase = _ := he
            rw [he'] at hid; cases hid)
        queue := by
          show ∀ m ∈ s.offer _, _
          rw [offer, if_pos hw]; exact h.queue
        sent := fun hne => absurd hw hne
        history := forall_players (R := fun Q p => ∀ id, s.owner id = some Q →
          dataFor id s.down.history <+: p.bytesRead) h.history fun id' hid' =>
            (h.history P id' hid').trans (List.prefix_append _ _) }
    · have hsend := h.send hassigned howner hw (p := { s.players P with
        bytesRead := (s.players P).bytesRead ++ chunk
        reading := s.writer ≠ .ended }) chunk hid (fun sent he => ?_) (List.prefix_append _ _)
      · show Sent { s with
          players := update s.players P { s.players P with
            bytesRead := (s.players P).bytesRead ++ chunk
            reading := s.writer ≠ .ended }
          queue := s.offer ⟨.packet id ⟨chunk⟩, some P⟩ }
        rw [offer, if_neg hw]
        exact hsend
      · rw [ClientPhase.unsent_of_id? hid, List.append_nil] at he
        rw [he]
  | clientFinish P id =>
    obtain ⟨hp, -⟩ := of_decide_eq_true ha
    have howner := (hassigned.player P).given id (by rw [hp]; rfl)
    have hs := h.update_player (P := P) (p := { s.players P with phase := .finished id })
      (fun _ he => by cases he) (by rw [hp]; rfl) rfl
    refine hs.requeue (forall_mem_offer h.queue fun id' he => ?_) fun id => queuedFor_offer (s := s) rfl
    obtain rfl : id = id' := of_decide_eq_true he
    show s.owner id ≠ none
    rw [howner]; simp
  | clientReadEnds P | clientWriterTake P _ | clientWriterDrained P | clientWriterWrite P _
  | clientWriterFlushed P | clientWriterFlushFails P | clientWriterClosed P | clientWriterFails P
  | clientWriterAborted P => exact h.update_player (fun _ he => he) rfl rfl
  | handleWriter m =>
    obtain ⟨hw, hm⟩ := of_decide_eq_true ha
    exact h.handleMessage hassigned hw hm hnew
  | handleWriterFeed f =>
    have hw := of_decide_eq_true ha
    have hmade : (s.down.feed (fits f.val) f).history ++ HandleWriter.held .tryRecv = s.made := by
      rw [Link.history_feed, made, hw]; exact List.append_nil _
    have hne : s.writer ≠ .ended := by rw [hw]; simp
    refine h.relink _ _ hmade (fun _ => hne) fun P id hid => ?_
    have hsent := h.sent hne P id hid
    rw [← hmade, List.append_assoc] at hsent
    exact hsent ▸ (by rw [dataFor_append, List.append_assoc]; exact List.prefix_append _ _)
  | handleWriterEmpty =>
    have hw := (of_decide_eq_true ha).1
    exact h.relink s.down .flush (by rw [made, hw]; rfl) (by simp [hw]) h.history
  | handleWriterFlushed =>
    have hw := (of_decide_eq_true ha).1
    exact h.relink s.down .recv (by rw [made, hw]; rfl) (by simp [hw]) h.history
  | handleWriterFails | handleWriterAborted => exact h.endWriter
  | downWrite n =>
    exact h.relink (s.down.write n) s.writer (by rw [Link.history_write]; rfl) id
      (by rw [Link.history_write]; exact h.history)
  | handleReader f =>
    have hs : Sent { s with up := s.up.pop f } := { h with }
    exact hs.handleFrame f
  | readerHandler f =>
    have hhistory := (Link.pop_of_gives hclean.down (of_decide_eq_true ha).2).2.2.1
    have hs : Sent { s with down := s.down.pop f } :=
      h.relink (s.down.pop f) s.writer (by rw [hhistory]; rfl) id (hhistory ▸ h.history)
    exact hs.readerFrame f
  | writerHandler m =>
    have hs : Sent { s with toProxy := s.toProxy.tail } := { h with }
    exact hs.backendMessage m
  | handleReaderEnds | handleEnds | upWrite | readerDisconnect | readerDisconnectClosed
  | readerPing | readerEnds | writerHandlerFeed | writerHandlerEmpty | writerHandlerFlushed
  | writerHandlerFails | writerHandlerAborted | backendConnected | backendConnectFails | backendRecv
  | backendWrite | backendWritten | backendWriteFails | backendClosed | backendRead | backendReadEnds
  | backendDropped => exact { h with }

end Session
end CraftIP
