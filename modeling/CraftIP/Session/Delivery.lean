import CraftIP.Session.Backward

/-!
# From the tunnel to the players

When no id is given twice, a player gets the data that the server took under its id, up to where its slot
is emptied, and writes it in the same order (`Delivered`). What it was sent before a disconnect is all
written when its channel closes.
-/

namespace CraftIP
open Function (update)

theorem PlayerState.open_or (p : PlayerState) : p.rxOpen = true ∨ p.writer = .closed ∨ p.writer = .ended := by
  cases hw : p.writer <;> simp [PlayerState.rxOpen, hw]

namespace Session

/-- A player against the frames that the server has taken. -/
structure PlayerDelivered (owner slots : ClientID → Option Player) (taken : List (Marked Conn SocketPacket))
    (serving : Bool) (P : Player) (p : PlayerState) : Prop where
  fresh : (∀ id, owner id ≠ some P) → p.rx.history = [] ∧ p.disconnected = false
  received : ∀ id, owner id = some P → chunks p.rx.history <+: dataFor id taken
  slot : ∀ id, slots id = some P → p.rxOpen = true → chunks p.rx.history = dataFor id taken
  disconnected : ∀ id, owner id = some P → p.disconnected = true →
    (∃ f ∈ taken, f.val = .proxyDisconnect id) ∧
      (p.writer ≠ .ended → chunks p.rx.history = dataBefore id taken)
  written : p.bytesWritten ++ p.bufWriter = chunks p.rx.taken
  flushed : p.writer = .recv ∨ p.writer = .closed → p.bufWriter = []
  closed : p.writer = .closed → p.rx.pending = [] ∧ p.phase.id?.isSome = true ∧
    (serving = false ∨ ∀ id, slots id ≠ some P)

/-- Every player, and the slots: the id of a slot is not disconnected yet. -/
structure Delivered (s : Session) : Prop where
  player : ∀ P, PlayerDelivered s.owner s.distributor.getById s.up.taken s.serving P (s.players P)
  slot : ∀ id P, s.distributor.getById id = some P → ∀ f ∈ s.up.taken, f.val ≠ .proxyDisconnect id
  reader : s.serving = false → s.reader = false

theorem delivered_init : Delivered init where
  player P :=
    { fresh := fun _ => ⟨rfl, rfl⟩
      received := fun id h => by cases h
      slot := fun id h => by simp [init] at h
      disconnected := fun id h => by cases h
      written := rfl
      flushed := fun _ => rfl
      closed := (fun h => by cases h) }
  slot id P h := by simp [init] at h
  reader h := by cases h

variable {s s' : Session} {owner slots : ClientID → Option Player} {taken : List (Marked Conn SocketPacket)}
  {serving : Bool} {P : Player} {p p' : PlayerState}

/-- The player goes on with what it has received. -/
theorem PlayerDelivered.go (h : PlayerDelivered owner slots taken serving P p)
    (hrx : p'.rx.history = p.rx.history) (hdis : p'.disconnected = p.disconnected)
    (hopen : p'.rxOpen = true → p.rxOpen = true) (hended : p'.writer ≠ .ended → p.writer ≠ .ended)
    (hwritten : p'.bytesWritten ++ p'.bufWriter = chunks p'.rx.taken)
    (hflushed : p'.writer = .recv ∨ p'.writer = .closed → p'.bufWriter = [])
    (hclosed : p'.writer = .closed → p'.rx.pending = [] ∧ p'.phase.id?.isSome = true ∧
      (serving = false ∨ ∀ id, slots id ≠ some P)) : PlayerDelivered owner slots taken serving P p' where
  fresh hno := by rw [hrx, hdis]; exact h.fresh hno
  received id hid := by rw [hrx]; exact h.received id hid
  slot id hid ho := by rw [hrx]; exact h.slot id hid (hopen ho)
  disconnected id hid hd := by
    obtain ⟨hin, hchunks⟩ := h.disconnected id hid (hdis ▸ hd)
    exact ⟨hin, fun hne => by rw [hrx]; exact hchunks (hended hne)⟩
  written := hwritten
  flushed := hflushed
  closed := hclosed

/-- The phase changes, and a player whose channel closed keeps its id. -/
theorem PlayerDelivered.phase (h : PlayerDelivered owner slots taken serving P p) (phase : ClientPhase)
    (hphase : p.phase.id?.isSome = true → phase.id?.isSome = true) (reading : Bool)
    (bytesRead : List UInt8) :
    PlayerDelivered owner slots taken serving P { p with phase, reading, bytesRead } :=
  { h with closed := fun hw => ⟨(h.closed hw).1, hphase (h.closed hw).2.1, (h.closed hw).2.2⟩ }

/-- Slots are emptied. -/
theorem PlayerDelivered.clear (h : PlayerDelivered owner slots taken serving P p)
    {slots' : ClientID → Option Player} (hslots : ∀ id, slots' id = some P → slots id = some P) :
    PlayerDelivered owner slots' taken serving P p :=
  { h with
    slot := fun id hid => h.slot id (hslots id hid)
    closed := fun hw => ⟨(h.closed hw).1, (h.closed hw).2.1,
      (h.closed hw).2.2.imp_right fun hno id hid => hno id (hslots id hid)⟩ }

/-- A frame is taken that has no data for the player. -/
theorem PlayerDelivered.take (h : PlayerDelivered owner slots taken serving P p)
    {f : Marked Conn SocketPacket}
    (hbytes : ∀ id, slots id = some P → p.rxOpen = true → f.val.bytesFor id = []) :
    PlayerDelivered owner slots (taken ++ [f]) serving P p :=
  { h with
    received := fun id hid => (h.received id hid).trans (by rw [dataFor_append]; exact List.prefix_append _ _)
    slot := fun id hid ho => by
      rw [dataFor_append, dataFor_singleton, hbytes id hid ho, List.append_nil]; exact h.slot id hid ho
    disconnected := fun id hid hd => by
      obtain ⟨⟨g, hg, he⟩, hchunks⟩ := h.disconnected id hid hd
      exact ⟨⟨g, List.mem_append_left _ hg, he⟩, fun hne =>
        (hchunks hne).trans (dataBefore_append ⟨g, hg, he⟩).symm⟩ }

/-- An id of which no frame was taken is given to a player, this one or another. -/
theorem PlayerDelivered.give (h : PlayerDelivered owner slots taken serving P p) {id : ClientID} {tx : Player}
    (hnew : owner id = none) (hno : ∀ f ∈ taken, f.val.names id = false) (htx : ∀ id', owner id' ≠ some tx)
    (howned : ∀ id' Q, slots id' = some Q → owner id' = some Q) (hwait : P = tx → p.phase.id? = none)
    {slots' : ClientID → Option Player} (hslots : ∀ id', slots' id' = if id = id' then some tx else slots id') :
    PlayerDelivered (update owner id (some tx)) slots' taken serving P p := by
  by_cases hP : P = tx
  · subst hP
    obtain ⟨hrx, hdis⟩ := h.fresh htx
    exact
      { h with
        fresh := fun hne => absurd (Function.update_self id (some P) owner) (hne id)
        received := fun id' _ => by rw [hrx]; exact List.nil_prefix
        slot := fun id' hid' _ => by
          rw [hslots] at hid'
          split at hid'
          · next he => rw [hrx, ← he, dataFor_eq_nil hno]; rfl
          · exact absurd (howned id' P hid') (htx id')
        disconnected := fun id' _ hd => by rw [hdis] at hd; cases hd
        closed := fun hw => by
          have hsome := (h.closed hw).2.1
          rw [hwait rfl] at hsome
          cases hsome }
  · have howner : ∀ id', update owner id (some tx) id' = some P ↔ owner id' = some P := by
      intro id'
      rw [Function.update_apply]
      split
      · next he => rw [he, hnew]; simpa using Ne.symm hP
      · rfl
    have hslot : ∀ id', slots' id' = some P → slots id' = some P := by
      intro id' hid'
      rw [hslots] at hid'
      split at hid'
      · exact absurd (Option.some.inj hid').symm hP
      · exact hid'
    exact
      { h.clear hslot with
        fresh := fun hne => h.fresh fun id' hid' => hne id' ((howner id').2 hid')
        received := fun id' hid' => h.received id' ((howner id').1 hid')
        disconnected := fun id' hid' => h.disconnected id' ((howner id').1 hid') }

/-- No frame of an id that was not given yet has come back. -/
theorem not_answered (hanswered : Answered s) (harrived : Arrived s) (hsent : Sent s) {id : ClientID}
    (hnew : s.owner id = none) : ∀ f ∈ s.up.taken, f.val.names id = false := by
  intro f hf
  rw [Bool.eq_false_iff]
  intro he
  obtain ⟨c, hc, rfl⟩ := hanswered.frames f (List.mem_append_left _ (List.mem_append_left _ hf)) id he
  obtain ⟨g, hg, hjoin⟩ := (harrived.conn c hc).join
  exact hsent.frames g (mem_made_of_history (List.mem_append_left _ hg)) _
    (by rw [hjoin]; exact decide_eq_true rfl) hnew

theorem Delivered.endWriter (h : Delivered s) : Delivered s.endWriter := { h with }

/-- Slots are emptied. -/
theorem Delivered.removeById (h : Delivered s) (id : ClientID) :
    Delivered { s with distributor := (s.distributor.removeById id).2 } where
  player P := (h.player P).clear fun _ => getById_removeById_eq_some
  slot id' P hid := h.slot id' P (getById_removeById_eq_some hid)
  reader := h.reader

theorem Delivered.handleMessage (h : Delivered s) (hassigned : Assigned s)
    (hno : ∀ id, s.owner id = none → ∀ f ∈ s.up.taken, f.val.names id = false)
    {m : Marked Player (ClientToProxy Player Player)} (hm : s.queue.head? = some m)
    (hnew : ∀ id ∈ s.givenId (.handleWriter m), s.owner id = none) :
    Delivered ({ s with queue := s.queue.tail }.handleMessage m) := by
  apply handleMessage_cases (motive := Delivered) { s with queue := s.queue.tail } m
  case full => intros; exact { h.endWriter with }
  case joined =>
    intro P tx id d startData hv hins hphase
    obtain ⟨rfl, hawait, -⟩ := hassigned.joining.awaiting hm hv
    have hid := hnew id (givenId_eq_some hv hins)
    have hslots := (Distributor.insert_eq_ok hins).2.2
    have hgive : ∀ Q, PlayerDelivered (update s.owner id (some P)) d.getById s.up.taken s.serving Q
        (s.players Q) := fun Q =>
      (h.player Q).give hid (hno id hid) ((hassigned.player P).of_awaiting hawait) hassigned.slot
        (fun he => by subst he; rw [show (s.players Q).phase = _ from hphase]; rfl) hslots
    refine { player := fun Q => ?_, slot := fun id' Q hg f hf => ?_, reader := h.reader }
    · refine forall_players (R := fun Q p => PlayerDelivered (update s.owner id (some P)) d.getById
        s.up.taken s.serving Q p) hgive ?_ Q
      exact (hgive P).phase _ (fun hs => by rw [show (s.players P).phase = _ from hphase] at hs; cases hs) _ _
    · rw [hslots] at hg
      split at hg
      · next he =>
        rw [← he]
        intro hf'
        have hn := hno id hid f hf
        rw [hf'] at hn
        exact of_decide_eq_false hn rfl
      · exact h.slot id' Q hg f hf
  case gone =>
    intro P tx id d hv hins hphase
    obtain ⟨startData, hp⟩ := hassigned.joining.awaitId hm hv
    exact absurd hp (hphase startData)
  case packet => intros; exact { h with }
  case ping => intros; exact { h with }
  case removed => intro id _ _; exact { h.removeById id with }
  case unknown => intro id _ _; exact { h.removeById id with }

/-- The client says that the backend is gone. -/
theorem PlayerDelivered.disconnect (h : PlayerDelivered owner slots taken true P p) {id : ClientID}
    (hslot : slots id = some P) (howned : owner id = some P)
    (hinj : ∀ id', owner id' = some P → id' = id) (hno : ∀ g ∈ taken, g.val ≠ .proxyDisconnect id)
    {f : Marked Conn SocketPacket} (hf : f.val = .proxyDisconnect id) {slots' : ClientID → Option Player}
    (hslots : ∀ id', slots' id' = some P → slots id' = some P) :
    PlayerDelivered owner slots' (taken ++ [f]) true P { p with disconnected := true } := by
  have hbytes : ∀ id', f.val.bytesFor id' = [] := fun id' => by rw [hf]; rfl
  refine
    { (h.clear hslots).take (f := f) (fun id' _ _ => hbytes id') with
      fresh := fun hne => absurd howned (hne id)
      disconnected := fun id' hid' _ => ?_ }
  obtain rfl := hinj id' hid'
  refine ⟨⟨f, List.mem_append_right _ (List.mem_singleton_self f), hf⟩, fun hne => ?_⟩
  rw [dataBefore_concat hno hf]
  rcases p.open_or with ho | hw | hw
  · exact h.slot id' hslot ho
  · rcases (h.closed hw).2.2 with hs | hs
    · cases hs
    · exact absurd hslot (hs id')
  · exact absurd hw hne

/-- The player is sent the data that was taken for it. -/
theorem PlayerDelivered.send (h : PlayerDelivered owner slots taken true P p) {id : ClientID}
    (hslot : slots id = some P) (howned : owner id = some P)
    (hinj : ∀ id', owner id' = some P → id' = id) (hslots : ∀ id', slots id' = some P → owner id' = some P)
    (hno : ∀ g ∈ taken, g.val ≠ .proxyDisconnect id) {f : Marked Conn SocketPacket}
    {data : Marked Conn (List UInt8)} (hf : f.val.bytesFor id = data.val) :
    PlayerDelivered owner slots (taken ++ [f]) true P (p.send data) := by
  rw [PlayerState.send]
  split
  · next ho =>
    have hchunks : chunks (p.rx.send data).history = dataFor id (taken ++ [f]) := by
      rw [Channel.history_send, chunks_append, chunks_singleton, h.slot id hslot ho, dataFor_append,
        dataFor_singleton, hf]
    exact
      { h with
        fresh := fun hne => absurd howned (hne id)
        received := fun id' hid' => by obtain rfl := hinj id' hid'; rw [hchunks]
        slot := fun id' hid' _ => by obtain rfl := hinj id' (hslots id' hid'); exact hchunks
        disconnected := fun id' hid' hd => by
          obtain rfl := hinj id' hid'
          obtain ⟨⟨g, hg, he⟩, -⟩ := h.disconnected id' hid' hd
          exact absurd he (hno g hg)
        closed := fun hw => by simp [PlayerState.rxOpen, show p.writer = .closed from hw] at ho }
  · next ho => exact h.take fun _ _ ho' => absurd ho' ho

theorem Delivered.handleReader (h : Delivered s) (hassigned : Assigned s) (hreader : s.reader = true)
    {f : Marked Conn SocketPacket} (htaken : (s.up.pop f).taken = s.up.taken ++ [f]) :
    Delivered ({ s with up := s.up.pop f }.handleFrame f) := by
  have hserving : s.serving = true := by
    cases hs : s.serving with
    | true => rfl
    | false => rw [h.reader hs] at hreader; cases hreader
  have hplayer := h.player
  rw [hserving] at hplayer
  have hinj : ∀ {id P}, s.distributor.getById id = some P → ∀ id', s.owner id' = some P → id' = id :=
    fun hg id' hid' => hassigned.inj id' _ _ hid' (hassigned.slot _ _ hg)
  -- a frame without data for a slot, and no disconnect of one
  have htake : (∀ id P, s.distributor.getById id = some P → f.val.bytesFor id = []) →
      (∀ id P, s.distributor.getById id = some P → f.val ≠ .proxyDisconnect id) →
      Delivered { s with up := s.up.pop f } := by
    intro hbytes hdis
    refine { player := fun P => ?_, slot := fun id P hg => ?_, reader := h.reader }
    · show PlayerDelivered s.owner s.distributor.getById (s.up.pop f).taken s.serving P (s.players P)
      rw [htaken]; exact (h.player P).take fun id hid _ => hbytes id P hid
    · show ∀ g ∈ (s.up.pop f).taken, _
      rw [htaken]; exact forall_mem_append_singleton (h.slot id P hg) (hdis id P hg)
  apply handleFrame_cases (motive := Delivered) { s with up := s.up.pop f } f
  case disconnect =>
    intro id P hv hg
    refine { player := ?_, slot := fun id' Q hg' => ?_, reader := h.reader }
    · show ∀ Q, PlayerDelivered s.owner (s.distributor.removeById id).2.getById (s.up.pop f).taken s.serving Q
        (update s.players P _ Q)
      rw [htaken, hserving]
      refine forall_players (R := fun Q p => PlayerDelivered s.owner
        (s.distributor.removeById id).2.getById (s.up.taken ++ [f]) true Q p) (fun Q => ?_) ?_
      · exact ((hplayer Q).clear fun _ => getById_removeById_eq_some).take fun _ _ _ => by rw [hv]; rfl
      · exact (hplayer P).disconnect hg (hassigned.slot id P hg) (hinj hg) (h.slot id P hg) hv
          fun _ => getById_removeById_eq_some
    · show ∀ g ∈ (s.up.pop f).taken, _
      rw [htaken]
      refine forall_mem_append_singleton (h.slot id' Q (getById_removeById_eq_some hg')) ?_
      have hg'' : (s.distributor.removeById id).2.getById id' = some Q := hg'
      rw [Distributor.getById_removeById] at hg''
      split at hg''
      · cases hg''
      · next hne => rw [hv]; simpa using hne
  case disconnectNone =>
    intro id hv hg
    have hs : Delivered { s with up := s.up.pop f } :=
      htake (fun _ _ _ => by rw [hv]; rfl) fun id' P hg' he => by
        rw [hv] at he
        cases he
        rw [show s.distributor.getById id = none from hg] at hg'
        cases hg'
    exact hs.removeById id
  case data =>
    intro id pkg P hv hg
    have hbytes : ∀ id', f.val.bytesFor id' = if id = id' then pkg.bytes else [] := fun id' => by rw [hv]; rfl
    refine { player := ?_, slot := fun id' Q hg' => ?_, reader := h.reader }
    · show ∀ Q, PlayerDelivered s.owner s.distributor.getById (s.up.pop f).taken s.serving Q
        (update s.players P ((s.players P).send ⟨pkg.bytes, f.of⟩) Q)
      rw [htaken, hserving]
      intro Q
      rw [Function.update_apply]
      split
      · next he =>
        subst he
        exact (hplayer Q).send hg (hassigned.slot id Q hg) (hinj hg) (fun id' => hassigned.slot id' Q)
          (h.slot id Q hg) ((hbytes id).trans (if_pos rfl))
      · next hne =>
        refine (hplayer Q).take fun id' hg' _ => ?_
        rw [hbytes, if_neg]
        rintro rfl
        exact hne (Option.some.inj (hg'.symm.trans hg))
    · show ∀ g ∈ (s.up.pop f).taken, _
      rw [htaken]
      exact forall_mem_append_singleton (h.slot id' Q hg') (by simp [hv])
  case dataNone =>
    intro id pkg hv hg
    refine htake (fun id' P hg' => ?_) fun id' P _ => by simp [hv]
    rw [hv]
    refine if_neg ?_
    rintro rfl
    rw [show s.distributor.getById id = none from hg] at hg'
    cases hg'
  case ping =>
    intro ping hv
    exact { htake (fun _ _ _ => by rw [hv]; rfl) (fun _ _ _ => by simp [hv]) with }
  case other =>
    intro hdata hdis
    refine htake (fun id _ _ => ?_) fun id _ _ => hdis id
    cases hv : f.val with
    | proxyData packet => exact absurd hv (hdata packet)
    | _ => rfl

theorem Delivered.readerFrame (h : Delivered s) (f : Marked Player SocketPacket) :
    Delivered (s.readerFrame f) := by
  apply readerFrame_cases (motive := Delivered) s f <;> intros <;> exact { h with }

theorem Delivered.backendMessage (h : Delivered s) (m : Marked Conn BackendToProxy) :
    Delivered (s.backendMessage m) := by
  apply backendMessage_cases (motive := Delivered) s m <;> intros <;> exact { h with }

theorem mem_cells_of_getById {d : Distributor Player} {id : ClientID} {P : Player}
    (h : d.getById id = some P) : some P ∈ d.clientsId.cells := by
  rw [Distributor.getById, Slots.get, Option.join_eq_some_iff] at h
  exact List.mem_of_getElem? h

theorem Delivered.step {a : Action} (h : Delivered s) (hassigned : Assigned s) (hanswered : Answered s)
    (harrived : Arrived s) (hsent : Sent s) (hclean : Clean s)
    (hnew : ∀ id ∈ s.givenId a, s.owner id = none) (hfails : a.socketFails = false)
    (hs : s.step a = some s') : Delivered s' := by
  obtain ⟨ha, rfl⟩ := step_eq_some hs
  have hplayer : ∀ {P : Player} {p : PlayerState},
      PlayerDelivered s.owner s.distributor.getById s.up.taken s.serving P p →
      ∀ Q, PlayerDelivered s.owner s.distributor.getById s.up.taken s.serving Q (update s.players P p Q) :=
    fun hp => forall_players (R := fun Q p =>
      PlayerDelivered s.owner s.distributor.getById s.up.taken s.serving Q p) h.player hp
  cases a with
  | connect P startData =>
    have hp := (of_decide_eq_true ha).1
    exact { h with
      player := hplayer ((h.player P).phase (.awaitId startData)
        (fun hsome => by rw [hp] at hsome; cases hsome) _ _) }
  | joinFails P =>
    exact { h with
      player := hplayer ((h.player P).go rfl rfl (fun he => by cases he) (fun he => absurd rfl he)
        (h.player P).written (fun he => by simp at he) (fun he => by cases he)) }
  | sendStart P id startData =>
    exact { h with
      player := hplayer ((h.player P).phase (.handling id) (fun _ => rfl) _ _) }
  | clientRead P id chunk =>
    exact { h with
      player := hplayer ((h.player P).phase (s.players P).phase (fun hsome => hsome) _ _) }
  | clientReadEnds P =>
    exact { h with
      player := hplayer ((h.player P).phase (s.players P).phase (fun hsome => hsome) _ _) }
  | clientFinish P id =>
    exact { h with
      player := hplayer ((h.player P).phase (.finished id) (fun _ => rfl) _ _) }
  | clientWriterTake P data =>
    obtain ⟨-, hw, hhead⟩ := of_decide_eq_true ha
    have hp := h.player P
    refine { h with
      player := hplayer (hp.go (Channel.history_pop hhead) rfl (fun _ => ?_) (fun _ => ?_) ?_ (by simp)
        (fun he => by cases he)) }
    · rcases hw with hw | hw <;> simp [PlayerState.rxOpen, hw]
    · rcases hw with hw | hw <;> simp [hw]
    · show (s.players P).bytesWritten ++ ((s.players P).bufWriter ++ data.val) =
        chunks ((s.players P).rx.taken ++ [data])
      rw [← List.append_assoc, hp.written, chunks_append, chunks_singleton]
  | clientWriterDrained P =>
    have hw := (of_decide_eq_true ha).1
    exact { h with
      player := hplayer ((h.player P).go rfl rfl (fun _ => by simp [PlayerState.rxOpen, hw])
        (fun _ => by simp [hw]) (h.player P).written (by simp) (fun he => by cases he)) }
  | clientWriterWrite P n =>
    have ho : (s.players P).rxOpen = true := of_decide_eq_true ha
    have hp := h.player P
    refine { h with
      player := hplayer (hp.go rfl rfl (fun he => he) (fun he => he) ?_ (fun hw => ?_) hp.closed) }
    · show (s.players P).bytesWritten ++ (s.players P).bufWriter.take n ++ (s.players P).bufWriter.drop n = _
      rw [List.append_assoc, List.take_append_drop]; exact hp.written
    · show (s.players P).bufWriter.drop n = []
      rw [hp.flushed hw, List.drop_nil]
  | clientWriterFlushed P =>
    obtain ⟨hw, hbuf⟩ := of_decide_eq_true ha
    exact { h with
      player := hplayer ((h.player P).go rfl rfl (fun _ => by simp [PlayerState.rxOpen, hw])
        (fun _ => by simp [hw]) (h.player P).written (fun _ => hbuf) (fun he => by cases he)) }
  | clientWriterClosed P =>
    obtain ⟨hsome, hw, hpending, hgone⟩ := of_decide_eq_true ha
    have hp := h.player P
    refine { h with
      player := hplayer (hp.go rfl rfl (fun he => by cases he) (fun _ => by simp [hw]) hp.written
        (fun _ => hp.flushed (.inl hw)) fun _ => ⟨hpending, hsome, ?_⟩) }
    cases hserving : s.serving with
    | false => exact .inl rfl
    | true => exact .inr fun id hg => hgone ⟨hserving, .inl (mem_cells_of_getById hg)⟩
  | clientWriterAborted P =>
    exact { h with
      player := hplayer ((h.player P).go rfl rfl (fun he => by cases he) (fun he => absurd rfl he)
        (h.player P).written (fun he => by simp at he) (fun he => by cases he)) }
  | handleWriter m =>
    exact h.handleMessage hassigned (fun id hid => not_answered hanswered harrived hsent hid)
      (of_decide_eq_true ha).2 hnew
  | handleReader f =>
    obtain ⟨hreader, hg⟩ := of_decide_eq_true ha
    exact h.handleReader hassigned hreader (Link.pop_of_gives hclean.up hg).1
  | handleReaderEnds => exact { h with reader := fun _ => rfl }
  | handleEnds =>
    have hreader := (of_decide_eq_true ha).1
    exact
      { player := fun P =>
          { h.player P with
            closed := fun hw => ⟨((h.player P).closed hw).1, ((h.player P).closed hw).2.1, .inl rfl⟩ }
        slot := h.slot
        reader := fun _ => hreader }
  | readerHandler f =>
    have hs : Delivered { s with down := s.down.pop f } := { h with }
    exact hs.readerFrame f
  | writerHandler m =>
    have hs : Delivered { s with toProxy := s.toProxy.tail } := { h with }
    exact hs.backendMessage m
  | clientWriterFlushFails | clientWriterFails | handleWriterFails | writerHandlerFails
  | backendConnectFails | backendWriteFails => cases hfails
  | handleWriterFeed | handleWriterEmpty | handleWriterFlushed | handleWriterAborted | downWrite | upWrite
  | readerDisconnect | readerDisconnectClosed | readerPing | readerEnds | writerHandlerFeed
  | writerHandlerEmpty | writerHandlerFlushed | writerHandlerAborted | backendConnected | backendRecv
  | backendWrite | backendWritten | backendClosed | backendRead | backendReadEnds | backendDropped =>
    exact { h with }

end Session
end CraftIP
