import CraftIP.Session.Requests
import CraftIP.Session.Rest

/-!
# Both ends agree when the session rests

The server's slots and the client's connections are two tables over the same ids, kept in step by joins and
disconnects that cross on the tunnel. When a session rests, every open connection is of the player whose
slot has its id (`rest_agrees`), and where a `ProxyJoin` only comes when nothing is left that closes an
earlier connection with the id, the two tables are the same (`rest_same_tables`).
-/

namespace CraftIP
open Function (update)

namespace Session

/-! ### Who has an id by the frames -/

/-- The player of the last join of the id, until a disconnect. -/
def tenure (id : ClientID) : Monitor (Option Player) (Marked Player SocketPacket) where
  next P f :=
    if f.val = .proxyJoin id then f.of
    else if f.val = .proxyDisconnect id then none
    else P
  ok _ _ := True

/-- Who has the id by the frames that `handle_writer` has made. -/
def tenant (s : Session) (id : ClientID) : Option Player := (tenure id).final none s.made

/-- Who has the id by the frames that the client has taken. -/
def guest (s : Session) (id : ClientID) : Option Player := (tenure id).final none s.down.taken

variable {s s' : Session} {P : Player} {id : ClientID}

theorem tenure_next_of_ne {f : Marked Player SocketPacket} (hjoin : f.val ≠ .proxyJoin id)
    (hdis : f.val ≠ .proxyDisconnect id) (x : Option Player) : (tenure id).next x f = x := by
  show (if _ then _ else _) = _
  rw [if_neg hjoin, if_neg hdis]

/-- Who has an id by the frames has a slot's place: a player in a slot has it by the frames, too, and one that
has it by the frames has sent its final message or is going to. -/
structure Tenanted (s : Session) : Prop where
  marked : ∀ f ∈ s.made, ∀ id, f.val = .proxyJoin id → f.of ≠ none
  slot : s.writer ≠ .ended → ∀ id P, s.distributor.getById id = some P → s.tenant id = some P
  waits : s.writer ≠ .ended → ∀ id P, s.tenant id = some P → id.toNat < MAXIMUM_CLIENTS ∧
    ((s.players P).phase.removes? = some id ∨ ⟨.removeMinecraftClient id, some P⟩ ∈ s.queue)

theorem tenanted_init : Tenanted init where
  marked f hf := by simp [init, made, HandleWriter.held, Link.history, Link.inFlight, Link.empty] at hf
  slot _ id P h := by simp [init] at h
  waits _ id P h := by cases h

theorem Tenanted.ended (h : Tenanted s) (hw : s'.writer = .ended) (hmade : ∀ f ∈ s'.made, f ∈ s.made) :
    Tenanted s' where
  marked f hf := h.marked f (hmade f hf)
  slot hne := absurd hw hne
  waits hne := absurd hw hne

/-- The frames are the same, wherever they are. -/
theorem Tenanted.relink (h : Tenanted s) (down : Link (Marked Player SocketPacket)) (w : HandleWriter)
    (hmade : down.history ++ HandleWriter.held w = s.made) (hw : w ≠ .ended → s.writer ≠ .ended) :
    Tenanted { s with down, writer := w } where
  marked f hf := h.marked f (hmade ▸ hf)
  slot hne id P hslot := by
    rw [tenant, made, hmade]
    exact h.slot (hw hne) id P hslot
  waits hne id P ht := by
    rw [tenant, made, hmade] at ht
    exact h.waits (hw hne) id P ht

/-- A player goes on, and may add to the queue. -/
theorem Tenanted.update_player (h : Tenanted s) {p : PlayerState}
    {q : List (Marked Player (ClientToProxy Player Player))} (hq : ∀ m ∈ s.queue, m ∈ q)
    (hwaits : s.writer ≠ .ended → ∀ id, (s.players P).phase.removes? = some id →
      p.phase.removes? = some id ∨ ⟨.removeMinecraftClient id, some P⟩ ∈ q) :
    Tenanted { s with players := update s.players P p, queue := q } where
  marked := h.marked
  slot := h.slot
  waits hw id Q ht := by
    obtain ⟨hlt, hQ⟩ := h.waits hw id Q ht
    refine ⟨hlt, ?_⟩
    show (update s.players P p Q).phase.removes? = some id ∨ _ ∈ q
    rw [Function.update_apply]
    split
    · next he =>
      subst he
      exact hQ.elim (hwaits hw id) fun hm => .inr (hq _ hm)
    · exact hQ.imp_right (hq _)

theorem Tenanted.keep_player (h : Tenanted s) {p : PlayerState} (hp : p.phase = (s.players P).phase) :
    Tenanted { s with players := update s.players P p } :=
  h.update_player (q := s.queue) (fun _ hm => hm) (fun _ _ he => .inl (hp ▸ he))

theorem Tenanted.waits_tail (h : Tenanted s) {m : Marked Player (ClientToProxy Player Player)}
    (hm : s.queue.head? = some m) (hw : s.writer ≠ .ended) (ht : s.tenant id = some P)
    (hv : m.val ≠ .removeMinecraftClient id) : id.toNat < MAXIMUM_CLIENTS ∧
      ((s.players P).phase.removes? = some id ∨ ⟨.removeMinecraftClient id, some P⟩ ∈ s.queue.tail) := by
  obtain ⟨hlt, hP⟩ := h.waits hw id P ht
  exact ⟨hlt, hP.imp_right fun hq => mem_tail_of_ne hm hq fun he => hv (he ▸ rfl)⟩

/-- `handle_writer` has taken up a frame. -/
theorem made_feed (hw : s.writer = .recv ∨ s.writer = .tryRecv) (t : Session) {f : Marked Player SocketPacket}
    (hdown : t.down = s.down) (hfeed : t.writer = .feed f) : t.made = s.made ++ [f] := by
  rw [made_of_recv hw, made, hdown, hfeed]; rfl

theorem tenant_feed (hw : s.writer = .recv ∨ s.writer = .tryRecv) (t : Session) {f : Marked Player SocketPacket}
    (hdown : t.down = s.down) (hfeed : t.writer = .feed f) (id : ClientID) :
    t.tenant id = (tenure id).next (s.tenant id) f := by
  rw [tenant, made_feed hw t hdown hfeed, Monitor.final_append]; rfl

theorem Tenanted.handleMessage (h : Tenanted s) (hj : Joining s) (hw : s.writer = .recv ∨ s.writer = .tryRecv)
    {m : Marked Player (ClientToProxy Player Player)} (hm : s.queue.head? = some m) :
    Tenanted ({ s with queue := s.queue.tail }.handleMessage m) := by
  have hne := writer_ne_ended hw
  have hended : ∀ {t : Session}, t.down = s.down → t.writer = .ended → Tenanted t := by
    intro t hdown ht
    refine h.ended ht fun f hf => ?_
    rw [made_of_recv hw]
    rw [made, ht, hdown] at hf
    exact (List.append_nil s.down.history) ▸ hf
  -- a frame that neither starts nor ends a connection
  have hplain : ∀ {f : Marked Player SocketPacket}, (∀ id, f.val ≠ .proxyJoin id) →
      (∀ id, f.val ≠ .proxyDisconnect id) → (∀ id, m.val ≠ .removeMinecraftClient id) →
      Tenanted { s with queue := s.queue.tail, writer := .feed f } := by
    intro f hjoin hdis hv
    set t : Session := { s with queue := s.queue.tail, writer := .feed f }
    have ht : ∀ id, t.tenant id = s.tenant id := fun id =>
      (tenant_feed hw t rfl rfl id).trans (tenure_next_of_ne (hjoin id) (hdis id) _)
    refine ⟨?_, fun _ id P hslot => (ht id).trans (h.slot hne id P hslot), fun _ id P hP => ?_⟩
    · rw [made_feed hw t rfl rfl]
      exact forall_mem_append_singleton h.marked fun id he => absurd he (hjoin id)
    · exact h.waits_tail hm hne ((ht id).symm.trans hP) (hv id)
  apply handleMessage_cases (motive := Tenanted) { s with queue := s.queue.tail } m
  case full => intros; exact hended rfl rfl
  case gone => intros; exact hended rfl rfl
  case packet => intro id pkg hv; exact hplain (by simp) (by simp) (by simp [hv])
  case ping => intro p hv; exact hplain (by simp) (by simp) (by simp [hv])
  case removed =>
    intro id hv _
    set t : Session := { s with
      queue := s.queue.tail
      distributor := (s.distributor.removeById id).2
      writer := .feed ⟨.proxyDisconnect id, m.of⟩ }
    have ht : ∀ id', t.tenant id' = if id' = id then none else s.tenant id' := by
      intro id'
      rw [tenant_feed hw t rfl rfl]
      show (if SocketPacket.proxyDisconnect id = .proxyJoin id' then m.of
        else if SocketPacket.proxyDisconnect id = .proxyDisconnect id' then none else _) = _
      simp only [reduceCtorEq, if_false, SocketPacket.proxyDisconnect.injEq, eq_comm]
    refine ⟨?_, fun _ id' P hslot => ?_, fun _ id' P hP => ?_⟩
    · rw [made_feed hw t rfl rfl]
      exact forall_mem_append_singleton h.marked fun id' he => by cases he
    · change (s.distributor.removeById id).2.getById id' = some P at hslot
      have hold := getById_removeById_eq_some hslot
      have hid : id' ≠ id := by
        rintro rfl
        rw [Distributor.getById_removeById, if_pos rfl] at hslot
        cases hslot
      rw [ht, if_neg hid]
      exact h.slot hne id' P hold
    · rw [ht] at hP
      split at hP
      · cases hP
      · next hid =>
        refine h.waits_tail hm hne hP fun he => hid ?_
        exact ClientToProxy.removeMinecraftClient.inj (he.symm.trans hv)
  case unknown =>
    intro id hv hlt
    set t : Session := { s with
      queue := s.queue.tail
      distributor := (s.distributor.removeById id).2
      writer := .tryRecv }
    have hmade : t.made = s.made := by rw [made_of_recv hw]; exact List.append_nil _
    refine ⟨by rw [hmade]; exact h.marked, fun _ id' P hslot => ?_, fun _ id' P hP => ?_⟩
    · rw [tenant, hmade]
      exact h.slot hne id' P (getById_removeById_eq_some hslot)
    · rw [tenant, hmade] at hP
      refine h.waits_tail hm hne hP fun he => hlt ?_
      obtain rfl := ClientToProxy.removeMinecraftClient.inj (he.symm.trans hv)
      exact (h.waits hne _ P hP).1
  case joined =>
    intro P tx id d startData hv hins hphase
    obtain rfl := hj.add m (List.mem_of_mem_head? hm) P tx hv
    obtain ⟨hlt, -, hget⟩ := Distributor.insert_eq_ok hins
    set t : Session := { s with
      queue := s.queue.tail
      distributor := d
      players := update s.players P { s.players P with phase := .hasId id startData }
      owner := update s.owner id (some P)
      writer := .feed ⟨.proxyJoin id, some P⟩ }
    have ht : ∀ id', t.tenant id' = if id = id' then some P else s.tenant id' := by
      intro id'
      rw [tenant_feed hw t rfl rfl]
      show (if SocketPacket.proxyJoin id = .proxyJoin id' then some P
        else if SocketPacket.proxyJoin id = .proxyDisconnect id' then none else _) = _
      simp only [reduceCtorEq, if_false, SocketPacket.proxyJoin.injEq]
    refine ⟨?_, fun _ id' Q hslot => ?_, fun _ id' Q hQ => ?_⟩
    · rw [made_feed hw t rfl rfl]
      exact forall_mem_append_singleton h.marked fun id' _ => by simp
    · change d.getById id' = some Q at hslot
      rw [hget] at hslot
      rw [ht]
      split
      · next he => rwa [if_pos he] at hslot
      · next he => rw [if_neg he] at hslot; exact h.slot hne id' Q hslot
    · rw [ht] at hQ
      show _ ∧ ((update s.players P _ Q).phase.removes? = some id' ∨ _ ∈ s.queue.tail)
      split at hQ
      · next he =>
        cases hQ
        subst he
        rw [Function.update_self]
        exact ⟨hlt, .inl rfl⟩
      · obtain ⟨hlt', hold⟩ := h.waits_tail hm hne hQ (by simp [hv])
        refine ⟨hlt', ?_⟩
        rw [Function.update_apply]
        split
        · next he =>
          subst he
          refine hold.imp_left fun he => ?_
          rw [hphase] at he
          cases he
        · exact hold

theorem Tenanted.step {a : Action} (h : Tenanted s) (hj : Joining s) (hs : s.step a = some s') :
    Tenanted s' := by
  obtain ⟨ha, rfl⟩ := step_eq_some hs
  cases a with
  | connect P startData =>
    refine h.update_player (fun _ hm => List.mem_append_left _ hm) fun _ id he => ?_
    rw [(of_decide_eq_true ha).1] at he
    cases he
  | joinFails P =>
    exact h.update_player (q := s.queue) (fun _ hm => hm) fun hne => absurd (of_decide_eq_true ha).2 hne
  | sendStart P id startData =>
    refine h.update_player (fun _ hm => List.mem_append_left _ hm) fun _ id' he => .inl ?_
    rwa [(of_decide_eq_true ha).1] at he
  | clientRead P id chunk => exact h.update_player (subset_offer _) (fun _ _ he => .inl he)
  | clientFinish P id =>
    refine h.update_player (subset_offer _) fun hne id' he => .inr ?_
    rw [(of_decide_eq_true ha).1] at he
    cases he
    exact mem_offer_self hne _
  | clientReadEnds P | clientWriterTake P _ | clientWriterDrained P | clientWriterWrite P _
  | clientWriterFlushed P | clientWriterFlushFails P | clientWriterClosed P | clientWriterFails P
  | clientWriterAborted P => exact h.keep_player rfl
  | handleWriter m =>
    obtain ⟨hw, hm⟩ := of_decide_eq_true ha
    exact h.handleMessage hj hw hm
  | handleWriterFeed f =>
    have hw := of_decide_eq_true ha
    refine h.relink (s.down.feed (fits f.val) f) .tryRecv ?_ (fun _ => by rw [hw]; simp)
    rw [Link.history_feed, made, hw]; exact List.append_nil _
  | handleWriterEmpty =>
    have hw := (of_decide_eq_true ha).1
    exact h.relink s.down .flush (by rw [made, hw]; rfl) (fun _ => by rw [hw]; simp)
  | handleWriterFlushed =>
    have hw := (of_decide_eq_true ha).1
    exact h.relink s.down .recv (by rw [made, hw]; rfl) (fun _ => by rw [hw]; simp)
  | handleWriterFails | handleWriterAborted =>
    exact h.ended rfl fun f hf => mem_made_of_history (made_endWriter ▸ hf)
  | downWrite n =>
    exact h.relink (s.down.write n) s.writer (by rw [Link.history_write]; rfl) (fun hw => hw)
  | handleReader f =>
    have hremove : ∀ id, Tenanted { s with distributor := (s.distributor.removeById id).2 } := fun id =>
      { h with slot := fun hne => removeById_subset (h.slot hne) }
    apply handleFrame_cases (motive := Tenanted) { s with up := s.up.pop f } f
    case disconnect =>
      intro id P _ _
      have hs := (hremove id).keep_player (P := P) (p := { s.players P with disconnected := true }) rfl
      exact { hs with }
    case disconnectNone => intro id _ _; exact { hremove id with }
    case data =>
      intro id pkg P _ _
      have hs := h.keep_player (P := P) (p := (s.players P).send ⟨pkg.bytes, f.of⟩)
        (by rw [PlayerState.send]; split <;> rfl)
      exact { hs with }
    case dataNone => intros; exact { h with }
    case ping =>
      intros
      refine { h with waits := fun hne id P ht => ?_ }
      obtain ⟨hlt, hP⟩ := h.waits hne id P ht
      exact ⟨hlt, hP.imp_right (subset_offer _ _)⟩
    case other => intros; exact { h with }
  | readerHandler f =>
    have hs : Tenanted { s with down := s.down.pop f } :=
      h.relink (s.down.pop f) s.writer (by rw [Link.history_pop]; rfl) (fun hw => hw)
    apply readerFrame_cases (motive := Tenanted) { s with down := s.down.pop f } f <;> intros <;> exact { hs with }
  | writerHandler m =>
    apply backendMessage_cases (motive := Tenanted) { s with toProxy := s.toProxy.tail } m <;>
      intros <;> exact { h with }
  | _ => exact { h with }

/-! ### What is in the client's slots -/

/-- A connection in a slot was opened for the player that has the slot's id by the frames taken. -/
structure Guested (s : Session) : Prop where
  slot : ∀ id c, s.client.connection id = some c → c < s.opened ∧ (s.conns c).clientId = id ∧
    ∃ P, (s.conns c).openedFor = some P ∧ s.guest id = some P

/-- The connection's removal is on its way to `reader_handler`. -/
def Removes (s : Session) (id : ClientID) : Prop :=
  (∃ m ∈ s.toProxy, m.val = .removeMinecraftClient id) ∨ id ∈ s.disconnectRx

/-- While `writer_handler` runs, a connection in a slot goes on, or its removal is on its way. -/
def Listed (s : Session) : Prop :=
  s.clientWriter ≠ .ended → ∀ id c, s.client.connection id = some c →
    (s.conns c).live = true ∨ s.Removes id

theorem guested_init : Guested init := ⟨fun id c h => by simp [init] at h⟩

theorem listed_init : Listed init := fun _ id c h => by simp [init] at h

theorem exists_id {i : Nat} (h : i < MAXIMUM_CLIENTS) : ∃ id : ClientID, id.toNat = i :=
  ⟨.ofNat i, by
    rw [MAXIMUM_CLIENTS] at h
    rw [UInt64.toNat_ofNat', Nat.mod_eq_of_lt (by omega)]⟩

theorem exists_slot {d : Distributor Player} (h : some P ∈ d.clientsId.cells) : ∃ id, d.getById id = some P := by
  obtain ⟨i, hi⟩ := Slots.mem_cells_iff.1 h
  obtain ⟨id, rfl⟩ := exists_id (Slots.lt_of_get hi)
  exact ⟨id, hi⟩

theorem exists_connection {c : Conn} (h : s.ConnAlive c) : ∃ id, s.client.connection id = some c := by
  obtain ⟨i, hi⟩ := Slots.mem_cells_iff.1 h
  obtain ⟨id, rfl⟩ := exists_id (Slots.lt_of_get hi)
  exact ⟨id, hi⟩

theorem guest_pop {f : Marked Player SocketPacket} (hclean : s.down.garbled = false) (hg : s.down.Gives f)
    (id : ClientID) : guest { s with down := s.down.pop f } id = (tenure id).next (s.guest id) f := by
  rw [guest, (Link.pop_of_gives hclean hg).1, Monitor.final_append]; rfl

theorem Guested.mono (h : Guested s) (hguest : s'.down.taken = s.down.taken) (hopened : s'.opened = s.opened)
    (hslot : ∀ id c, s'.client.connection id = some c → s.client.connection id = some c)
    (hconns : ∀ c, (s'.conns c).clientId = (s.conns c).clientId ∧
      (s'.conns c).openedFor = (s.conns c).openedFor) : Guested s' where
  slot id c hc := by
    rw [hopened, (hconns c).1, (hconns c).2, guest, hguest]
    exact h.slot id c (hslot id c hc)

/-- A backend connection that keeps its id and its mark. -/
theorem Guested.update_conn (h : Guested s) {c : Conn} {x : ClientConnection}
    {q : List (Marked Conn BackendToProxy)} (hid : x.clientId = (s.conns c).clientId)
    (hfor : x.openedFor = (s.conns c).openedFor) :
    Guested { s with conns := update s.conns c x, toProxy := q } :=
  h.mono rfl rfl (fun _ _ hc => hc) (forall_conns (R := fun d y => y.clientId = (s.conns d).clientId ∧
    y.openedFor = (s.conns d).openedFor) (fun _ => ⟨rfl, rfl⟩) ⟨hid, hfor⟩)

theorem Guested.removeConnection (h : Guested s) (id : ClientID) :
    Guested { s with client := s.client.removeConnection id } :=
  h.mono rfl rfl (fun _ _ => connection_removeConnection_eq_some) (fun _ => ⟨rfl, rfl⟩)

/-- A frame is taken that neither starts nor ends a connection. -/
theorem Guested.pop (h : Guested s) {f : Marked Player SocketPacket} (hclean : s.down.garbled = false)
    (hg : s.down.Gives f) (hjoin : ∀ id, f.val ≠ .proxyJoin id) (hdis : ∀ id, f.val ≠ .proxyDisconnect id) :
    Guested { s with down := s.down.pop f } where
  slot id c hc := by
    rw [guest_pop hclean hg, tenure_next_of_ne (hjoin id) (hdis id)]
    exact h.slot id c hc

theorem Guested.readerHandler (h : Guested s) (ht : Tenanted s) {f : Marked Player SocketPacket}
    (hclean : s.down.garbled = false) (hg : s.down.Gives f) :
    Guested ({ s with down := s.down.pop f }.readerFrame f) := by
  -- the slot of the id is emptied, and a frame that ends no other connection was taken
  have hempty : ∀ {id : ClientID}, f.val = .proxyDisconnect id →
      Guested { s with down := s.down.pop f, client := s.client.removeConnection id } := by
    intro id hv
    refine ⟨fun id' c hc => ?_⟩
    change (s.client.removeConnection id).connection id' = some c at hc
    rw [Client.connection_removeConnection] at hc
    split at hc
    · cases hc
    · next hne =>
      show c < s.opened ∧ _ ∧ ∃ P, _ ∧ guest { s with down := s.down.pop f } id' = some P
      rw [guest_pop hclean hg, tenure_next_of_ne (by simp [hv]) (by rw [hv]; simpa using hne)]
      exact h.slot id' c hc
  apply readerFrame_cases (motive := Guested) { s with down := s.down.pop f } f
  case join =>
    intro id hv
    refine ⟨fun id' c hc => ?_⟩
    change (s.client.addConnection id s.opened).connection id' = some c at hc
    show c < s.opened + 1 ∧ (update s.conns s.opened (.new id f.of) c).clientId = id' ∧
      ∃ P, (update s.conns s.opened (.new id f.of) c).openedFor = some P ∧
        guest { s with down := s.down.pop f } id' = some P
    rw [guest_pop hclean hg]
    rw [Client.connection_addConnection] at hc
    split at hc
    · next he =>
      obtain ⟨rfl, -⟩ := he
      cases hc
      have hmem : f ∈ s.made := by
        rw [made, Link.history, (Link.pop_of_gives hclean hg).2.1]
        simp
      obtain ⟨P, hP⟩ := Option.ne_none_iff_exists'.1 (ht.marked f hmem _ hv)
      rw [Function.update_self]
      exact ⟨Nat.lt_succ_self _, rfl, P, hP, (if_pos hv).trans hP⟩
    · next he =>
      obtain ⟨hlt, hid, hfor⟩ := h.slot id' c hc
      have hne : f.val ≠ .proxyJoin id' := by
        rw [hv]
        intro he'
        cases he'
        exact he ⟨rfl, Client.lt_of_connection hc⟩
      rw [Function.update_of_ne (Nat.ne_of_lt hlt), tenure_next_of_ne hne (by simp [hv])]
      exact ⟨Nat.lt_succ_of_lt hlt, hid, hfor⟩
  case data =>
    intro id pkg c hv _ _
    exact (h.pop hclean hg (by simp [hv]) (by simp [hv])).update_conn (c := c) (q := s.toProxy)
      (x := { s.conns c with rx := (s.conns c).rx.send ⟨pkg.bytes, f.of⟩ }) rfl rfl
  case dataLost =>
    intro id _ _ hv _ _
    exact (h.pop hclean hg (by simp [hv]) (by simp [hv])).removeConnection id
  case dataNone => intro _ _ hv _; exact { h.pop hclean hg (by simp [hv]) (by simp [hv]) with }
  case disconnect =>
    intro id c hv _
    exact (hempty hv).update_conn (c := c) (q := s.toProxy) (x := { s.conns c with disconnected := true }) rfl rfl
  case disconnectNone => intro id hv _; exact hempty hv
  case pong => intro _ hv; exact h.pop hclean hg (by simp [hv]) (by simp [hv])
  case unexpected => intro hjoin _ hdis; exact { h.pop hclean hg hjoin hdis with }

theorem Guested.step {a : Action} (h : Guested s) (ht : Tenanted s) (hclean : s.down.garbled = false)
    (hs : s.step a = some s') : Guested s' := by
  obtain ⟨ha, rfl⟩ := step_eq_some hs
  cases a with
  | readerHandler f => exact h.readerHandler ht hclean (of_decide_eq_true ha).2
  | readerDisconnect id => exact { h.removeConnection id with }
  | handleWriter m =>
    apply handleMessage_cases (motive := Guested) { s with queue := s.queue.tail } m <;> intros <;> exact { h with }
  | handleReader f =>
    apply handleFrame_cases (motive := Guested) { s with up := s.up.pop f } f <;> intros <;> exact { h with }
  | writerHandler m =>
    apply backendMessage_cases (motive := Guested) { s with toProxy := s.toProxy.tail } m <;>
      intros <;> exact { h with }
  | downWrite n => exact h.mono rfl rfl (fun _ _ hc => hc) (fun _ => ⟨rfl, rfl⟩)
  | handleWriterFeed f => exact h.mono rfl rfl (fun _ _ hc => hc) (fun _ => ⟨rfl, rfl⟩)
  | backendConnected c | backendRecv c _ | backendWrite c _ _ | backendWritten c | backendClosed c
  | backendDropped c => exact h.update_conn (q := s.toProxy) rfl rfl
  | backendConnectFails c _ | backendWriteFails c _ | backendReadEnds c | backendRead c _ =>
    exact h.update_conn (by rfl) (by rfl)
  | _ => exact { h with }

theorem Listed.mono (h : Listed s) (hw : s'.clientWriter ≠ .ended → s.clientWriter ≠ .ended)
    (hslot : ∀ id c, s'.client.connection id = some c → s.client.connection id = some c)
    (hconns : ∀ c, (s.conns c).live = true → (s'.conns c).live = true)
    (hremoves : ∀ id c, s'.client.connection id = some c → s.Removes id → s'.Removes id) : Listed s' := by
  intro hne id c hc
  rcases h (hw hne) id c (hslot id c hc) with hlive | hr
  · exact .inl (hconns c hlive)
  · exact .inr (hremoves id c hc hr)

/-- A connection goes on, or asks for its removal. -/
theorem Listed.update_conn (h : Listed s) {c : Conn} {x : ClientConnection}
    {q : List (Marked Conn BackendToProxy)} (hq : ∀ m ∈ s.toProxy, m ∈ q)
    (hx : s.clientWriter ≠ .ended → ∀ id, s.client.connection id = some c → (s.conns c).live = true →
      x.live = true ∨ ∃ m ∈ q, m.val = .removeMinecraftClient id) :
    Listed { s with conns := update s.conns c x, toProxy := q } := by
  intro hne id d hd
  have hold : s.Removes id → Removes { s with conns := update s.conns c x, toProxy := q } id :=
    Or.imp_left fun ⟨m, hm, hv⟩ => ⟨m, hq m hm, hv⟩
  show (update s.conns c x d).live = true ∨ _
  rw [Function.update_apply]
  split
  · next he =>
    subst he
    rcases h hne id d hd with hlive | hr
    · exact (hx hne id hd hlive).imp_right .inl
    · exact .inr (hold hr)
  · exact (h hne id d hd).imp_right hold

/-- A connection goes on. -/
theorem Listed.keep_conn (h : Listed s) {c : Conn} {x : ClientConnection} (hx : x.live = true) :
    Listed { s with conns := update s.conns c x } :=
  h.update_conn (q := s.toProxy) (fun _ hm => hm) (fun _ _ _ _ => .inl hx)

theorem subset_offerBackend (m : Marked Conn BackendToProxy) : ∀ x ∈ s.toProxy, x ∈ s.offerBackend m := by
  intro x hx
  rw [offerBackend]
  split
  · exact hx
  · exact List.mem_append_left _ hx

theorem mem_offerBackend_self (hw : s.clientWriter ≠ .ended) (m : Marked Conn BackendToProxy) :
    m ∈ s.offerBackend m := by
  rw [offerBackend, if_neg hw]
  exact List.mem_append_right _ (List.mem_singleton_self m)

theorem Listed.readerHandler (h : Listed s) (hg : Guested s) (f : Marked Player SocketPacket) :
    Listed ({ s with down := s.down.pop f }.readerFrame f) := by
  have hremove : ∀ id, Listed { s with down := s.down.pop f, client := s.client.removeConnection id } :=
    fun id => h.mono (fun hne => hne) (fun _ _ => connection_removeConnection_eq_some) (fun _ hc => hc)
      (fun _ _ _ hr => hr)
  apply readerFrame_cases (motive := Listed) { s with down := s.down.pop f } f
  case join =>
    intro id hv hne id' c hc
    change (s.client.addConnection id s.opened).connection id' = some c at hc
    show (update s.conns s.opened (.new id f.of) c).live = true ∨ s.Removes id'
    rw [Client.connection_addConnection] at hc
    split at hc
    · cases hc
      rw [Function.update_self]
      exact .inl rfl
    · rw [Function.update_of_ne (Nat.ne_of_lt (hg.slot id' c hc).1)]
      exact h hne id' c hc
  case data =>
    intro id pkg c hv _ _
    exact h.update_conn (q := s.toProxy) (fun _ hm => hm) (fun _ _ _ hlive => .inl hlive)
  case dataLost => intro id _ _ _ _ _; exact hremove id
  case dataNone => intros; exact h
  case disconnect =>
    intro id c _ _
    exact (hremove id).update_conn (c := c) (q := s.toProxy) (x := { s.conns c with disconnected := true })
      (fun _ hm => hm) (fun _ _ _ hlive => .inl hlive)
  case disconnectNone => intro id _ _; exact hremove id
  case pong => intros; exact h
  case unexpected => intros; exact h

theorem Listed.step {a : Action} (h : Listed s) (hg : Guested s) (hs : s.step a = some s') : Listed s' := by
  obtain ⟨ha, rfl⟩ := step_eq_some hs
  -- a connection that ends of itself asks for the removal of its slot
  have hdrop : ∀ {c : Conn} {l : List (Marked Conn BackendToProxy)} {x : ClientConnection},
      (∀ m ∈ s.toProxy, m ∈ l) → Listed { s with
        conns := update s.conns c x
        toProxy := { s with toProxy := l }.offerBackend
          ⟨.removeMinecraftClient (s.conns c).clientId, some c⟩ } := by
    intro c l x hl
    refine h.update_conn (fun m hm => subset_offerBackend (s := { s with toProxy := l }) _ m (hl m hm)) ?_
    intro hne id hc _
    refine .inr ⟨_, mem_offerBackend_self (s := { s with toProxy := l }) hne _, ?_⟩
    rw [(hg.slot id c hc).2.1]
  cases a with
  | readerHandler f => exact h.readerHandler hg f
  | readerDisconnect id =>
    obtain ⟨rx, hrx⟩ := List.head?_eq_some_iff.1 (of_decide_eq_true ha).2
    refine h.mono (fun hne => hne) (fun _ _ => connection_removeConnection_eq_some) (fun _ hc => hc) ?_
    rintro id' c hc (hr | hr)
    · exact .inl hr
    · right
      change (s.client.removeConnection id).connection id' = some c at hc
      have hne : id' ≠ id := by
        rintro rfl
        rw [Client.connection_removeConnection, if_pos rfl] at hc
        cases hc
      show id' ∈ s.disconnectRx.tail
      rw [hrx] at hr ⊢
      exact (List.mem_cons.1 hr).resolve_left hne
  | readerPing time =>
    exact h.mono (fun hne => hne) (fun _ _ hc => hc) (fun _ hc => hc)
      (fun _ _ _ => Or.imp_left fun ⟨m, hm, hv⟩ => ⟨m, subset_offerBackend _ m hm, hv⟩)
  | writerHandler m =>
    obtain ⟨hw, hm⟩ := of_decide_eq_true ha
    obtain ⟨q, hq⟩ := List.head?_eq_some_iff.1 hm
    -- a message that asks for no removal
    have hkeep : ∀ w, (∀ id, m.val ≠ .removeMinecraftClient id) →
        Listed { s with toProxy := s.toProxy.tail, clientWriter := w } := by
      intro w hv
      refine h.mono (fun _ => clientWriter_ne_ended hw) (fun _ _ hc => hc) (fun _ hc => hc) ?_
      refine fun id _ _ => Or.imp_left fun ⟨x, hx, he⟩ => ⟨x, mem_tail_of_ne hm hx ?_, he⟩
      rintro rfl
      exact hv id he
    apply backendMessage_cases (motive := Listed) { s with toProxy := s.toProxy.tail } m
    case packet => intro id pkg hv; exact hkeep _ (by simp [hv])
    case ping => intro p hv; exact hkeep _ (by simp [hv])
    case ends => exact fun hne => absurd rfl hne
    case remove =>
      intro id hv
      refine h.mono (fun _ => clientWriter_ne_ended hw) (fun _ _ hc => hc) (fun _ hc => hc) ?_
      rintro id' c _ (⟨x, hx, he⟩ | hr)
      · by_cases hid : id' = id
        · exact .inr (by rw [hid]; exact List.mem_append_right _ (List.mem_singleton_self id))
        · refine .inl ⟨x, mem_tail_of_ne hm hx ?_, he⟩
          rintro rfl
          exact hid (BackendToProxy.removeMinecraftClient.inj (he.symm.trans hv))
      · exact .inr (List.mem_append_left _ hr)
  | writerHandlerFeed f =>
    have hne : s.clientWriter ≠ .ended := by rw [of_decide_eq_true ha]; simp
    exact fun _ => h hne
  | writerHandlerEmpty | writerHandlerFlushed =>
    have hne : s.clientWriter ≠ .ended := by rw [(of_decide_eq_true ha).1]; simp
    exact fun _ => h hne
  | writerHandlerFails | writerHandlerAborted => exact fun hne => absurd rfl hne
  | backendConnected c => exact h.keep_conn rfl
  | backendRecv c data => exact h.keep_conn rfl
  | backendWrite c rest n => exact h.keep_conn rfl
  | backendWritten c => exact h.keep_conn rfl
  | backendRead c chunk =>
    refine h.update_conn (subset_offerBackend _) fun hne _ _ _ => .inl ?_
    simp [ClientConnection.live, hne]
  | backendConnectFails c error => exact hdrop (subset_offerBackend _)
  | backendWriteFails c rest => exact hdrop (l := s.toProxy) (fun _ hm => hm)
  | backendReadEnds c => exact hdrop (l := s.toProxy) (fun _ hm => hm)
  | backendClosed c =>
    refine h.update_conn (q := s.toProxy) (fun _ hm => hm) fun _ id hc _ => ?_
    exact absurd (Slots.mem_cells_iff.2 ⟨_, hc⟩) (of_decide_eq_true ha).2.2
  | backendDropped c =>
    refine h.update_conn (q := s.toProxy) (fun _ hm => hm) fun _ _ _ hlive => ?_
    rw [ClientConnection.live, of_decide_eq_true ha] at hlive
    simp at hlive
  | handleWriter m =>
    apply handleMessage_cases (motive := Listed) { s with queue := s.queue.tail } m <;> intros <;> exact h
  | handleReader f =>
    apply handleFrame_cases (motive := Listed) { s with up := s.up.pop f } f <;> intros <;> exact h
  | _ => exact h

/-! ### At rest -/

/-- What the two tables have in common: the server's slots are those of the players that are served, the
client's those of the connections that go on, each under its id, and a connection's slot is its player's at the
server. -/
structure Agrees (s : Session) : Prop where
  server : ∀ id P, s.distributor.getById id = some P ↔ (s.players P).phase = .handling id
  client : ∀ c, (s.conns c).live = true ↔ s.client.connection (s.conns c).clientId = some c
  tunnel : ∀ id c, s.client.connection id = some c → (s.conns c).clientId = id ∧
    ∃ P, (s.conns c).openedFor = some P ∧ s.distributor.getById id = some P

theorem AtRest.made (h : AtRest s) : s.made = s.down.taken := by
  rw [made_of_recv (.inl h.writer), Link.history, Link.inFlight, h.down.1, h.down.2, List.append_nil,
    List.append_nil]

theorem AtRest.answers (h : AtRest s) : s.answers = s.up.taken := by
  rw [answers_of_recv (.inr h.clientWriter), Link.history, Link.inFlight, h.up.1, h.up.2, List.append_nil,
    List.append_nil]

/-- At rest, a player that has yet to send its final message is served. -/
theorem AtRest.handling (h : AtRest s) (hP : (s.players P).phase.removes? = some id) :
    (s.players P).phase = .handling id := by
  have hrests := h.player P
  unfold PlayerRests at hrests
  cases hphase : (s.players P).phase with
  | handling id' => rw [hphase] at hP; cases hP; rfl
  | hasId => rw [hphase] at hrests; exact hrests.elim
  | absent | awaitId | finished | failed => rw [hphase] at hP; cases hP

theorem AtRest.server (h : AtRest s) (ho : Occupied s) :
    s.distributor.getById id = some P ↔ (s.players P).phase = .handling id := by
  have hne : s.writer ≠ .ended := by rw [h.writer]; simp
  constructor
  · exact fun hslot => h.handling ((ho.waits hne id P hslot).resolve_right (by rw [h.queue]; simp))
  · intro hphase
    have hP := h.player P
    rw [PlayerRests, hphase] at hP
    obtain ⟨-, hslot | ⟨m, hm, -⟩⟩ := hP.2.2.2.2
    · obtain ⟨id', hid'⟩ := exists_slot hslot
      have hgiven := ho.given hne id' P hid'
      rw [hphase] at hgiven
      cases hgiven
      exact hid'
    · rw [h.queue] at hm
      cases hm

theorem AtRest.client (h : AtRest s) (hg : Guested s) (hl : Listed s) (c : Conn) :
    (s.conns c).live = true ↔ s.client.connection (s.conns c).clientId = some c := by
  constructor
  · intro hlive
    have hc := h.conn c
    unfold ConnRests at hc
    split at hc
    · obtain ⟨id, hid⟩ := exists_connection hc.2
      rw [(hg.slot id c hid).2.1]
      exact hid
    · next ht =>
      rw [ClientConnection.live, ht] at hlive
      simp at hlive
    · exact hc.elim
  · intro hc
    refine (hl (by rw [h.clientWriter]; simp) _ c hc).resolve_right ?_
    rintro (⟨m, hm, -⟩ | hid)
    · rw [h.toProxy] at hm; cases hm
    · rw [h.disconnectRx] at hid; cases hid

/-- Who has an id by the frames is served under it. -/
theorem AtRest.tenant (h : AtRest s) (ht : Tenanted s) (ho : Occupied s) (hid : s.tenant id = some P) :
    s.distributor.getById id = some P :=
  (h.server ho).2 (h.handling ((ht.waits (by rw [h.writer]; simp) id P hid).2.resolve_right
    (by rw [h.queue]; simp)))

/-- What holds of both tables in every session in which first packets are short. -/
structure Tabled (s : Session) : Prop where
  clean : Clean s
  joining : Joining s
  waiting : Waiting s
  occupied : Occupied s
  tenanted : Tenanted s
  guested : Guested s
  listed : Listed s

theorem tabled_init : Tabled init :=
  ⟨clean_init, joining_init, waiting_init, occupied_init, tenanted_init, guested_init, listed_init⟩

theorem Tabled.step {a : Action} (h : Tabled s) (hc : ShortStart a) (hs : s.step a = some s') : Tabled s' :=
  ⟨h.clean.step hc hs, h.joining.step hs, h.waiting.step h.joining hs, h.occupied.step h.joining hs,
    h.tenanted.step h.joining hs, h.guested.step h.tenanted h.clean.down hs, h.listed.step h.guested hs⟩

theorem AtRest.agrees (h : AtRest s) (ht : Tabled s) : Agrees s := by
  refine ⟨fun id P => h.server ht.occupied, h.client ht.guested ht.listed, fun id c hc => ?_⟩
  obtain ⟨-, hid, P, hP, hguest⟩ := ht.guested.slot id c hc
  refine ⟨hid, P, hP, h.tenant ht.tenanted ht.occupied ?_⟩
  rw [Session.tenant, h.made]
  exact hguest

/-- When nothing is left that a session does by itself while its four loops run, the two ends agree: every
connection that goes on is of a player that is served under its id, and every slot of the server is of a
player that is served. -/
theorem rest_agrees (h : Lts.Reach step (fun _ a => ShortStart a) init s) (hgoing : Going s)
    (hrest : Resting s) : Agrees s := by
  have ht : Tabled s := h.invariant (I := Tabled) tabled_init fun _ hi hc hs => hi.step hc hs
  exact (hrest.atRest hgoing ht.waiting).agrees ht

/-! ### Runs that come to rest -/

/-- The four loops wait, nothing is in the queues, and all below the bound have got everything. -/
def RestsBelow (N : Nat) (s : Session) : Prop :=
  (s.writer = .recv ∧ s.clientWriter = .recv ∧ s.reader = true ∧ s.clientReader = true) ∧
    (s.queue = [] ∧ s.toProxy = [] ∧ s.disconnectRx = []) ∧
    ((s.down.sent = [] ∧ s.down.buffered = []) ∧ s.up.sent = [] ∧ s.up.buffered = []) ∧
    (∀ P < N, s.PlayerRests P) ∧ ∀ c < s.opened, s.ConnRests c

instance (N : Nat) (s : Session) : Decidable (RestsBelow N s) := inferInstanceAs (Decidable (_ ∧ _ ∧ _ ∧ _ ∧ _))

/-- A run of so many players rests when these do. -/
theorem RestsBelow.resting {N : Nat} {as : List Action} (h : RestsBelow N s) (hrun : Lts.run step init as = some s)
    (hm : Lts.Meets step (fun _ a => ShortStart a ∧ Brings N a = true) init as) : Going s ∧ Resting s := by
  obtain ⟨⟨hw, hcw, hreader, hclientReader⟩, ⟨hqueue, htoProxy, hrx⟩, ⟨hdown, hup⟩, hplayers, hconns⟩ := h
  have hbelow : Clean s ∧ Below N s :=
    (Lts.Reach.of_run hrun hm).invariant (I := fun s => Clean s ∧ Below N s)
      ⟨clean_init, below_init.mono (Nat.zero_le _)⟩ fun _ hi hc hs => ⟨hi.1.step hc.1 hs, hi.2.bring hi.1 hc.2 hs⟩
  have hgoing : Going s := ⟨by rw [hw]; simp, hreader, by rw [hcw]; simp, hclientReader⟩
  have hrest : AtRest s := by
    refine ⟨hw, hcw, hqueue, htoProxy, hrx, hdown, hup, fun P => ?_, fun c => ?_⟩
    · rcases Nat.lt_or_ge P N with hP | hP
      · exact hplayers P hP
      · rw [PlayerRests, hbelow.2.player P hP]; trivial
    · rcases Nat.lt_or_ge c s.opened with hc | hc
      · exact hconns c hc
      · rw [ConnRests, hbelow.2.conn c hc]; trivial
  exact ⟨hgoing, hrest.resting hgoing hbelow.1 hbelow.2⟩

/-- Player 0 joins, a packet goes each way, and all of it is written. -/
def joinAndSettle : List Action := joinAndRead ++
  [.writerHandlerFlushed, .handleReader ⟨.proxyData ⟨0, ⟨[1]⟩⟩, some 0⟩, .clientWriterTake 0 ⟨[1], some 0⟩,
    .clientWriterDrained 0, .clientWriterWrite 0 1, .clientWriterFlushed 0,
    .backendRecv 0 ⟨samplePacket, some 0⟩, .backendWrite 0 samplePacket samplePacket.length,
    .backendWritten 0]

theorem joinAndSettle_rests :
    ∃ s, Lts.run step init joinAndSettle = some s ∧ Going s ∧ Resting s ∧ (s.players 0).phase = .handling 0 := by
  obtain ⟨s, hrun, hrests, hphase⟩ : ∃ s, Lts.run step init joinAndSettle = some s ∧ RestsBelow 1 s ∧
      (s.players 0).phase = .handling 0 := by
    decide +kernel
  obtain ⟨hgoing, hresting⟩ := hrests.resting hrun (by decide +kernel)
  exact ⟨s, hrun, hgoing, hresting, hphase⟩

/-- Players 1 and 2 are there, the one with id 1, the other with the id that player 0 had. -/
theorem leaveAndRejoin_rests :
    ∃ s, Lts.run step init leaveAndRejoin = some s ∧ Going s ∧ Resting s ∧
      (s.players 0).phase = .finished 0 ∧ (s.players 1).phase = .handling 1 ∧
      (s.players 2).phase = .handling 0 := by
  obtain ⟨s, hrun, hrests, hphases⟩ : ∃ s, Lts.run step init leaveAndRejoin = some s ∧ RestsBelow 3 s ∧
      (s.players 0).phase = .finished 0 ∧ (s.players 1).phase = .handling 1 ∧
      (s.players 2).phase = .handling 0 := by
    decide +kernel
  obtain ⟨hgoing, hresting⟩ := hrests.resting hrun (by decide +kernel)
  exact ⟨s, hrun, hgoing, hresting, hphases⟩

theorem rest_agrees_leaveAndRejoin :
    ∃ s, Lts.run step init leaveAndRejoin = some s ∧ Agrees s ∧ (s.players 0).phase = .finished 0 ∧
      (s.players 1).phase = .handling 1 ∧ (s.players 2).phase = .handling 0 := by
  obtain ⟨s, hrun, hgoing, hrest, hphases⟩ := leaveAndRejoin_rests
  exact ⟨s, hrun, rest_agrees (Lts.Reach.of_run hrun (by decide +kernel)) hgoing hrest, hphases⟩

end Session
end CraftIP
