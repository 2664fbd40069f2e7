import CraftIP.Session.Forward

/-!
# From the tunnel to the backend

When no id is given twice, a backend connection gets the data that the client took under its id, up to
where the client forgets the connection, and writes it in the same order (`Arrived`). What it was sent
before a disconnect is all there when its channel closes.
-/

namespace CraftIP
open Function (update)

/-- What `handle_client` has received and not written. -/
def HandleClient.rest : HandleClient → List UInt8
  | .writing rest => rest
  | _ => []

/-- No read ends a connection by an error that loses data. -/
def Action.socketFails : Action → Bool
  | .clientWriterFlushFails _ => true
  | .clientWriterFails _ => true
  | .handleWriterFails => true
  | .writerHandlerFails => true
  | .backendConnectFails _ _ => true
  | .backendWriteFails _ _ => true
  | _ => false

namespace Session

/-- A backend connection against the frames that the client has taken. -/
structure ConnArrived (owner : ClientID → Option Player) (taken : List (Marked Player SocketPacket))
    (c : ClientConnection) : Prop where
  openedFor : c.openedFor = owner c.clientId
  join : ∃ f ∈ taken, f.val = .proxyJoin c.clientId
  received : chunks c.rx.history <+: dataFor c.clientId taken
  disconnected : c.disconnected = true →
    (∃ f ∈ taken, f.val = .proxyDisconnect c.clientId) ∧ chunks c.rx.history = dataBefore c.clientId taken
  written : c.bytesWritten ++ c.task.rest = chunks c.rx.taken
  closed : c.needForClose = false → c.task = .ended ∧ c.rx.pending = []

/-- The connections of the client: there is one for an id, and while it is registered it lacks nothing. -/
structure Arrived (s : Session) : Prop where
  fresh : ∀ c, s.opened ≤ c → s.conns c = .unused
  conn : ∀ c < s.opened, ConnArrived s.owner s.down.taken (s.conns c)
  inj : ∀ c < s.opened, ∀ c' < s.opened, (s.conns c).clientId = (s.conns c').clientId → c = c'
  slot : ∀ id c, s.client.connection id = some c → c < s.opened ∧ (s.conns c).clientId = id ∧
    chunks (s.conns c).rx.history = dataFor id s.down.taken ∧ ∀ f ∈ s.down.taken, f.val ≠ .proxyDisconnect id

theorem arrived_init : Arrived init where
  fresh _ _ := rfl
  conn c h := absurd h (Nat.not_lt_zero c)
  inj c h := absurd h (Nat.not_lt_zero c)
  slot id c h := by simp [init] at h

variable {s s' : Session}

theorem ConnArrived.take {owner : ClientID → Option Player} {taken : List (Marked Player SocketPacket)}
    {c : ClientConnection} (h : ConnArrived owner taken c) (f : Marked Player SocketPacket) :
    ConnArrived owner (taken ++ [f]) c :=
  { h with
    join := h.join.imp fun _ hg => ⟨List.mem_append_left _ hg.1, hg.2⟩
    received := h.received.trans (by rw [dataFor_append]; exact List.prefix_append _ _)
    disconnected := fun hd => by
      obtain ⟨⟨g, hg, he⟩, hchunks⟩ := h.disconnected hd
      exact ⟨⟨g, List.mem_append_left _ hg, he⟩, hchunks.trans (dataBefore_append ⟨g, hg, he⟩).symm⟩ }

/-- A connection that is still open is none of the unused ones. -/
theorem Arrived.lt_opened (h : Arrived s) {c : Conn} (hc : (s.conns c).task ≠ .ended) : c < s.opened := by
  by_contra hle
  rw [h.fresh c (Nat.le_of_not_lt hle)] at hc
  exact hc rfl

/-- An id is given for the first time: no connection has it. -/
theorem Arrived.give (h : Arrived s)
    (hnames : ∀ f ∈ s.down.taken, ∀ id, f.val.names id = true → s.owner id ≠ none) {id : ClientID}
    (hnew : s.owner id = none) (P : Player) (c : Conn) (hc : c < s.opened) :
    ConnArrived (update s.owner id (some P)) s.down.taken (s.conns c) := by
  obtain ⟨f, hf, he⟩ := (h.conn c hc).join
  have howner := hnames f hf (s.conns c).clientId (by rw [he]; exact decide_eq_true rfl)
  have hne : (s.conns c).clientId ≠ id := by rintro rfl; exact howner hnew
  exact { h.conn c hc with openedFor := by rw [Function.update_of_ne hne]; exact (h.conn c hc).openedFor }

theorem Arrived.handleMessage (h : Arrived s)
    (hnames : ∀ f ∈ s.down.taken, ∀ id, f.val.names id = true → s.owner id ≠ none)
    {m : Marked Player (ClientToProxy Player Player)}
    (hnew : ∀ id ∈ s.givenId (.handleWriter m), s.owner id = none) :
    Arrived (s.handleMessage m) := by
  apply handleMessage_cases (motive := Arrived) s m
  case joined =>
    intro P tx id d startData hv hins _
    exact { h with conn := h.give hnames (hnew id (givenId_eq_some hv hins)) tx }
  case gone =>
    intro P tx id d hv hins _
    exact { h with conn := h.give hnames (hnew id (givenId_eq_some hv hins)) tx }
  case full => intros; exact { h with }
  case packet => intros; exact { h with }
  case ping => intros; exact { h with }
  case removed => intros; exact { h with }
  case unknown => intros; exact { h with }

theorem Arrived.handleFrame (h : Arrived s) (f : Marked Conn SocketPacket) : Arrived (s.handleFrame f) := by
  apply handleFrame_cases (motive := Arrived) s f <;> intros <;> exact { h with }

theorem Arrived.backendMessage (h : Arrived s) (m : Marked Conn BackendToProxy) :
    Arrived (s.backendMessage m) := by
  apply backendMessage_cases (motive := Arrived) s m <;> intros <;> exact { h with }

/-- A connection goes on with what it has received. -/
theorem Arrived.update_conn (h : Arrived s) {c : Conn} {x : ClientConnection} (hc : c < s.opened)
    (hid : x.clientId = (s.conns c).clientId) (hrx : x.rx.history = (s.conns c).rx.history)
    (hx : ConnArrived s.owner s.down.taken x) : Arrived { s with conns := update s.conns c x } where
  fresh := forall_conns (R := fun d x => s.opened ≤ d → x = .unused) h.fresh
    fun hle => absurd hc (Nat.not_lt_of_le hle)
  conn := forall_conns (R := fun d x => d < s.opened → ConnArrived s.owner s.down.taken x) h.conn fun _ => hx
  inj d hd d' hd' he := by
    have hsame : ∀ d, (update s.conns c x d).clientId = (s.conns d).clientId := by
      intro d
      rw [Function.update_apply]
      split
      · next he => rw [he, hid]
      · rfl
    exact h.inj d hd d' hd' (by rw [← hsame d, ← hsame d']; exact he)
  slot id d hd := by
    obtain ⟨hlt, hclient, hchunks, hno⟩ := h.slot id d hd
    refine ⟨hlt, ?_, ?_, hno⟩
    · show (update s.conns c x d).clientId = id
      rw [Function.update_apply]
      split
      · next he => rw [hid, ← he, hclient]
      · exact hclient
    · show chunks (update s.conns c x d).rx.history = _
      rw [Function.update_apply]
      split
      · next he => rw [hrx, ← he, hchunks]
      · exact hchunks

/-- A frame is taken; the connections that stay registered are none that it is about. -/
theorem Arrived.pop (h : Arrived s) {f : Marked Player SocketPacket}
    (htaken : (s.down.pop f).taken = s.down.taken ++ [f]) {client : Client Conn}
    (hclient : ∀ id c, client.connection id = some c → s.client.connection id = some c ∧
      f.val.bytesFor id = [] ∧ f.val ≠ .proxyDisconnect id) :
    Arrived { s with down := s.down.pop f, client } where
  fresh := h.fresh
  conn c hc := htaken ▸ (h.conn c hc).take f
  inj := h.inj
  slot id c hc := by
    obtain ⟨hslot, hbytes, hdis⟩ := hclient id c hc
    obtain ⟨hlt, hid, hchunks, hno⟩ := h.slot id c hslot
    show _ ∧ _ ∧ _ = dataFor id (s.down.pop f).taken ∧ ∀ g ∈ (s.down.pop f).taken, _
    rw [htaken]
    refine ⟨hlt, hid, ?_, forall_mem_append_singleton hno hdis⟩
    rw [dataFor_append, dataFor_singleton, hbytes, List.append_nil]; exact hchunks

theorem made_of_inFlight {f : Marked Player SocketPacket}
    (hin : s.down.inFlight = f :: (s.down.pop f).inFlight) :
    s.made = s.down.taken ++ f :: ((s.down.pop f).inFlight ++ HandleWriter.held s.writer) := by
  rw [made, Link.history, hin, List.append_assoc]; rfl

/-- No frame of an id was taken before its join. -/
theorem Sent.not_taken (h : Sent s) {f : Marked Player SocketPacket}
    (hin : s.down.inFlight = f :: (s.down.pop f).inFlight) {id : ClientID} (hf : f.val = .proxyJoin id) :
    ∀ g ∈ s.down.taken, g.val.names id = false := by
  have hfirst := h.first
  rw [made_of_inFlight hin] at hfirst
  exact fun g hg => (List.pairwise_append.1 hfirst).2.2 g hg f List.mem_cons_self id hf

/-- No connection has an id of which no frame was taken. -/
theorem Arrived.clientId_ne (h : Arrived s) {id : ClientID}
    (hno : ∀ g ∈ s.down.taken, g.val.names id = false) : ∀ c < s.opened, (s.conns c).clientId ≠ id := by
  rintro c hc rfl
  obtain ⟨g, hg, he⟩ := (h.conn c hc).join
  have hg' := hno g hg
  rw [he] at hg'
  exact of_decide_eq_false hg' rfl

/-- The first frame of an id opens its connection. -/
theorem Arrived.join (h : Arrived s) (hsent : Sent s) {f : Marked Player SocketPacket}
    (htaken : (s.down.pop f).taken = s.down.taken ++ [f])
    (hin : s.down.inFlight = f :: (s.down.pop f).inFlight) {id : ClientID} (hf : f.val = .proxyJoin id) :
    Arrived { s with
      down := s.down.pop f
      client := s.client.addConnection id s.opened
      conns := update s.conns s.opened (.new id f.of)
      opened := s.opened + 1 } := by
  have hfirst := hsent.not_taken hin hf
  have hnew := h.clientId_ne hfirst
  have howner : f.of = s.owner id :=
    hsent.join f (made_of_inFlight hin ▸ List.mem_append_right _ List.mem_cons_self) id hf
  have hsame : ∀ c < s.opened, update s.conns s.opened (.new id f.of) c = s.conns c := fun c hc =>
    Function.update_of_ne (Nat.ne_of_lt hc) _ _
  have hself : update s.conns s.opened (.new id f.of) s.opened = .new id f.of := Function.update_self _ _ _
  refine { fresh := fun c hc => ?_, conn := fun c hc => ?_, inj := fun c hc c' hc' he => ?_, slot := ?_ }
  · show update s.conns s.opened (.new id f.of) c = .unused
    rw [Function.update_of_ne (Nat.ne_of_gt hc)]
    exact h.fresh c (Nat.le_of_succ_le hc)
  · show ConnArrived s.owner (s.down.pop f).taken (update s.conns s.opened (.new id f.of) c)
    rw [htaken]
    rcases Nat.lt_succ_iff_lt_or_eq.1 hc with hlt | rfl
    · rw [hsame c hlt]; exact (h.conn c hlt).take f
    · rw [hself]
      exact
        { openedFor := howner
          join := ⟨f, List.mem_append_right _ (List.mem_singleton_self f), hf⟩
          received := List.nil_prefix
          disconnected := (fun he => by cases he)
          written := rfl
          closed := (fun he => by cases he) }
  · change (update s.conns s.opened (.new id f.of) c).clientId =
      (update s.conns s.opened (.new id f.of) c').clientId at he
    rcases Nat.lt_succ_iff_lt_or_eq.1 hc with hlt | rfl <;>
      rcases Nat.lt_succ_iff_lt_or_eq.1 hc' with hlt' | rfl
    · rw [hsame c hlt, hsame c' hlt'] at he; exact h.inj c hlt c' hlt' he
    · rw [hsame c hlt, hself] at he; exact absurd he (hnew c hlt)
    · rw [hself, hsame c' hlt'] at he; exact absurd he.symm (hnew c' hlt')
    · rfl
  · intro id' c hc
    show c < s.opened + 1 ∧ (update s.conns s.opened (.new id f.of) c).clientId = id' ∧
      chunks (update s.conns s.opened (.new id f.of) c).rx.history = dataFor id' (s.down.pop f).taken ∧
      ∀ g ∈ (s.down.pop f).taken, g.val ≠ .proxyDisconnect id'
    rw [htaken, dataFor_append, dataFor_singleton, hf, SocketPacket.bytesFor, List.append_nil]
    · rw [Client.connection_addConnection] at hc
      split at hc
      · next he =>
        obtain ⟨rfl, -⟩ := he
        cases hc
        rw [hself, dataFor_eq_nil hfirst]
        refine ⟨Nat.lt_succ_self _, rfl, rfl, forall_mem_append_singleton (fun g hg he => ?_) (by simp [hf])⟩
        have hno := hfirst g hg
        rw [he] at hno
        exact of_decide_eq_false hno rfl
      · obtain ⟨hlt, hid, hchunks, hno⟩ := h.slot id' c hc
        rw [hsame c hlt]
        exact ⟨Nat.lt_succ_of_lt hlt, hid, hchunks, forall_mem_append_singleton hno (by simp [hf])⟩
    · simp

/-- Data is received by the connection that is registered for its id. -/
theorem Arrived.data (h : Arrived s) {f : Marked Player SocketPacket}
    (htaken : (s.down.pop f).taken = s.down.taken ++ [f]) {id : ClientID} {pkg : MinecraftDataPacket}
    (hf : f.val = .proxyData ⟨id, pkg⟩) {c : Conn} (hc : s.client.connection id = some c)
    (htask : (s.conns c).task ≠ .ended) :
    Arrived { s with
      down := s.down.pop f
      conns := update s.conns c { s.conns c with rx := (s.conns c).rx.send ⟨pkg.bytes, f.of⟩ } } := by
  obtain ⟨hlt, hid, hchunks, hno⟩ := h.slot id c hc
  have hconn := h.conn c hlt
  have hbytes : ∀ id', f.val.bytesFor id' = if id = id' then pkg.bytes else [] := fun id' => by rw [hf]; rfl
  set x : ClientConnection := { s.conns c with rx := (s.conns c).rx.send ⟨pkg.bytes, f.of⟩ } with hx
  have hrx : chunks x.rx.history = dataFor id (s.down.taken ++ [f]) := by
    rw [hx, Channel.history_send, chunks_append, chunks_singleton, hchunks, dataFor_append, dataFor_singleton,
      hbytes, if_pos rfl]
  have hxid : x.clientId = id := hid
  have harrived : ConnArrived s.owner (s.down.taken ++ [f]) x :=
    { openedFor := hconn.openedFor
      join := (hconn.take f).join
      received := by rw [hrx, hxid]
      disconnected := fun hd => by
        obtain ⟨⟨g, hg, he⟩, -⟩ := hconn.disconnected hd
        rw [hid] at he
        exact absurd he (hno g hg)
      written := hconn.written
      closed := fun hn => absurd (hconn.closed hn).1 htask }
  have hsame : ∀ d, (update s.conns c x d).clientId = (s.conns d).clientId := by
    intro d
    rw [Function.update_apply]
    split
    · next he => rw [he]
    · rfl
  refine { fresh := ?_, conn := fun d hd => ?_, inj := fun d hd d' hd' he => ?_, slot := fun id' d hd => ?_ }
  · exact forall_conns (R := fun d x => s.opened ≤ d → x = .unused) h.fresh
      fun hle => absurd hlt (Nat.not_lt_of_le hle)
  · show ConnArrived s.owner (s.down.pop f).taken (update s.conns c x d)
    rw [htaken]
    exact forall_conns (R := fun d x => d < s.opened → ConnArrived s.owner (s.down.taken ++ [f]) x)
      (fun d hd => (h.conn d hd).take f) (fun _ => harrived) d hd
  · exact h.inj d hd d' hd' (by rw [← hsame d, ← hsame d']; exact he)
  · obtain ⟨hlt', hid', hchunks', hno'⟩ := h.slot id' d hd
    show d < s.opened ∧ (update s.conns c x d).clientId = id' ∧
      chunks (update s.conns c x d).rx.history = dataFor id' (s.down.pop f).taken ∧
      ∀ g ∈ (s.down.pop f).taken, g.val ≠ .proxyDisconnect id'
    rw [htaken, hsame]
    refine ⟨hlt', hid', ?_, forall_mem_append_singleton hno' (by simp [hf])⟩
    rw [Function.update_apply]
    split
    · next he => rw [hrx, ← hid', he, hid]
    · next he =>
      have hne : id ≠ id' := fun heq => he (h.inj d hlt' c hlt (by rw [hid', hid, heq]))
      rw [dataFor_append, dataFor_singleton, hbytes, if_neg hne, List.append_nil]; exact hchunks'

/-- The server says that the player is gone. -/
theorem Arrived.disconnect (h : Arrived s) {f : Marked Player SocketPacket}
    (htaken : (s.down.pop f).taken = s.down.taken ++ [f]) {id : ClientID}
    (hf : f.val = .proxyDisconnect id) {c : Conn} (hc : s.client.connection id = some c) :
    Arrived { s with
      down := s.down.pop f
      client := s.client.removeConnection id
      conns := update s.conns c { s.conns c with disconnected := true } } := by
  obtain ⟨hlt, hid, hchunks, hno⟩ := h.slot id c hc
  have hpop : Arrived { s with down := s.down.pop f, client := s.client.removeConnection id } := by
    refine h.pop htaken fun id' d hd => ?_
    rw [Client.connection_removeConnection] at hd
    split at hd
    · cases hd
    · next hne => exact ⟨hd, by rw [hf]; rfl, by rw [hf]; simpa using hne⟩
  refine hpop.update_conn hlt rfl rfl ?_
  show ConnArrived s.owner (s.down.pop f).taken { s.conns c with disconnected := true }
  rw [htaken]
  refine { (h.conn c hlt).take f with disconnected := fun _ => ?_ }
  show (∃ g ∈ s.down.taken ++ [f], g.val = .proxyDisconnect (s.conns c).clientId) ∧
    chunks (s.conns c).rx.history = dataBefore (s.conns c).clientId (s.down.taken ++ [f])
  rw [hid]
  exact ⟨⟨f, List.mem_append_right _ (List.mem_singleton_self f), hf⟩,
    hchunks.trans (dataBefore_concat hno hf).symm⟩

theorem Arrived.removeConnection (h : Arrived s) (id : ClientID) :
    Arrived { s with client := s.client.removeConnection id } :=
  { h with
    slot := fun id' c hc => by
      rw [Client.connection_removeConnection] at hc
      split at hc
      · cases hc
      · exact h.slot id' c hc }

theorem Arrived.readerHandler (h : Arrived s) (hsent : Sent s) (hclean : s.down.garbled = false)
    {f : Marked Player SocketPacket} (hg : s.down.Gives f) :
    Arrived ({ s with down := s.down.pop f }.readerFrame f) := by
  obtain ⟨htaken, hin, -, -⟩ := Link.pop_of_gives hclean hg
  have hother : (∀ id, f.val.bytesFor id = []) → (∀ id, f.val ≠ .proxyDisconnect id) →
      Arrived { s with down := s.down.pop f } := fun hbytes hdis =>
    h.pop htaken fun id c hc => ⟨hc, hbytes id, hdis id⟩
  -- data for an id that is not registered any more
  have hlost : ∀ {id pkg}, f.val = .proxyData ⟨id, pkg⟩ →
      Arrived { s with down := s.down.pop f, client := s.client.removeConnection id } := by
    intro id pkg hv
    refine h.pop htaken fun id' c hc => ?_
    rw [Client.connection_removeConnection] at hc
    split at hc
    · cases hc
    · next hne => exact ⟨hc, by rw [hv]; exact if_neg hne, by simp [hv]⟩
  apply readerFrame_cases (motive := Arrived) { s with down := s.down.pop f } f
  case join => intro id hv; exact h.join hsent htaken hin hv
  case data => intro id pkg c hv hc ht; exact h.data htaken hv hc ht
  case dataLost => intro id pkg c hv hc ht; exact hlost hv
  case dataNone =>
    intro id pkg hv hc
    have hnone : s.client.connection id = none := hc
    have hs : Arrived { s with down := s.down.pop f } := by
      refine h.pop htaken fun id' c hc' => ?_
      have hne : id ≠ id' := by rintro rfl; rw [hnone] at hc'; cases hc'
      exact ⟨hc', by rw [hv]; exact if_neg hne, by simp [hv]⟩
    exact { hs with }
  case disconnect => intro id c hv hc; exact h.disconnect htaken hv hc
  case disconnectNone =>
    intro id hv hc
    refine h.pop htaken fun id' c hc' => ?_
    rw [Client.connection_removeConnection] at hc'
    split at hc'
    · cases hc'
    · next hne => exact ⟨hc', by rw [hv]; rfl, by rw [hv]; simpa using hne⟩
  case pong => intro ping hv; exact hother (by simp [hv, SocketPacket.bytesFor]) (by simp [hv])
  case unexpected =>
    intro hjoin hdata hdis
    have hbytes : ∀ id, f.val.bytesFor id = [] := by
      intro id
      cases hv : f.val with
      | proxyData packet => exact absurd hv (hdata packet)
      | _ => rfl
    exact { hother hbytes hdis with }

theorem Arrived.step {a : Action} (h : Arrived s) (hsent : Sent s) (hclean : Clean s)
    (hnew : ∀ id ∈ s.givenId a, s.owner id = none) (hfails : a.socketFails = false)
    (hs : s.step a = some s') : Arrived s' := by
  obtain ⟨ha, rfl⟩ := step_eq_some hs
  -- a connection that is still open does something with what it has received
  have hgoes : ∀ {c : Conn} {x : ClientConnection}, (s.conns c).task ≠ .ended →
      x.clientId = (s.conns c).clientId → x.openedFor = (s.conns c).openedFor →
      x.disconnected = (s.conns c).disconnected → x.rx.history = (s.conns c).rx.history →
      x.bytesWritten ++ x.task.rest = chunks x.rx.taken →
      (x.needForClose = false → x.task = .ended ∧ x.rx.pending = []) →
      Arrived { s with conns := update s.conns c x } := by
    intro c x htask hid hfor hdis hrx hwritten hclosed
    have hc := h.lt_opened htask
    have hconn := h.conn c hc
    refine h.update_conn hc hid hrx ?_
    exact
      { openedFor := by rw [hfor, hid]; exact hconn.openedFor
        join := by rw [hid]; exact hconn.join
        received := by rw [hrx, hid]; exact hconn.received
        disconnected := by rw [hdis, hrx, hid]; exact hconn.disconnected
        written := hwritten
        closed := hclosed }
  have hopen : ∀ {c : Conn}, (s.conns c).task ≠ .ended → (s.conns c).needForClose = false → False :=
    fun {c} htask hn => htask ((h.conn c (h.lt_opened htask)).closed hn).1
  have hwritten : ∀ {c : Conn} {task : HandleClient}, (s.conns c).task = task → (s.conns c).task ≠ .ended →
      (s.conns c).bytesWritten ++ task.rest = chunks (s.conns c).rx.taken :=
    fun {c} _ htask hne => htask ▸ (h.conn c (h.lt_opened hne)).written
  cases a with
  | handleWriter m =>
    have hs : Arrived { s with queue := s.queue.tail } := { h with }
    exact hs.handleMessage (fun f hf => hsent.frames f (mem_made_of_history (List.mem_append_left _ hf))) hnew
  | handleReader f =>
    have hs : Arrived { s with up := s.up.pop f } := { h with }
    exact hs.handleFrame f
  | readerHandler f => exact h.readerHandler hsent hclean.down (of_decide_eq_true ha).2
  | readerDisconnect id => exact { h.removeConnection id with }
  | writerHandler m =>
    have hs : Arrived { s with toProxy := s.toProxy.tail } := { h with }
    exact hs.backendMessage m
  | backendConnected c =>
    have htask : (s.conns c).task = .connecting := of_decide_eq_true ha
    have hne : (s.conns c).task ≠ .ended := by simp [htask]
    have hw := hwritten htask hne
    exact hgoes hne rfl rfl rfl rfl hw (fun hn => (hopen hne hn).elim)
  | backendRecv c data =>
    obtain ⟨htask, hhead⟩ := of_decide_eq_true ha
    have hne : (s.conns c).task ≠ .ended := by simp [htask]
    refine hgoes hne rfl rfl rfl (Channel.history_pop hhead) ?_ (fun hn => (hopen hne hn).elim)
    have hw := hwritten htask hne
    show (s.conns c).bytesWritten ++ data.val = chunks ((s.conns c).rx.taken ++ [data])
    rw [chunks_append, chunks_singleton, ← hw]
    exact congrArg (· ++ data.val) (List.append_nil _).symm
  | backendWrite c rest n =>
    have htask : (s.conns c).task = .writing rest := of_decide_eq_true ha
    have hne : (s.conns c).task ≠ .ended := by simp [htask]
    refine hgoes hne rfl rfl rfl rfl ?_ (fun hn => (hopen hne hn).elim)
    have hw := hwritten htask hne
    show (s.conns c).bytesWritten ++ rest.take n ++ rest.drop n = _
    rw [List.append_assoc, List.take_append_drop]
    exact hw
  | backendWritten c =>
    have htask : (s.conns c).task = .writing [] := of_decide_eq_true ha
    have hne : (s.conns c).task ≠ .ended := by simp [htask]
    have hw := hwritten htask hne
    exact hgoes hne rfl rfl rfl rfl hw (fun hn => (hopen hne hn).elim)
  | backendClosed c =>
    obtain ⟨htask, hpending, -⟩ := of_decide_eq_true ha
    have hne : (s.conns c).task ≠ .ended := by simp [htask]
    have hw := hwritten htask hne
    exact hgoes hne rfl rfl rfl rfl hw (fun _ => ⟨rfl, hpending⟩)
  | backendRead c chunk =>
    obtain ⟨htask, -⟩ := of_decide_eq_true ha
    have hne : (s.conns c).task ≠ .ended := by simp [htask]
    have hw := hwritten htask hne
    have hs := hgoes (x := { s.conns c with
      bytesRead := (s.conns c).bytesRead ++ chunk
      task := if s.clientWriter = .ended then .dropping else .select }) hne rfl rfl rfl rfl
      (by split <;> exact hw) (fun hn => (hopen hne hn).elim)
    exact { hs with }
  | backendReadEnds c =>
    have htask : (s.conns c).task = .select := of_decide_eq_true ha
    have hne : (s.conns c).task ≠ .ended := by simp [htask]
    have hw := hwritten htask hne
    have hs := hgoes (x := { s.conns c with task := .dropping }) hne rfl rfl rfl rfl hw
      (fun hn => (hopen hne hn).elim)
    exact { hs with }
  | backendDropped c =>
    have htask : (s.conns c).task = .dropping := of_decide_eq_true ha
    have hne : (s.conns c).task ≠ .ended := by simp [htask]
    have hw := hwritten htask hne
    exact hgoes hne rfl rfl rfl rfl hw (fun hn => (hopen hne hn).elim)
  | clientWriterFlushFails | clientWriterFails | handleWriterFails | writerHandlerFails
  | backendConnectFails | backendWriteFails => cases hfails
  | connect | joinFails | sendStart | clientRead | clientReadEnds | clientWriterTake | clientWriterDrained
  | clientWriterWrite | clientWriterFlushed | clientWriterClosed | clientWriterAborted | clientFinish
  | handleWriterFeed | handleWriterEmpty | handleWriterFlushed | handleWriterAborted | handleReaderEnds
  | handleEnds | downWrite | upWrite | readerDisconnectClosed | readerPing | readerEnds | writerHandlerFeed
  | writerHandlerEmpty | writerHandlerFlushed | writerHandlerAborted => exact { h with }

end Session
end CraftIP
