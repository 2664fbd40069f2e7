import CraftIP.Gui

/-!
# The sessions of a client (`connection_loop` in `client-gui/src/backend.rs`)

One `Client` goes through all the sessions: it is connected and authenticated, `handle` serves it, and after
an error it is connected again. The proxy, the channels and the writer task are new in every session, the
table of connections and its counter are not. They come into a session empty as long as a session that fails
has no connection open (`ConnectionLoop.separate_of_failsVacant`), and the counter counts the table over all the
sessions as long as no `ProxyJoin` comes for an entry that is occupied
(`ConnectionLoop.connectionsLen_counts_iff`).
-/

namespace CraftIP

namespace ReaderEvent
variable {Tx Tx' : Type}

/-- The event with another name for the new connection's channel. -/
def map (f : Tx → Tx') : ReaderEvent Tx → ReaderEvent Tx'
  | .next result clientTx sent time => .next result (f clientTx) sent time
  | .disconnect id => .disconnect id
  | .ping sent => .ping sent
  | .timeout => .timeout

/-- `disconnect_rx` is closed, and `to_proxy_tx` takes no more, when `writer_handler` has returned. -/
def possible (writerEnded : Bool) : ReaderEvent Tx → Bool
  | .disconnect none => writerEnded
  | .ping sent => sent = !writerEnded
  | _ => true

end ReaderEvent

namespace Client
variable {Tx : Type}

/-- What an attempt leaves: `auth` reports that it succeeded. -/
def attempted (c : Client Tx) : Except ClientError Unit → Client Tx
  | .ok () => { c with stats := c.stats ++ [.connected] }
  | .error _ => c

/-- No entry is occupied. -/
def Vacant (c : Client Tx) : Prop := ∀ i, c.connections.get i = none

instance (c : Client Tx) : Decidable c.Vacant := decidable_of_iff _ Slots.count_eq_zero_iff

/-- `remove_connection` reports the number of clients. -/
def reportsRemoval (c : Client Tx) (id : ClientID) : Bool :=
  !(id.toNat < MAXIMUM_CLIENTS && (c.connection id).isNone)

/-- The number of clients or a ping is reported for the event. -/
def reports (c : Client Tx) : ReaderEvent Tx → Bool
  | .next (some (.ok msg)) _ sent _ =>
    match msg with
    | .proxyJoin _ | .proxyPong _ => true
    | .proxyData packet => !sent && (c.connection packet.clientId).isSome
    | .proxyDisconnect id => c.reportsRemoval id
    | _ => false
  | .disconnect (some id) => c.reportsRemoval id
  | _ => false

variable {c : Client Tx} {k : Nat}

theorem stats_removeConnection {id : ClientID} (h : c.reportsRemoval id = false) :
    (c.removeConnection id).stats = c.stats := by
  simp only [reportsRemoval, Bool.not_eq_false', Bool.and_eq_true, decide_eq_true_eq,
    Option.isNone_iff_eq_none] at h
  exact congrArg Client.stats (if_pos h)

theorem stats_readerHandler {e : ReaderEvent Tx} (h : c.reports e = false) :
    (c.readerHandler e).1.stats = c.stats := by
  cases e with
  | next result clientTx sent time =>
    match result with
    | none => rfl
    | some (.error e) => rfl
    | some (.ok msg) =>
      cases msg with
      | proxyJoin id => cases h
      | proxyData packet =>
        simp only [Client.readerHandler, Client.sendTo]
        cases hc : c.connection packet.clientId with
        | none => rfl
        | some tx =>
          cases sent
          · simp [reports, hc] at h
          · rfl
      | proxyDisconnect id => exact stats_removeConnection h
      | proxyPong ping => cases h
      | _ => rfl
  | disconnect id =>
    cases id with
    | none => rfl
    | some id => exact stats_removeConnection h
  | ping sent => cases sent <;> rfl
  | timeout => rfl

theorem count_addConnection (hk : k ≤ 1) (h : c.connections.count + k ≤ c.connectionsLen) (id : ClientID)
    (tx : Tx) :
    (c.addConnection id tx).connections.count + k ≤ (c.addConnection id tx).connectionsLen ∧
      ((c.connection id).isSome = true →
        (c.addConnection id tx).connections.count + 1 ≤ (c.addConnection id tx).connectionsLen) := by
  have hle : c.connections.count ≤ 255 := c.connections.count_le
  by_cases hid : id.toNat < MAXIMUM_CLIENTS
  · have hcount := Slots.count_put (t := c.connections) hid tx
    simp only [addConnection, if_pos hid, hcount, connection]
    split
    · exact ⟨by omega, fun _ => by omega⟩
    · next hfree => exact ⟨by omega, fun hsome => absurd hsome hfree⟩
  · have hout := Nat.le_of_not_lt hid
    simp only [addConnection, if_neg hid, Slots.count_put_of_le hout, connection, Slots.get_eq_none_of_le hout]
    exact ⟨h, fun hsome => by cases hsome⟩

theorem count_removeConnection (h : c.connections.count + k ≤ c.connectionsLen) (id : ClientID) :
    (c.removeConnection id).connections.count + k ≤ (c.removeConnection id).connectionsLen := by
  rw [removeConnection]
  split
  · exact h
  · next hnot =>
    by_cases hid : id.toNat < MAXIMUM_CLIENTS
    · obtain ⟨tx, htx⟩ := Option.ne_none_iff_exists'.1 fun hnone => hnot ⟨hid, hnone⟩
      have hpos := Slots.count_pos htx
      simp only [if_pos hid, Slots.count_clear htx]
      omega
    · simp only [if_neg hid, Slots.count_clear_of_le (Nat.le_of_not_lt hid)]
      exact h

/-- What the counter is above the number of connections it stays above, by 1 at least after an entry is
overwritten. -/
theorem count_readerHandler {e : ReaderEvent Tx} (hk : k ≤ 1) (h : c.connections.count + k ≤ c.connectionsLen) :
    (c.readerHandler e).1.connections.count + k ≤ (c.readerHandler e).1.connectionsLen ∧
      (c.overwrites e = true →
        (c.readerHandler e).1.connections.count + 1 ≤ (c.readerHandler e).1.connectionsLen) := by
  cases e with
  | next result clientTx sent time =>
    match result with
    | none => exact ⟨h, fun ho => by cases ho⟩
    | some (.error e) => exact ⟨h, fun ho => by cases ho⟩
    | some (.ok msg) =>
      cases msg with
      | proxyJoin id => exact count_addConnection hk h id clientTx
      | proxyData packet =>
        refine ⟨?_, fun ho => by cases ho⟩
        simp only [Client.readerHandler, Client.sendTo]
        cases c.connection packet.clientId with
        | none => exact h
        | some tx =>
          cases sent
          · exact count_removeConnection h packet.clientId
          · exact h
      | proxyDisconnect id => exact ⟨count_removeConnection h id, fun ho => by cases ho⟩
      | _ => exact ⟨h, fun ho => by cases ho⟩
  | disconnect id =>
    cases id with
    | none => exact ⟨h, fun ho => by cases ho⟩
    | some id => exact ⟨count_removeConnection h id, fun ho => by cases ho⟩
  | ping sent => cases sent <;> exact ⟨h, fun ho => by cases ho⟩
  | timeout => exact ⟨h, fun ho => by cases ho⟩

end Client

/-- Where `connection_loop` is: connecting and authenticating, before the lock on the panels with the result,
in `handle`, whose writer may have ended, before the lock with the error of `handle`, or at its end. -/
inductive LoopPhase where
  | connecting
  | attempted (result : Except ClientError Unit)
  | handling (writerEnded : Bool)
  | handled (err : HandleError)
  | ended

inductive LoopAction (Tx : Type) where
  /-- `connect` and `auth` come to the result. -/
  | attempt (result : Except ClientError Unit)
  /-- The result is shown. -/
  | setResult
  | writerEnds
  | event (e : ReaderEvent Tx)
  /-- The error of `handle` is shown. -/
  | setError

/-- The senders in the table are marked with the session in which their `ProxyJoin` came. `session` counts the
sessions, and `overwritten` says whether a `ProxyJoin` has come for an entry that was occupied. -/
structure ConnectionLoop (Tx : Type) where
  client : Client (Nat × Tx)
  connectionAttempt : Nat
  phase : LoopPhase
  session : Nat
  overwritten : Bool

namespace ConnectionLoop
variable {Tx : Type}

def init : ConnectionLoop Tx := ⟨.new, 0, .connecting, 0, false⟩

/-- `handle` goes on with the event. -/
def handle (l : ConnectionLoop Tx) (writerEnded : Bool) (e : ReaderEvent Tx) : ConnectionLoop Tx :=
  let e := e.map (l.session, ·)
  { l with
    client := (l.client.readerHandler e).1
    phase := match (l.client.readerHandler e).2 with
      | none => .handling writerEnded
      | some (.ok ()) => .ended
      | some (.error err) => .handled err
    overwritten := l.overwritten || l.client.overwrites e }

def step (l : ConnectionLoop Tx) (a : LoopAction Tx) : Option (ConnectionLoop Tx) :=
  match a with
  | .attempt result =>
    match l.phase with
    | .connecting => some { l with client := l.client.attempted result, phase := .attempted result }
    | _ => none
  | .setResult =>
    match l.phase with
    | .attempted (.ok ()) =>
      some { l with connectionAttempt := 0, phase := .handling false, session := l.session + 1 }
    | .attempted (.error _) => some { l with connectionAttempt := l.connectionAttempt + 1, phase := .connecting }
    | _ => none
  | .writerEnds =>
    match l.phase with
    | .handling false => some { l with phase := .handling true }
    | _ => none
  | .event e =>
    match l.phase with
    | .handling writerEnded => if e.possible writerEnded then some (l.handle writerEnded e) else none
    | _ => none
  | .setError =>
    match l.phase with
    | .handled _ => some { l with phase := .connecting }
    | _ => none

/-- What an action does to the active panel, if it takes the lock. -/
def closure {Key : Type} (l : ConnectionLoop Tx) (a : LoopAction Tx) :
    Option (ServerPanel Key → ServerPanel Key) :=
  match a with
  | .setResult =>
    match l.phase with
    | .attempted (.ok ()) => some fun s => { s with state := .connected 0, error := none }
    | .attempted (.error e) =>
      some fun s => { s with error := some (.connecting e), state := .connecting l.connectionAttempt }
    | _ => none
  | .setError =>
    match l.phase with
    | .handled err =>
      some fun s => { s with error := some (.connection err), state := .connecting l.connectionAttempt }
    | _ => none
  | _ => none

/-- The action neither takes the lock nor reports what is shown. -/
def quiet (l : ConnectionLoop Tx) : LoopAction Tx → Bool
  | .attempt _ | .writerEnds => true
  | .setResult | .setError => false
  | .event e => !l.client.reports (e.map (l.session, ·))

variable {l l' : ConnectionLoop Tx} {a : LoopAction Tx}

/-- What a step does. -/
theorem step_eq_some (h : l.step a = some l') :
    (∃ result, a = .attempt result ∧ l.phase = .connecting ∧
      l' = { l with client := l.client.attempted result, phase := .attempted result }) ∨
    (a = .setResult ∧ l.phase = .attempted (.ok ()) ∧
      l' = { l with connectionAttempt := 0, phase := .handling false, session := l.session + 1 }) ∨
    (∃ e, a = .setResult ∧ l.phase = .attempted (.error e) ∧
      l' = { l with connectionAttempt := l.connectionAttempt + 1, phase := .connecting }) ∨
    (a = .writerEnds ∧ l.phase = .handling false ∧ l' = { l with phase := .handling true }) ∨
    (∃ e writerEnded, a = .event e ∧ l.phase = .handling writerEnded ∧ e.possible writerEnded = true ∧
      l' = l.handle writerEnded e) ∨
    (∃ err, a = .setError ∧ l.phase = .handled err ∧ l' = { l with phase := .connecting }) := by
  cases a with
  | attempt result =>
    simp only [step] at h
    split at h
    · next hp => cases h; exact .inl ⟨result, rfl, hp, rfl⟩
    · cases h
  | setResult =>
    simp only [step] at h
    split at h
    · next hp => cases h; exact .inr (.inl ⟨rfl, hp, rfl⟩)
    · next e hp => cases h; exact .inr (.inr (.inl ⟨e, rfl, hp, rfl⟩))
    · cases h
  | writerEnds =>
    simp only [step] at h
    split at h
    · next hp => cases h; exact .inr (.inr (.inr (.inl ⟨rfl, hp, rfl⟩)))
    · cases h
  | event e =>
    simp only [step] at h
    split at h
    · next writerEnded hp =>
      split at h
      · next hpossible =>
        cases h
        exact .inr (.inr (.inr (.inr (.inl ⟨e, writerEnded, rfl, hp, hpossible, rfl⟩))))
      · cases h
    · cases h
  | setError =>
    simp only [step] at h
    split at h
    · next err hp => cases h; exact .inr (.inr (.inr (.inr (.inr ⟨err, rfl, hp, rfl⟩))))
    · cases h

theorem closure_of_quiet {Key : Type} (h : l.quiet a = true) :
    (l.closure a : Option (ServerPanel Key → ServerPanel Key)) = none := by
  cases a with
  | setResult => cases h
  | setError => cases h
  | _ => rfl

theorem stats_of_quiet (h : l.quiet a = true) (hs : l.step a = some l') :
    l'.client.stats = l.client.stats ∨ l'.client.stats = l.client.stats ++ [.connected] := by
  rcases step_eq_some hs with ⟨result, rfl, -, rfl⟩ | ⟨rfl, -, rfl⟩ | ⟨e, rfl, -, rfl⟩ | ⟨rfl, -, rfl⟩ |
    ⟨e, writerEnded, rfl, -, -, rfl⟩ | ⟨err, rfl, -, rfl⟩
  · cases result with
    | ok u => exact .inr rfl
    | error e => exact .inl rfl
  · cases h
  · cases h
  · exact .inl rfl
  · exact .inl (Client.stats_readerHandler (by simpa only [quiet, Bool.not_eq_true'] using h))
  · cases h

/-- What an action shows: that the client is connected to no client, or that it connects after an error. -/
theorem shown_closure {Key : Type} {f : ServerPanel Key → ServerPanel Key} (h : l.closure a = some f) :
    ∃ x, (∀ p, (f p).shown = x) ∧
      ((a = .setResult ∧ l.phase = .attempted (.ok ()) ∧ x = (.connected 0, none)) ∨
        ∃ attempt error, x = (.connecting attempt, some error)) := by
  cases a with
  | setResult =>
    simp only [closure] at h
    split at h
    · next hp => cases h; exact ⟨_, fun _ => rfl, .inl ⟨rfl, hp, rfl⟩⟩
    · cases h; exact ⟨_, fun _ => rfl, .inr ⟨_, _, rfl⟩⟩
    · cases h
  | setError =>
    simp only [closure] at h
    split at h
    · cases h; exact ⟨_, fun _ => rfl, .inr ⟨_, _, rfl⟩⟩
    · cases h
  | _ => cases h

/-! ### What a session begins with -/

/-- When `handle` is about to serve a session, the table is empty and its counter is 0; what is in the table
while it serves came in this session. -/
structure Separate (l : ConnectionLoop Tx) : Prop where
  starts : l.phase = .attempted (.ok ()) → l.client.Vacant ∧ l.client.connectionsLen = 0
  serves : ∀ writerEnded, l.phase = .handling writerEnded →
    ∀ id session tx, l.client.connection id = some (session, tx) → session = l.session

/-- A session fails only when no entry is occupied, and every `ProxyJoin` came for an entry that was not. -/
def FailsVacant (l : ConnectionLoop Tx) (a : LoopAction Tx) : Prop :=
  ∀ e, a = .event e → l.client.fails (e.map (l.session, ·)) → l.client.Vacant ∧ l.overwritten = false

instance (l : ConnectionLoop Tx) (a : LoopAction Tx) : Decidable (l.FailsVacant a) :=
  match a with
  | .event e =>
    decidable_of_iff (l.client.fails (e.map (l.session, ·)) → l.client.Vacant ∧ l.overwritten = false)
      ⟨fun h _ he => by cases he; exact h, fun h => h e rfl⟩
  | .attempt _ | .setResult | .writerEnds | .setError => isTrue fun _ h => nomatch h

/-- No session is being served, and there may be another. -/
def Between (l : ConnectionLoop Tx) : Prop :=
  (∀ writerEnded, l.phase ≠ .handling writerEnded) ∧ l.phase ≠ .ended

/-- The invariant: between the sessions the table is empty, and within one it is the session's. -/
structure Apart (l : ConnectionLoop Tx) : Prop where
  counted : l.overwritten = false → l.client.Counted
  between : l.Between → l.client.Vacant ∧ l.client.connectionsLen = 0
  serves : ∀ writerEnded, l.phase = .handling writerEnded →
    ∀ id session tx, l.client.connection id = some (session, tx) → session = l.session

theorem Apart.init : Apart (init : ConnectionLoop Tx) where
  counted _ := Client.counted_new
  between _ := ⟨fun _ => Slots.get_empty _, rfl⟩
  serves _ h := by cases h

/-- Where nothing is served before and after, the connections stay as they are. -/
theorem Apart.idle (h : Apart l) (hl : l.Between) (hc : l'.client.connections = l.client.connections)
    (hn : l'.client.connectionsLen = l.client.connectionsLen) (ho : l'.overwritten = l.overwritten) :
    Apart l' := by
  obtain ⟨hvacant, hlen⟩ := h.between hl
  have hvacant' : l'.client.Vacant := fun i => by rw [hc]; exact hvacant i
  refine ⟨fun hf => ?_, fun _ => ⟨hvacant', hn.trans hlen⟩, fun _ _ id session tx hid => ?_⟩
  · rw [Client.Counted, hc, hn]
    exact h.counted (ho ▸ hf)
  · rw [Client.connection, hvacant' id.toNat] at hid
    cases hid

theorem Apart.step (h : Apart l) (hcond : l.FailsVacant a) (hs : l.step a = some l') : Apart l' := by
  rcases step_eq_some hs with ⟨result, rfl, hp, rfl⟩ | ⟨rfl, hp, rfl⟩ | ⟨e, rfl, hp, rfl⟩ | ⟨rfl, hp, rfl⟩ |
    ⟨e, writerEnded, rfl, hp, -, rfl⟩ | ⟨err, rfl, hp, rfl⟩
  · have hl : l.Between := by simp [Between, hp]
    cases result with
    | ok u => exact h.idle hl rfl rfl rfl
    | error e => exact h.idle hl rfl rfl rfl
  · exact h.idle (by simp [Between, hp]) rfl rfl rfl
  · exact h.idle (by simp [Between, hp]) rfl rfl rfl
  · exact ⟨h.counted, fun hb => absurd rfl (hb.1 true), fun _ _ => h.serves _ hp⟩
  · refine ⟨fun ho => ?_, fun hb => ?_, fun w _ id session tx hid => ?_⟩
    · -- the counter stays right, as an entry that a `ProxyJoin` takes was free
      obtain ⟨ho, hfree⟩ := Bool.or_eq_false_iff.1 ho
      exact ((h.counted ho).readerHandler hfree).1
    · -- only an error leads out of `handle` to another session
      cases hr : (l.client.readerHandler (e.map (l.session, ·))).2 with
      | none => exact absurd (by simp [handle, hr]) (hb.1 writerEnded)
      | some result =>
        cases result with
        | ok u => exact absurd (by simp [handle, hr]) hb.2
        | error err =>
          obtain ⟨hfails, hsame⟩ := Client.fails_of_readerHandler hr
          obtain ⟨hvacant, ho⟩ := hcond e rfl hfails
          have hcounted := h.counted ho
          simp only [handle, hsame]
          exact ⟨hvacant, hcounted.trans (Slots.count_eq_zero_iff.2 hvacant)⟩
    · rcases Client.of_connection_readerHandler hid with hid | ⟨result, sent, time, he⟩
      · exact h.serves _ hp id session tx hid
      · cases e with
        | next result' clientTx sent' time' => cases he; rfl
        | _ => cases he
  · exact h.idle (by simp [Between, hp]) rfl rfl rfl

theorem apart {l : ConnectionLoop Tx} (h : Lts.Reach step FailsVacant init l) : Apart l :=
  h.invariant .init fun _ ih hc hs => ih.step hc hs

/-- In every run in which no session fails while a connection is open, or after a `ProxyJoin` overwrote
one, the sessions are separate. -/
theorem separate_of_failsVacant {l : ConnectionLoop Tx} (h : Lts.Reach step FailsVacant init l) : Separate l where
  starts hp := (apart h).between (by simp [Between, hp])
  serves := (apart h).serves

/-- A `ProxyJoin` that overwrites an entry puts the counter above the number of connections for good. -/
theorem count_le_connectionsLen {l : ConnectionLoop Tx} (h : Lts.Reach step (fun _ _ => True) init l) :
    l.client.connections.count + l.overwritten.toNat ≤ l.client.connectionsLen := by
  refine h.invariant (I := fun l => l.client.connections.count + l.overwritten.toNat ≤ l.client.connectionsLen)
    (by simp only [init, Client.new, Slots.count_empty, Bool.toNat_false, Nat.add_zero, Nat.le_refl]) ?_
  intro l a l' _ ih _ hs
  rcases step_eq_some hs with ⟨result, -, -, rfl⟩ | ⟨-, -, rfl⟩ | ⟨e, -, -, rfl⟩ | ⟨-, -, rfl⟩ |
    ⟨e, writerEnded, -, -, -, rfl⟩ | ⟨err, -, -, rfl⟩
  · cases result <;> exact ih
  · exact ih
  · exact ih
  · exact ih
  · obtain ⟨hkeep, hover⟩ := Client.count_readerHandler (e := e.map (l.session, ·)) (Bool.toNat_le _) ih
    simp only [handle]
    cases ho : l.client.overwrites (e.map (l.session, ·)) with
    | false => rw [Bool.or_false]; exact hkeep
    | true => rw [Bool.or_true]; exact hover ho
  · exact ih

/-- The condition is needed: after a session that fails with an open connection, or after an entry was
overwritten, the next session does not begin empty. -/
theorem not_separate_of_fails {l : ConnectionLoop Tx} {e : ReaderEvent Tx} {writerEnded : Bool}
    (h : Lts.Reach step (fun _ _ => True) init l) (hp : l.phase = .handling writerEnded)
    (hpossible : e.possible writerEnded = true) (hcond : ¬ l.FailsVacant (.event e)) :
    ∃ l', Lts.run step l [.event e, .setError, .attempt (.ok ())] = some l' ∧ ¬ Separate l' := by
  have hcond : l.client.fails (e.map (l.session, ·)) = true ∧ ¬ (l.client.Vacant ∧ l.overwritten = false) := by
    by_contra hnot
    exact hcond fun e' he hfails => by
      cases he
      by_contra hopen
      exact hnot ⟨hfails, hopen⟩
  obtain ⟨err, herr, hsame⟩ := Client.readerHandler_of_fails hcond.1
  refine ⟨{ l with
    client := l.client.attempted (.ok ())
    phase := .attempted (.ok ())
    overwritten := l.overwritten || l.client.overwrites (e.map (l.session, ·)) }, ?_, ?_⟩
  · simp only [Lts.run, step, hp, hpossible, if_true, Option.bind_some, handle, herr, hsame]
  · intro hseparate
    obtain ⟨hvacant, hlen⟩ := hseparate.starts rfl
    refine hcond.2 ⟨hvacant, ?_⟩
    have hle := count_le_connectionsLen h
    cases ho : l.overwritten with
    | false => rfl
    | true => rw [ho, show l.client.connectionsLen = 0 from hlen] at hle; simp at hle

/-- A player leaves, the socket times out, and the client connects again. -/
def leaveAndReconnect : List (LoopAction Unit) :=
  [.attempt (.ok ()), .setResult, .event (.next (some (.ok (.proxyJoin 0))) () true 0),
    .event (.next (some (.ok (.proxyDisconnect 0))) () true 0), .event .timeout, .setError, .attempt (.ok ())]

theorem separate_leaveAndReconnect :
    ∃ l, Lts.run step init leaveAndReconnect = some l ∧ l.session = 1 ∧ Separate l := by
  have hrun : ∃ l, Lts.run step init leaveAndReconnect = some l ∧ l.session = 1 := ⟨_, rfl, rfl⟩
  obtain ⟨l, hl, hsession⟩ := hrun
  exact ⟨l, hl, hsession, separate_of_failsVacant (.of_run hl (by decide +kernel))⟩

/-- The proxy closes the connection while a player is there. -/
theorem not_separate : ¬ ∀ (as : List (LoopAction Unit)) (l : ConnectionLoop Unit),
    Lts.run step init as = some l → Separate l := by
  intro h
  have hseparate := h [.attempt (.ok ()), .setResult, .event (.next (some (.ok (.proxyJoin 0))) () true 0),
    .event (.next none () true 0), .setError, .attempt (.ok ())] _ rfl
  have hvacant := (hseparate.starts rfl).1 0
  exact absurd hvacant (by decide)

/-! ### The counter over the sessions -/

/-- After the step, if it can happen, the counter is the number of connections, and so is every number that
was reported by it. -/
def Counts (l : ConnectionLoop Tx) (a : LoopAction Tx) : Prop :=
  ∀ l', l.step a = some l' → l'.client.Counted ∧ l.client.Reports l'.client

/-- A `ProxyJoin` comes only for an id whose slot is free, or that has none. -/
def JoinsFree (l : ConnectionLoop Tx) (a : LoopAction Tx) : Prop :=
  ∀ e writerEnded, a = .event e → l.phase = .handling writerEnded →
    l.client.overwrites (e.map (l.session, ·)) = false

instance (l : ConnectionLoop Tx) (a : LoopAction Tx) : Decidable (l.JoinsFree a) :=
  match a, hp : l.phase with
  | .event e, .handling writerEnded =>
    decidable_of_iff (l.client.overwrites (e.map (l.session, ·)) = false)
      ⟨fun h _ _ he _ => by cases he; exact h, fun h => h e writerEnded rfl hp⟩
  | .event _, .connecting | .event _, .attempted _ | .event _, .handled _ | .event _, .ended =>
    isTrue fun _ _ _ h => by rw [hp] at h; cases h
  | .attempt _, _ | .setResult, _ | .writerEnds, _ | .setError, _ => isTrue fun _ _ h => nomatch h

theorem counts_iff (h : l.client.Counted) : Counts l a ↔ JoinsFree l a := by
  constructor
  · rintro hc e writerEnded rfl hp
    cases ho : l.client.overwrites (e.map (l.session, ·)) with
    | false => rfl
    | true =>
      have hpossible : e.possible writerEnded = true := by
        cases e with
        | next result clientTx sent time => rfl
        | _ => cases ho
      have hstep : l.step (.event e) = some (l.handle writerEnded e) := by
        simp only [step, hp, hpossible, if_true]
      exact ho.symm.trans (Client.overwrites_of_counted_readerHandler h (hc _ hstep).1)
  · intro hj l' hs
    rcases step_eq_some hs with ⟨result, -, -, rfl⟩ | ⟨-, -, rfl⟩ | ⟨e, -, -, rfl⟩ | ⟨-, -, rfl⟩ |
      ⟨e, writerEnded, rfl, hp, -, rfl⟩ | ⟨err, -, -, rfl⟩
    · cases result with
      | ok u => exact ⟨h, .of_append rfl fun _ hn => by cases hn⟩
      | error e => exact ⟨h, .of_eq rfl⟩
    · exact ⟨h, .of_eq rfl⟩
    · exact ⟨h, .of_eq rfl⟩
    · exact ⟨h, .of_eq rfl⟩
    · exact h.readerHandler (hj e writerEnded rfl hp)
    · exact ⟨h, .of_eq rfl⟩

/-- In every run of `reader_handler` from a counter that is right, and over all the sessions of a new client:
the counter and the reports are right after every step if and only if every `ProxyJoin` came for an id that
was free. -/
theorem connectionsLen_counts_iff :
    (∀ (r : Reader Tx) (es : List (ReaderEvent Tx)), r.client.Counted →
      (Lts.Meets Reader.step Reader.Counts r es ↔ Lts.Meets Reader.step Reader.JoinsFree r es)) ∧
    ∀ as : List (LoopAction Tx), Lts.Meets step Counts init as ↔ Lts.Meets step JoinsFree init as := by
  refine ⟨fun r es h => Reader.meets_counts_iff es h, fun as => ?_⟩
  exact Lts.Meets.congr_of_invariant counts_iff (fun _ hc hs => (hc _ hs).1) as Client.counted_new

/-- Players 0 and 1 are there, player 0 leaves and another gets id 0; when the proxy has closed the connection,
and the client connects again, a third player gets id 2. -/
def joinAndReconnect : List (LoopAction Unit) :=
  let packet := fun packet : SocketPacket => .event (.next (some (.ok packet)) () true 0)
  [.attempt (.ok ()), .setResult, packet (.proxyJoin 0), packet (.proxyJoin 1), packet (.proxyDisconnect 0),
    packet (.proxyJoin 0), .event (.next none () true 0), .setError, .attempt (.ok ()), .setResult,
    packet (.proxyJoin 2)]

theorem counts_joinAndReconnect : Lts.Meets step Counts init joinAndReconnect ∧
    (Lts.run step init joinAndReconnect).map (fun l => (l.client.connectionsLen, l.session)) = some (3, 2) :=
  ⟨(connectionsLen_counts_iff.2 joinAndReconnect).2 (by decide +kernel), rfl⟩

end ConnectionLoop
end CraftIP
