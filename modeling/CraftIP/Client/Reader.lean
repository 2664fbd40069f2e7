import CraftIP.Client
import CraftIP.Lib.Lts
import CraftIP.PacketCodec
import CraftIP.Register

/-!
# The client's reader (`client/src/client.rs`)

`reader_handler` on its own: whatever the server sends, whatever comes over `disconnect_rx` and whichever
sends fail. `connections_len` is kept beside the table of connections. Once it counts the table, it does so as
long as no `ProxyJoin` comes for an id whose slot is taken (`Reader.meets_counts_iff`).
-/

namespace CraftIP

/-- What ends `reader_handler` with an error. -/
inductive HandleError where
  | processing (e : PacketCodecError)
  | proxyClosed
  | sendTo (e : DistributorError)
  | unexpectedMessage (packet : SocketPacket)
  | pingNotSent
  | timedOut
deriving DecidableEq, Repr

/-- What the `select!` of `reader_handler` goes on with. `next` also says which channel a new connection
gets, whether a send on a connection's channel succeeds, and the time. -/
inductive ReaderEvent (Tx : Type) where
  | next (result : Option (Except PacketCodecError SocketPacket)) (clientTx : Tx) (sent : Bool) (time : UInt16)
  | disconnect (id : Option ClientID)
  | ping (sent : Bool)
  | timeout

namespace Client
variable {Tx : Type}

def sendTo (c : Client Tx) (id : ClientID) (sent : Bool) : Except DistributorError (Client Tx) :=
  match c.connection id with
  | none => .error .clientNotFound
  | some _ => .ok (if sent then c else c.removeConnection id)

/-- One round of `reader_handler`, and what it returns if it does. -/
def readerHandler (c : Client Tx) : ReaderEvent Tx → Client Tx × Option (Except HandleError Unit)
  | .next result clientTx sent time =>
    match result with
    | some (.error e) => (c, some (.error (.processing e)))
    | none => (c, some (.error .proxyClosed))
    | some (.ok msg) =>
      match msg with
      | .proxyJoin clientId => (c.addConnection clientId clientTx, none)
      | .proxyData packet =>
        match c.sendTo packet.clientId sent with
        | .ok c => (c, none)
        | .error e => (c, some (.error (.sendTo e)))
      | .proxyDisconnect clientId => (c.removeConnection clientId, none)
      | .proxyPong ping => ({ c with stats := c.stats ++ [.ping (if ping ≤ time then time - ping else 0)] }, none)
      | e => (c, some (.error (.unexpectedMessage e)))
  | .disconnect (some id) => (c.removeConnection id, none)
  | .disconnect none => (c, some (.ok ()))
  | .ping true => (c, none)
  | .ping false => (c, some (.error .pingNotSent))
  | .timeout => (c, some (.error .timedOut))

end Client

/-- `reader_handler`, and what it has returned. -/
structure Reader (Tx : Type) where
  client : Client Tx
  result : Option (Except HandleError Unit)

namespace Reader
variable {Tx : Type}

def init : Reader Tx := ⟨.new, none⟩

def step (r : Reader Tx) (e : ReaderEvent Tx) : Option (Reader Tx) :=
  match r.result with
  | some _ => none
  | none => some ⟨(r.client.readerHandler e).1, (r.client.readerHandler e).2⟩

end Reader

/-! ### Ends and connections -/

namespace Client
variable {Tx : Type} {c : Client Tx}

/-- The event ends `reader_handler` with an error. -/
def fails (c : Client Tx) : ReaderEvent Tx → Bool
  | .next (some (.ok msg)) _ _ _ =>
    match msg with
    | .proxyJoin _ | .proxyDisconnect _ | .proxyPong _ => false
    | .proxyData packet => (c.connection packet.clientId).isNone
    | _ => true
  | .next _ _ _ _ => true
  | .disconnect _ => false
  | .ping sent => !sent
  | .timeout => true

/-- Such an event leaves the connections as they are. -/
theorem fails_of_readerHandler {e : ReaderEvent Tx} {err : HandleError}
    (h : (c.readerHandler e).2 = some (.error err)) : c.fails e = true ∧ (c.readerHandler e).1 = c := by
  cases e with
  | next result clientTx sent time =>
    match result with
    | none => exact ⟨rfl, rfl⟩
    | some (.error e) => exact ⟨rfl, rfl⟩
    | some (.ok msg) =>
      cases msg with
      | proxyJoin id => cases h
      | proxyData packet =>
        simp only [Client.readerHandler, Client.sendTo, fails] at h ⊢
        cases hc : c.connection packet.clientId with
        | none => exact ⟨rfl, rfl⟩
        | some tx => rw [hc] at h; cases h
      | proxyDisconnect id => cases h
      | proxyPong ping => cases h
      | _ => exact ⟨rfl, rfl⟩
  | disconnect id => cases id <;> cases h
  | ping sent =>
    cases sent
    · exact ⟨rfl, rfl⟩
    · cases h
  | timeout => exact ⟨rfl, rfl⟩

/-- Without an error `reader_handler` returns only when `disconnect_rx` is closed. -/
theorem eq_disconnect_of_readerHandler {e : ReaderEvent Tx} {u : Unit}
    (h : (c.readerHandler e).2 = some (.ok u)) : e = .disconnect none := by
  cases e with
  | next result clientTx sent time =>
    match result with
    | none => cases h
    | some (.error e) => cases h
    | some (.ok msg) =>
      cases msg with
      | proxyData packet =>
        simp only [Client.readerHandler, Client.sendTo] at h
        cases hc : c.connection packet.clientId with
        | none => rw [hc] at h; cases h
        | some tx => rw [hc] at h; cases h
      | _ => cases h
  | disconnect id =>
    cases id with
    | none => rfl
    | some id => cases h
  | ping sent => cases sent <;> cases h
  | timeout => cases h

theorem readerHandler_of_fails {e : ReaderEvent Tx} (h : c.fails e = true) :
    ∃ err, (c.readerHandler e).2 = some (.error err) ∧ (c.readerHandler e).1 = c := by
  suffices hr : ∃ err, (c.readerHandler e).2 = some (.error err) by
    obtain ⟨err, herr⟩ := hr
    exact ⟨err, herr, (fails_of_readerHandler herr).2⟩
  cases e with
  | next result clientTx sent time =>
    match result with
    | none => exact ⟨_, rfl⟩
    | some (.error e) => exact ⟨_, rfl⟩
    | some (.ok msg) =>
      cases msg with
      | proxyJoin id => cases h
      | proxyData packet =>
        simp only [Client.readerHandler, Client.sendTo, Option.isNone_iff_eq_none.1 h]
        exact ⟨_, rfl⟩
      | proxyDisconnect id => cases h
      | proxyPong ping => cases h
      | _ => exact ⟨_, rfl⟩
  | disconnect id => cases h
  | ping sent =>
    cases sent
    · exact ⟨_, rfl⟩
    · cases h
  | timeout => exact ⟨_, rfl⟩

theorem of_connection_removeConnection {id id' : ClientID} {tx : Tx}
    (h : (c.removeConnection id).connection id' = some tx) : c.connection id' = some tx := by
  rw [connection_removeConnection] at h
  split at h
  · cases h
  · exact h

/-- A connection was there before the event, or is the one that the event brings. -/
theorem of_connection_readerHandler {e : ReaderEvent Tx} {id : ClientID} {tx : Tx}
    (h : (c.readerHandler e).1.connection id = some tx) :
    c.connection id = some tx ∨ ∃ result sent time, e = .next result tx sent time := by
  cases e with
  | next result clientTx sent time =>
    match result with
    | none => exact .inl h
    | some (.error e) => exact .inl h
    | some (.ok msg) =>
      cases msg with
      | proxyJoin id' =>
        rw [Client.readerHandler, connection_addConnection] at h
        split at h
        · cases h; exact .inr ⟨_, _, _, rfl⟩
        · exact .inl h
      | proxyData packet =>
        simp only [Client.readerHandler, Client.sendTo] at h
        cases hc : c.connection packet.clientId with
        | none => rw [hc] at h; exact .inl h
        | some tx' =>
          rw [hc] at h
          cases sent
          · exact .inl (of_connection_removeConnection h)
          · exact .inl h
      | proxyDisconnect id' => exact .inl (of_connection_removeConnection h)
      | _ => exact .inl h
  | disconnect id' =>
    cases id' with
    | none => exact .inl h
    | some id' => exact .inl (of_connection_removeConnection h)
  | ping sent => cases sent <;> exact .inl h
  | timeout => exact .inl h

end Client

/-! ### The counter -/

namespace Client
variable {Tx : Type} {c : Client Tx}

/-- The counter is the number of connections. -/
def Counted (c : Client Tx) : Prop := c.connectionsLen = c.connections.count

/-- What was sent as stats between the two states is the number of connections after it. -/
def Reports (c c' : Client Tx) : Prop :=
  ∀ stats n, c'.stats = c.stats ++ stats → .clientsConnected n ∈ stats → n = c'.connections.count

/-- The event is a `ProxyJoin` for an id whose entry is occupied. -/
def overwrites (c : Client Tx) : ReaderEvent Tx → Bool
  | .next (some (.ok (.proxyJoin id))) _ _ _ => (c.connection id).isSome
  | _ => false

theorem counted_new : Counted (new : Client Tx) := Slots.count_empty.symm

theorem Reports.of_append {stat : Stats} {c' : Client Tx} (h : c'.stats = c.stats ++ [stat])
    (hn : ∀ n, stat = .clientsConnected n → n = c'.connections.count) : Reports c c' := by
  intro stats n hs hmem
  obtain rfl := List.append_cancel_left (h.symm.trans hs)
  exact hn n (List.mem_singleton.1 hmem).symm

theorem Reports.of_eq {c' : Client Tx} (h : c'.stats = c.stats) : Reports c c' := by
  intro stats n hs hmem
  obtain rfl := List.self_eq_append_right.1 (h.symm.trans hs)
  cases hmem

/-- After `addConnection` the counter is right exactly when the slot was free or is none. -/
theorem counted_addConnection_iff (h : Counted c) (id : ClientID) (tx : Tx) :
    Counted (c.addConnection id tx) ↔ c.connection id = none := by
  rw [Counted] at h
  by_cases hid : id.toNat < MAXIMUM_CLIENTS
  · have hcount := Slots.count_put (t := c.connections) hid tx
    have hle : c.connections.count ≤ 255 := c.connections.count_le
    simp only [Counted, addConnection, if_pos hid, hcount, connection]
    split
    · next hsome =>
      refine ⟨fun he => by omega, fun hnone => ?_⟩
      rw [hnone] at hsome; cases hsome
    · next hnone => exact ⟨fun _ => Option.not_isSome_iff_eq_none.1 hnone, fun _ => by omega⟩
  · have hle := Nat.le_of_not_lt hid
    simp only [Counted, addConnection, if_neg hid, Slots.count_put_of_le hle, connection,
      Slots.get_eq_none_of_le hle, h]

theorem reports_addConnection {id : ClientID} {tx : Tx} (h : Counted (c.addConnection id tx)) :
    Reports c (c.addConnection id tx) :=
  .of_append rfl fun _ hn => (Stats.clientsConnected.inj hn).symm.trans h

theorem Counted.removeConnection (h : Counted c) (id : ClientID) :
    Counted (c.removeConnection id) ∧ Reports c (c.removeConnection id) := by
  rw [Client.removeConnection]
  split
  · exact ⟨h, .of_eq rfl⟩
  · next hnot =>
    have hcounted : (if id.toNat < MAXIMUM_CLIENTS then c.connectionsLen - 1 else c.connectionsLen) =
        (c.connections.clear id.toNat).count := by
      rw [Counted] at h
      by_cases hid : id.toNat < MAXIMUM_CLIENTS
      · obtain ⟨tx, htx⟩ := Option.ne_none_iff_exists'.1 fun hnone => hnot ⟨hid, hnone⟩
        rw [if_pos hid, Slots.count_clear htx, h]
      · rw [if_neg hid, Slots.count_clear_of_le (Nat.le_of_not_lt hid), h]
    exact ⟨hcounted, .of_append rfl fun _ hn => (Stats.clientsConnected.inj hn).symm.trans hcounted⟩

/-- One round of `reader_handler` keeps the counter when the id of a `ProxyJoin` is free. -/
theorem Counted.readerHandler {e : ReaderEvent Tx} (h : Counted c) (hfree : c.overwrites e = false) :
    Counted (c.readerHandler e).1 ∧ Reports c (c.readerHandler e).1 := by
  have hsame : Counted c ∧ Reports c c := ⟨h, .of_eq rfl⟩
  cases e with
  | next result clientTx sent time =>
    match result with
    | none => exact hsame
    | some (.error e) => exact hsame
    | some (.ok msg) =>
      cases msg with
      | proxyJoin id =>
        have hnone := Option.not_isSome_iff_eq_none.1 (Bool.eq_false_iff.1 hfree)
        have hcounted := (counted_addConnection_iff h id clientTx).2 hnone
        exact ⟨hcounted, reports_addConnection hcounted⟩
      | proxyData packet =>
        simp only [Client.readerHandler, Client.sendTo]
        cases c.connection packet.clientId with
        | none => exact hsame
        | some tx =>
          cases sent
          · exact h.removeConnection packet.clientId
          · exact hsame
      | proxyDisconnect id => exact h.removeConnection id
      | proxyPong ping => exact ⟨h, .of_append rfl fun _ hn => by cases hn⟩
      | _ => exact hsame
  | disconnect id =>
    cases id with
    | none => exact hsame
    | some id => exact h.removeConnection id
  | ping sent => cases sent <;> exact hsame
  | timeout => exact hsame

/-- It does not when the id is taken. -/
theorem overwrites_of_counted_readerHandler {e : ReaderEvent Tx} (h : Counted c)
    (h' : Counted (c.readerHandler e).1) : c.overwrites e = false := by
  cases e with
  | next result clientTx sent time =>
    match result with
    | none => rfl
    | some (.error e) => rfl
    | some (.ok msg) =>
      cases msg with
      | proxyJoin id => exact Option.isSome_eq_false_iff.2 (Option.isNone_iff_eq_none.2
          ((counted_addConnection_iff h id clientTx).1 h'))
      | _ => rfl
  | _ => rfl

end Client

namespace Reader
variable {Tx : Type} {r r' : Reader Tx} {e : ReaderEvent Tx}

/-- After the event, if it can happen, the counter is the number of connections, and so is every number
that was reported by it. -/
def Counts (r : Reader Tx) (e : ReaderEvent Tx) : Prop :=
  ∀ r', r.step e = some r' → r'.client.Counted ∧ r.client.Reports r'.client

/-- A `ProxyJoin` comes only for an id whose slot is free, or that has none. -/
def JoinsFree (r : Reader Tx) (e : ReaderEvent Tx) : Prop :=
  r.result = none → r.client.overwrites e = false

theorem step_eq_some (h : r.step e = some r') :
    r.result = none ∧ r' = ⟨(r.client.readerHandler e).1, (r.client.readerHandler e).2⟩ := by
  rw [step] at h
  split at h
  · cases h
  · next hr => cases h; exact ⟨hr, rfl⟩

theorem counts_iff (h : r.client.Counted) : Counts r e ↔ JoinsFree r e := by
  constructor
  · intro hc hr
    have hstep : r.step e = some ⟨(r.client.readerHandler e).1, (r.client.readerHandler e).2⟩ := by rw [step, hr]
    exact Client.overwrites_of_counted_readerHandler h (hc _ hstep).1
  · intro hj r' hs
    obtain ⟨hr, rfl⟩ := step_eq_some hs
    exact h.readerHandler (hj hr)

/-- In every run from a counter that is right, the counter and the reports are right after every event if and
only if every `ProxyJoin` came for an id that was free. -/
theorem meets_counts_iff (es : List (ReaderEvent Tx)) (h : r.client.Counted) :
    Lts.Meets step Counts r es ↔ Lts.Meets step JoinsFree r es :=
  Lts.Meets.congr_of_invariant counts_iff (fun _ hc hs => (hc _ hs).1) es h

/-- Two joins of id 0, and nothing else. -/
theorem connectionsLen_miscounts :
    ¬ ∀ es : List (ReaderEvent Nat), Lts.Meets Reader.step Counts init es := by
  intro h
  obtain ⟨hfirst, hnext⟩ := h
    [.next (some (.ok (.proxyJoin 0))) 0 true 0, .next (some (.ok (.proxyJoin 0))) 1 true 0]
  have hcounted := (hfirst _ rfl).1
  have hfree : ((Client.new : Client Nat).addConnection 0 0).connection 0 = none :=
    (Client.counted_addConnection_iff hcounted 0 1).1 ((hnext _ rfl).1 _ rfl).1
  rw [Client.connection_addConnection, if_pos ⟨rfl, by decide⟩] at hfree
  cases hfree

end Reader
end CraftIP
