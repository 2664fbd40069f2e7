import CraftIP.Lib.Lts
import CraftIP.Lib.Outbox
import CraftIP.PacketCodec
import CraftIP.ProxyHandler

/-!
# `handle_writer`

The loop that turns the messages of the players' tasks and of `handle_reader` into frames for the proxy
client, on its own: any message may arrive at any time, and `handle_reader` may take the distributor
between any two steps. A function that has returned takes part in nothing (`ended`).
-/

namespace CraftIP
open SocketPacket PacketCodec

namespace HandleWriter
variable {IdTx Tx : Type}

/-- The `match` on a message: the distributor after it, and the packet to send, if any; `none` where the
function returns. `idTaken`: the receiver of the id is there. -/
def respond (distributor : Distributor Tx) (idTaken : Bool) :
    ClientToProxy IdTx Tx → Distributor Tx × Option (Option SocketPacket)
  | .addMinecraftClient _ tx =>
    match distributor.insert tx with
    | .error _ => (distributor, none)
    | .ok (clientId, distributor) => (distributor, if idTaken then some (some (.proxyJoin clientId)) else none)
  | .packet id pkg => (distributor, some (some (.proxyData ⟨id, pkg⟩)))
  | .answerPingPacket ping => (distributor, some (some (.proxyPong ping)))
  | .removeMinecraftClient id =>
    let (existed, distributor) := distributor.removeById id
    (distributor, some (if existed then some (.proxyDisconnect id) else none))

/-- The answer does not depend on the receiver of the id, where there is one. -/
theorem respond_true {distributor left : Distributor Tx} {idTaken : Bool} {packet : ClientToProxy IdTx Tx}
    {resp : Option SocketPacket} (h : respond distributor idTaken packet = (left, some resp)) :
    respond distributor true packet = (left, some resp) := by
  cases idTaken with
  | true => exact h
  | false =>
    cases packet with
    | addMinecraftClient idSender tx =>
      rw [respond] at h
      split at h
      · cases h
      · cases h
    | _ => exact h

/-- A message that was worked off: the distributor that its `match` found and the one it left, and what
was to be sent. -/
structure Handled (IdTx Tx : Type) where
  packet : ClientToProxy IdTx Tx
  distributor : Distributor Tx
  left : Distributor Tx
  resp : Option SocketPacket
  responds : respond distributor true packet = (left, some resp)

def Handled.bytes (B : Bincode) (h : Handled IdTx Tx) : List UInt8 :=
  match h.resp with
  | some packet => frame B packet
  | none => []

/-- Where the loop is; `handling` and `feed` are in the inner loop, with the packet it carries. -/
inductive Pc (IdTx Tx : Type) where
  | recv
  | handling (packet : ClientToProxy IdTx Tx)
  | feed (handled : Handled IdTx Tx) (packet : SocketPacket) (h : handled.resp = some packet)
  | tryRecv
  | flush
  | ended

def Pc.phase : Pc IdTx Tx → Outbox.Phase (ClientToProxy IdTx Tx)
  | .recv => .waiting
  | .handling packet => .busy (some packet)
  | .feed handled _ _ => .busy (some handled.packet)
  | .tryRecv => .busy none
  | .flush => .busy none
  | .ended => .ended

theorem Pc.phase_eq_waiting {pc : Pc IdTx Tx} : pc.phase = .waiting ↔ pc = .recv := by
  cases pc <;> simp [phase]

structure State (IdTx Tx : Type) where
  pc : Pc IdTx Tx
  distributor : Distributor Tx
  outbox : Outbox (ClientToProxy IdTx Tx) (Handled IdTx Tx) UInt8

def State.view (s : State IdTx Tx) :
    Outbox.Phase (ClientToProxy IdTx Tx) × Outbox (ClientToProxy IdTx Tx) (Handled IdTx Tx) UInt8 :=
  (s.pc.phase, s.outbox)

def init : State IdTx Tx := ⟨.recv, .default, .empty⟩

/-- `send` is a sender's, `removeById` is `handle_reader`'s, `write` the socket's doing. -/
inductive Action (IdTx Tx : Type) where
  | send (m : ClientToProxy IdTx Tx)
  | removeById (id : ClientID)
  | write (n : Nat)
  | take
  | handle (idTaken : Bool)
  | feed
  | empty
  | flushed
  | closed
  | fails
deriving DecidableEq, Repr

def Action.sent? : Action IdTx Tx → Option (ClientToProxy IdTx Tx)
  | .send m => some m
  | _ => none

def step (B : Bincode) (s : State IdTx Tx) : Action IdTx Tx → Option (State IdTx Tx)
  | .send m => some { s with outbox := s.outbox.arrive m }
  | .removeById id => some { s with distributor := (s.distributor.removeById id).2 }
  | .write n => some { s with outbox := s.outbox.write n }
  | .take =>
    match s.pc, s.outbox.queue with
    | .recv, packet :: _ => some { s with pc := .handling packet, outbox := s.outbox.take }
    | .tryRecv, packet :: _ => some { s with pc := .handling packet, outbox := s.outbox.take }
    | _, _ => none
  | .handle idTaken =>
    match s.pc with
    | .handling packet =>
      match h : respond s.distributor idTaken packet with
      | (distributor, none) => some { s with pc := .ended, distributor }
      | (distributor, some none) =>
        some {
          pc := .tryRecv
          distributor
          outbox := s.outbox.finish ⟨packet, s.distributor, distributor, none, respond_true h⟩ [] }
      | (distributor, some (some resp)) =>
        some { s with
          pc := .feed ⟨packet, s.distributor, distributor, some resp, respond_true h⟩ resp rfl
          distributor }
    | _ => none
  | .feed =>
    match s.pc with
    | .feed handled packet _ =>
      match encode B packet s.outbox.sink.buffered with
      | .ok buffered =>
        some { s with
          pc := .tryRecv
          outbox := { s.outbox with
            done := s.outbox.done ++ [handled]
            sink := { s.outbox.sink with buffered } } }
      | .error _ => some { s with pc := .ended }
    | _ => none
  | .empty =>
    match s.pc, s.outbox.queue with
    | .tryRecv, [] => some { s with pc := .flush }
    | _, _ => none
  | .flushed =>
    match s.pc, s.outbox.sink.buffered with
    | .flush, [] => some { s with pc := .recv }
    | _, _ => none
  | .closed =>
    match s.pc, s.outbox.queue with
    | .recv, [] => some { s with pc := .ended }
    | _, _ => none
  | .fails => some { s with pc := .ended }

variable {B : Bincode} {s s' : State IdTx Tx}

theorem handle_outbox {idTaken : Bool} (hs : step B s (.handle idTaken) = some s') :
    Outbox.Step Handled.packet (Handled.bytes B) none s.view s'.view := by
  simp only [step] at hs
  split at hs
  · next packet hpc =>
    rw [State.view, hpc]
    split at hs
    · cases hs; exact .stop
    · next he => cases hs; exact .finish (Handled.mk packet s.distributor _ none (respond_true he))
    · cases hs; exact .stay
  · cases hs

theorem feed_outbox (hs : step B s .feed = some s') :
    Outbox.Step Handled.packet (Handled.bytes B) none s.view s'.view := by
  simp only [step] at hs
  split at hs
  · next handled packet hresp hpc =>
    rw [State.view, hpc]
    split at hs
    · next buffered he =>
      cases hs
      have hbytes : handled.bytes B = frame B packet := by rw [Handled.bytes, hresp]
      have hbuf : s.outbox.sink.put (handled.bytes B) = { s.outbox.sink with buffered } := by
        rw [Sink.put, hbytes, encode_eq_ok he]
      have hfin : Outbox.Step Handled.packet (Handled.bytes B) none (.busy (some handled.packet), s.outbox) _ :=
        .finish handled
      rw [Outbox.finish, hbuf] at hfin
      exact hfin
    · cases hs; exact .stop
  · cases hs

/-- Every step of `handle_writer` is one of the loop of an outbox. -/
theorem step_outbox {a : Action IdTx Tx} (hs : step B s a = some s') :
    Outbox.Step Handled.packet (Handled.bytes B) a.sent? s.view s'.view := by
  cases a with
  | send m => cases hs; exact .arrive m
  | removeById id => cases hs; exact .stay
  | write n => cases hs; exact .write n
  | take =>
    simp only [step] at hs
    split at hs
    · next hpc hq => cases hs; rw [State.view, hpc]; exact .takeWaiting hq
    · next hpc hq => cases hs; rw [State.view, hpc]; exact .takeBusy hq
    · cases hs
  | handle idTaken => exact handle_outbox hs
  | feed => exact feed_outbox hs
  | empty =>
    simp only [step] at hs
    split at hs
    · next hpc _ => cases hs; rw [State.view, hpc]; exact .stay
    · cases hs
  | flushed =>
    simp only [step] at hs
    split at hs
    · next hpc hb => cases hs; rw [State.view, hpc]; exact .wait hb
    · cases hs
  | closed =>
    simp only [step] at hs
    split at hs
    · cases hs; exact .stop
    · cases hs
  | fails => cases hs; exact .stop

/-- Whenever `handle_writer` waits for a message, it is settled. -/
theorem settled {as : List (Action IdTx Tx)} (h : Lts.run (step B) init as = some s) (hpc : s.pc = .recv) :
    s.outbox.Settled Handled.packet (Handled.bytes B) (as.filterMap Action.sent?) := by
  have hpath := Outbox.Path.of_run State.view Action.sent? .waiting (fun _ _ _ _ hs => step_outbox hs) h
  rw [State.view, hpc] at hpath
  exact hpath.settled

/-! ### The distributors of the messages -/

/-- The messages met the distributor one after the other, and between them ids were only removed. -/
inductive Served : List (Handled IdTx Tx) → Distributor Tx → Prop
  | init : Served [] .default
  | removeById {l d} (id : ClientID) (h : Served l d) : Served l (d.removeById id).2
  | handle {l} (handled : Handled IdTx Tx) (h : Served l handled.distributor) :
    Served (l ++ [handled]) handled.left

/-- What is handled but not yet fed. -/
def Pc.feeding : Pc IdTx Tx → List (Handled IdTx Tx)
  | .feed handled _ _ => [handled]
  | _ => []

def Serving (s : State IdTx Tx) : Prop :=
  s.pc ≠ .ended → Served (s.outbox.done ++ s.pc.feeding) s.distributor

theorem serving_init : Serving (init : State IdTx Tx) := fun _ => .init

/-- A step to where nothing waits to be fed. -/
theorem Serving.of_done {d : Distributor Tx} (h : Served s.outbox.done d) (hd : s.distributor = d)
    (hf : s.pc.feeding = []) : Serving s := fun _ => by
  rw [hf, List.append_nil, hd]
  exact h

theorem Serving.done (h : Serving s) (hne : s.pc ≠ .ended) (hf : s.pc.feeding = []) :
    Served s.outbox.done s.distributor := by
  have hs := h hne
  rw [hf, List.append_nil] at hs
  exact hs

theorem Serving.handle (h : Serving s) {idTaken : Bool} (hs : step B s (.handle idTaken) = some s') :
    Serving s' := by
  simp only [step] at hs
  split at hs
  · next packet hpc =>
    have hdone := h.done (by simp [hpc]) (by rw [hpc]; rfl)
    split at hs
    · cases hs; exact fun hne => absurd rfl hne
    · next he =>
      cases hs
      exact .of_done (.handle (Handled.mk packet s.distributor _ none (respond_true he)) hdone) rfl rfl
    · next resp he =>
      cases hs
      exact fun _ => .handle (Handled.mk packet s.distributor _ (some resp) (respond_true he)) hdone
  · cases hs

theorem Serving.feed (h : Serving s) (hs : step B s .feed = some s') : Serving s' := by
  simp only [step] at hs
  split at hs
  · next handled packet hresp hpc =>
    have hserved := h (by simp [hpc])
    rw [hpc] at hserved
    split at hs
    · cases hs; exact .of_done hserved rfl rfl
    · cases hs; exact fun hne => absurd rfl hne
  · cases hs

theorem Serving.step {a : Action IdTx Tx} (h : Serving s) (hs : step B s a = some s') : Serving s' := by
  cases a with
  | send m => cases hs; exact h
  | removeById id => cases hs; exact fun hne => (h hne).removeById id
  | write n => cases hs; exact h
  | handle idTaken => exact h.handle hs
  | feed => exact h.feed hs
  | take =>
    simp only [HandleWriter.step] at hs
    split at hs
    · next hpc _ =>
      cases hs
      exact .of_done (h.done (by simp [hpc]) (by rw [hpc]; rfl)) rfl rfl
    · next hpc _ =>
      cases hs
      exact .of_done (h.done (by simp [hpc]) (by rw [hpc]; rfl)) rfl rfl
    · cases hs
  | empty =>
    simp only [HandleWriter.step] at hs
    split at hs
    · next hpc _ =>
      cases hs
      exact .of_done (h.done (by simp [hpc]) (by rw [hpc]; rfl)) rfl rfl
    · cases hs
  | flushed =>
    simp only [HandleWriter.step] at hs
    split at hs
    · next hpc _ =>
      cases hs
      exact .of_done (h.done (by simp [hpc]) (by rw [hpc]; rfl)) rfl rfl
    · cases hs
  | closed =>
    simp only [HandleWriter.step] at hs
    split at hs
    · cases hs; exact fun hne => absurd rfl hne
    · cases hs
  | fails => cases hs; exact fun hne => absurd rfl hne

/-- Each message that was worked off met the distributor that the messages before it and `handle_reader`
had left. -/
theorem served {as : List (Action IdTx Tx)} (h : Lts.run (HandleWriter.step B) init as = some s)
    (hpc : s.pc = .recv) : Served s.outbox.done s.distributor := by
  have hserving : Serving s :=
    Lts.run_invariant (I := fun _ s => Serving s) serving_init (fun _ h hs => h.step hs) h
  exact hserving.done (by simp [hpc]) (by rw [hpc]; rfl)

end HandleWriter
end CraftIP
