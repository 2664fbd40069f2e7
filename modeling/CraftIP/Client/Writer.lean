import CraftIP.Lib.Outbox
import CraftIP.Session

/-!
# `writer_handler`

The client's loop that turns the messages of its backend connections and of `reader_handler` into frames
for the server, on its own: any message may arrive at any time. It looks for a message before it flushes
and before it waits, so it starts with neither.
-/

namespace CraftIP
open SocketPacket PacketCodec

namespace WriterHandler

/-- The `match` on a message: the packet to send; `none` where the function returns. `readerThere`: the
receiver of the disconnects is there. -/
def respond (readerThere : Bool) : BackendToProxy → Option SocketPacket
  | .packet id pkg => some (.proxyData ⟨id, pkg⟩)
  | .removeMinecraftClient id => if readerThere then some (.proxyDisconnect id) else none
  | .death _ => none
  | .ping ping => some (.proxyPing ping)

/-- What goes to `disconnect_tx` for a message. -/
def disconnect : BackendToProxy → List ClientID
  | .removeMinecraftClient id => [id]
  | _ => []

theorem respond_true {readerThere : Bool} {pkg : BackendToProxy} {packet : SocketPacket}
    (h : respond readerThere pkg = some packet) : respond true pkg = some packet := by
  cases readerThere with
  | true => exact h
  | false =>
    cases pkg with
    | removeMinecraftClient id => cases h
    | _ => exact h

/-- A message that was worked off, with the packet that the `match` made of it. -/
structure Handled where
  pkg : BackendToProxy
  packet : SocketPacket
  responds : respond true pkg = some packet

def Handled.bytes (B : Bincode) (h : Handled) : List UInt8 := frame B h.packet

/-- Where the loop is. -/
inductive Pc where
  | tryRecv
  | flush
  | recv
  | handling (pkg : BackendToProxy)
  | feed (handled : Handled)
  | ended

def Pc.phase : Pc → Outbox.Phase BackendToProxy
  | .tryRecv => .busy none
  | .flush => .busy none
  | .recv => .waiting
  | .handling pkg => .busy (some pkg)
  | .feed handled => .busy (some handled.pkg)
  | .ended => .ended

theorem Pc.phase_eq_waiting {pc : Pc} : pc.phase = .waiting ↔ pc = .recv := by
  cases pc <;> simp [phase]

structure State where
  pc : Pc
  disconnectTx : List ClientID
  outbox : Outbox BackendToProxy Handled UInt8

def State.view (s : State) : Outbox.Phase BackendToProxy × Outbox BackendToProxy Handled UInt8 :=
  (s.pc.phase, s.outbox)

def init : State := ⟨.tryRecv, [], .empty⟩

/-- `send` is a sender's, `write` the socket's doing. -/
inductive Action where
  | send (m : BackendToProxy)
  | write (n : Nat)
  | take
  | handle (readerThere : Bool)
  | feed
  | empty
  | flushed
  | closed
  | fails
deriving DecidableEq, Repr

def Action.sent? : Action → Option BackendToProxy
  | .send m => some m
  | _ => none

def step (B : Bincode) (s : State) : Action → Option State
  | .send m => some { s with outbox := s.outbox.arrive m }
  | .write n => some { s with outbox := s.outbox.write n }
  | .take =>
    match s.pc, s.outbox.queue with
    | .tryRecv, pkg :: _ => some { s with pc := .handling pkg, outbox := s.outbox.take }
    | .recv, pkg :: _ => some { s with pc := .handling pkg, outbox := s.outbox.take }
    | _, _ => none
  | .handle readerThere =>
    match s.pc with
    | .handling pkg =>
      match h : respond readerThere pkg with
      | none => some { s with pc := .ended }
      | some packet =>
        some { s with pc := .feed ⟨pkg, packet, respond_true h⟩, disconnectTx := s.disconnectTx ++ disconnect pkg }
    | _ => none
  | .feed =>
    match s.pc with
    | .feed handled =>
      match encode B handled.packet s.outbox.sink.buffered with
      | .ok buffered =>
        some { s with
          pc := .tryRecv
          outbox := { s.outbox with
            done := s.outbox.done ++ [handled]
            sink := { s.outbox.sink with buffered } } }
      | .error _ => some { s with pc := .ended }
    | _ => none
  | .empty =>
    match s.pc, s.outbox.queue with
    | .tryRecv, [] => some { s with pc := .flush }
    | _, _ => none
  | .flushed =>
    match s.pc, s.outbox.sink.buffered with
    | .flush, [] => some { s with pc := .recv }
    | _, _ => none
  | .closed =>
    match s.pc, s.outbox.queue with
    | .recv, [] => some { s with pc := .ended }
    | _, _ => none
  | .fails => some { s with pc := .ended }

variable {B : Bincode} {s s' : State}

theorem feed_outbox (hs : step B s .feed = some s') :
    Outbox.Step Handled.pkg (Handled.bytes B) none s.view s'.view := by
  simp only [step] at hs
  split at hs
  · next handled hpc =>
    rw [State.view, hpc]
    split at hs
    · next buffered he =>
      cases hs
      have hbuf : s.outbox.sink.put (handled.bytes B) = { s.outbox.sink with buffered } := by
        rw [Sink.put, Handled.bytes, encode_eq_ok he]
      have hfin : Outbox.Step Handled.pkg (Handled.bytes B) none (.busy (some handled.pkg), s.outbox) _ :=
        .finish handled
      rw [Outbox.finish, hbuf] at hfin
      exact hfin
    · cases hs; exact .stop
  · cases hs

/-- Every step of `writer_handler` is one of the loop of an outbox. -/
theorem step_outbox {a : Action} (hs : step B s a = some s') :
    Outbox.Step Handled.pkg (Handled.bytes B) a.sent? s.view s'.view := by
  cases a with
  | send m => cases hs; exact .arrive m
  | write n => cases hs; exact .write n
  | take =>
    simp only [step] at hs
    split at hs
    · next hpc hq => cases hs; rw [State.view, hpc]; exact .takeBusy hq
    · next hpc hq => cases hs; rw [State.view, hpc]; exact .takeWaiting hq
    · cases hs
  | handle readerThere =>
    simp only [step] at hs
    split at hs
    · next pkg hpc =>
      rw [State.view, hpc]
      split at hs
      · cases hs; exact .stop
      · cases hs; exact .stay
    · cases hs
  | feed => exact feed_outbox hs
  | empty =>
    simp only [step] at hs
    split at hs
    · next hpc _ => cases hs; rw [State.view, hpc]; exact .stay
    · cases hs
  | flushed =>
    simp only [step] at hs
    split at hs
    · next hpc hb => cases hs; rw [State.view, hpc]; exact .wait hb
    · cases hs
  | closed =>
    simp only [step] at hs
    split at hs
    · cases hs; exact .stop
    · cases hs
  | fails => cases hs; exact .stop

/-- Whenever `writer_handler` waits for a message, it is settled. -/
theorem settled {as : List Action} (h : Lts.run (step B) init as = some s) (hpc : s.pc = .recv) :
    s.outbox.Settled Handled.pkg (Handled.bytes B) (as.filterMap Action.sent?) := by
  have hpath := Outbox.Path.of_run State.view Action.sent? .busy (fun _ _ _ _ hs => step_outbox hs) h
  rw [State.view, hpc] at hpath
  exact hpath.settled

end WriterHandler
end CraftIP
