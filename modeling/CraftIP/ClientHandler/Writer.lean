import CraftIP.Lib.Lts
import CraftIP.Lib.Outbox
import CraftIP.SocketPacket

/-!
# `client_writer`

The loop that writes the packets of the proxy client to a player, on its own: any packet may arrive at
any time. A flush that fails is only logged, so the loop may go on with a full buffer.
-/

namespace CraftIP

namespace ClientWriter

/-- Where the loop is; `writeAll` is either of the two writes. -/
inductive Pc where
  | recv
  | writeAll (pkg : MinecraftDataPacket)
  | tryRecv
  | flush
  | ended
deriving DecidableEq, Repr

def Pc.phase : Pc → Outbox.Phase MinecraftDataPacket
  | .recv => .waiting
  | .writeAll pkg => .busy (some pkg)
  | .tryRecv => .busy none
  | .flush => .busy none
  | .ended => .ended

structure State where
  pc : Pc
  outbox : Outbox MinecraftDataPacket MinecraftDataPacket UInt8
deriving DecidableEq, Repr

def State.view (s : State) :
    Outbox.Phase MinecraftDataPacket × Outbox MinecraftDataPacket MinecraftDataPacket UInt8 :=
  (s.pc.phase, s.outbox)

def init : State := ⟨.recv, .empty⟩

/-- `send` is a sender's, `write` the socket's doing: what `write_all` has handed over leaves in any
portions. -/
inductive Action where
  | send (pkg : MinecraftDataPacket)
  | write (n : Nat)
  | take
  | writeAll
  | empty
  | flushed
  | flushFails
  | closed
  | fails
deriving DecidableEq, Repr

def Action.sent? : Action → Option MinecraftDataPacket
  | .send pkg => some pkg
  | _ => none

def step (s : State) : Action → Option State
  | .send pkg => some { s with outbox := s.outbox.arrive pkg }
  | .write n => some { s with outbox := s.outbox.write n }
  | .take =>
    match s.pc, s.outbox.queue with
    | .recv, pkg :: _ => some { pc := .writeAll pkg, outbox := s.outbox.take }
    | .tryRecv, pkg :: _ => some { pc := .writeAll pkg, outbox := s.outbox.take }
    | _, _ => none
  | .writeAll =>
    match s.pc with
    | .writeAll pkg => some { pc := .tryRecv, outbox := s.outbox.finish pkg pkg.bytes }
    | _ => none
  | .empty =>
    match s.pc, s.outbox.queue with
    | .tryRecv, [] => some { s with pc := .flush }
    | _, _ => none
  | .flushed =>
    match s.pc, s.outbox.sink.buffered with
    | .flush, [] => some { s with pc := .recv }
    | _, _ => none
  | .flushFails =>
    match s.pc with
    | .flush => some { s with pc := .recv }
    | _ => none
  | .closed =>
    match s.pc, s.outbox.queue with
    | .recv, [] => some { s with pc := .ended }
    | _, _ => none
  | .fails => some { s with pc := .ended }

variable {s s' : State}

/-- Every step of `client_writer` but a flush that fails is one of the loop of an outbox. -/
theorem step_outbox {a : Action} (hfail : a ≠ .flushFails) (hs : step s a = some s') :
    Outbox.Step id MinecraftDataPacket.bytes a.sent? s.view s'.view := by
  cases a with
  | send pkg => cases hs; exact .arrive pkg
  | write n => cases hs; exact .write n
  | take =>
    simp only [step] at hs
    split at hs
    · next hpc hq => cases hs; rw [State.view, hpc]; exact .takeWaiting hq
    · next hpc hq => cases hs; rw [State.view, hpc]; exact .takeBusy hq
    · cases hs
  | writeAll =>
    simp only [step] at hs
    split at hs
    · next pkg hpc => cases hs; rw [State.view, hpc]; exact .finish pkg
    · cases hs
  | empty =>
    simp only [step] at hs
    split at hs
    · next hpc _ => cases hs; rw [State.view, hpc]; exact .stay
    · cases hs
  | flushed =>
    simp only [step] at hs
    split at hs
    · next hpc hb => cases hs; rw [State.view, hpc]; exact .wait hb
    · cases hs
  | flushFails => exact absurd rfl hfail
  | closed =>
    simp only [step] at hs
    split at hs
    · cases hs; exact .stop
    · cases hs
  | fails => cases hs; exact .stop

/-- Whenever `client_writer` waits for a packet and no flush has failed, it is settled. -/
theorem settled {as : List Action} (hfail : .flushFails ∉ as) (h : Lts.run step init as = some s)
    (hpc : s.pc = .recv) : s.outbox.Settled id MinecraftDataPacket.bytes (as.filterMap Action.sent?) := by
  have hpath := Outbox.Path.of_run State.view Action.sent? .waiting
    (fun _ a ha _ hs => step_outbox (fun he => hfail (he ▸ ha)) hs) h
  rw [State.view, hpc] at hpath
  exact hpath.settled

end ClientWriter
end CraftIP
