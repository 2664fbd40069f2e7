import CraftIP.Server
import CraftIP.Session

/-!
# The server with its sessions

Every socket runs `process_socket_connection` (`Server`), and the proxy client of a socket serves a session
with its own client at the other end (`Session`). A Minecraft client is one socket: its first packet says which
session it is forwarded to, and its tasks run in that session. Sockets, sessions and their tasks take turns in
any order.
-/

namespace CraftIP
open Function (update)

/-- The receiver of the session's channel goes. -/
def Action.ends : Action → Bool
  | .handleWriterFails | .handleReaderEnds | .handleEnds => true
  | _ => false

/-- `handle` runs. -/
def SocketPhase.isServing : SocketPhase → Bool
  | .serving _ => true
  | _ => false

/-- `handle` is over, and `remove_server` is next. -/
def SocketPhase.isLeaving : SocketPhase → Bool
  | .intoDisconnected _ => true
  | _ => false

/-- The task of `MCClient` has not begun or has returned. -/
def ClientPhase.isOver : ClientPhase → Bool
  | .absent => true
  | .failed => true
  | .finished _ => true
  | _ => false

/-- `firstPacket`: what was read of a Minecraft client when its hello packet was accepted. -/
structure System where
  server : Server
  sessions : SocketId → Session
  firstPacket : SocketId → Option MinecraftDataPacket

inductive SystemAction where
  | socket (c : SocketId) (a : SocketAction)
  | firstPacket (c : SocketId) (packet : MinecraftHelloPacket) (data : MinecraftDataPacket)
  | session (t : SocketId) (a : Action)
deriving DecidableEq, Repr

namespace System

def init : System := ⟨.init, fun _ => .init, fun _ => none⟩

/-- A socket waits for the tasks that run in a session for it. -/
def Proceeds (s : System) (c : SocketId) : SocketAction → Bool
  | .firstPacket _ => false
  | .handleEnds => (s.sessions c).serving = false
  | .fail =>
    match (s.server.sockets c).phase with
    | .forwarding t => ((s.sessions t).players c).phase.isOver
    | _ => true
  | _ => true

/-- The task runs: a player's while its socket is forwarded to the session, and one that was aborted after it, the
server's while it serves, and the client's once it has got its response. -/
def Runs (s : System) (t : SocketId) (a : Action) : Bool :=
  match a.task with
  | .player P =>
    (s.server.sockets P).phase = .forwarding t ∨ ((s.sessions t).players P).phase.isFinished = true
  | .handle =>
    (s.server.sockets t).phase.isServing ∨ a.ends = true ∧ (s.server.sockets t).phase.isLeaving = true
  | .client => .sent (.proxyHelloResponse ⟨PROTOCOL_VERSION⟩) ∈ (s.server.sockets t).transcript

/-- A player's first message has the data of its first packet. -/
def Forwards (s : System) : Action → Bool
  | .connect P startData => s.firstPacket P = some ⟨startData⟩
  | _ => true

def step (C : Crypto) (s : System) : SystemAction → Option System
  | .socket c a =>
    if s.Proceeds c a then (s.server.step C (c, a)).map fun server => { s with server } else none
  | .firstPacket c packet data =>
    if MinecraftHelloPacket.new data.bytes = .ok (some packet) then
      (s.server.step C (c, .firstPacket packet)).map fun server =>
        { s with server, firstPacket := update s.firstPacket c (some data) }
    else none
  | .session t a =>
    if s.Runs t a ∧ s.Forwards a then
      ((s.sessions t).step a).map fun session => { s with sessions := update s.sessions t session }
    else none

variable {C : Crypto} {s s' : System} {c t : SocketId}

theorem step_socket {a : SocketAction} (h : s.step C (.socket c a) = some s') :
    s.Proceeds c a = true ∧ ∃ server, s.server.step C (c, a) = some server ∧ s' = { s with server } := by
  rw [step] at h
  split at h
  · next hp =>
    obtain ⟨server, hserver, rfl⟩ := Option.map_eq_some_iff.1 h
    exact ⟨hp, server, hserver, rfl⟩
  · cases h

theorem step_firstPacket {packet : MinecraftHelloPacket} {data : MinecraftDataPacket}
    (h : s.step C (.firstPacket c packet data) = some s') :
    MinecraftHelloPacket.new data.bytes = .ok (some packet) ∧
      ∃ server, s.server.step C (c, .firstPacket packet) = some server ∧
        s' = { s with server, firstPacket := update s.firstPacket c (some data) } := by
  rw [step] at h
  split at h
  · next hp =>
    obtain ⟨server, hserver, rfl⟩ := Option.map_eq_some_iff.1 h
    exact ⟨hp, server, hserver, rfl⟩
  · cases h

theorem step_session {a : Action} (h : s.step C (.session t a) = some s') :
    s.Runs t a = true ∧ s.Forwards a = true ∧
      ∃ session, (s.sessions t).step a = some session ∧ s' = { s with sessions := update s.sessions t session } := by
  rw [step] at h
  split at h
  · next hp =>
    obtain ⟨session, hsession, rfl⟩ := Option.map_eq_some_iff.1 h
    exact ⟨hp.1, hp.2, session, hsession, rfl⟩
  · cases h

end System
end CraftIP
