import Mathlib.Data.List.DropRight
import CraftIP.Gui
import CraftIP.Server

/-!
# How a client logs in (`connect` and `auth` in `client/src/client.rs`)

The client tries its Minecraft server, connects to the proxy, and answers the proxy's challenge. When nothing
fails on the way, and the hostname of its hello is the one of its public key, the socket of the server lets it
in (`Login.ends_ok`), and no run is stuck before (`Login.completes`).
-/

namespace CraftIP
open Function (update)
open Unicode (utf8)

/-- The private keys, and the signatures of the crate `ring`. -/
structure Signer (C : Crypto) (Key : Type) where
  getPublicKey : Key → ServerPublicKey
  signEd25519 : Key → List UInt8 → SignatureDataType
  verify_sign : ∀ key message,
    C.verifyEd25519 (getPublicKey key).key.toList message (signEd25519 key message).toList = true

namespace Signer
variable {C : Crypto} {Key : Type}

def sign (K : Signer C Key) (key : Key) (data : ChallengeDataType) : SignatureDataType :=
  K.signEd25519 key (createChallenge data.toList)

theorem verify (K : Signer C Key) (key : Key) (data : ChallengeDataType) :
    (K.getPublicKey key).verify C data (K.sign key data) = true := K.verify_sign key _

end Signer

/-- The port of an address in text form: what stands after the last ':', if it is one. -/
def addressPort (address : String) : Option UInt16 :=
  if ':' ∈ address.toList then parseU16 (String.ofList (address.toList.rtakeWhile (· ≠ ':'))) else none

theorem colon_mem_of_addressPort {address : String} (h : (addressPort address).isSome = true) :
    ':' ∈ address.toList := by
  by_contra hcolon
  rw [addressPort, if_neg hcolon] at h
  cases h

theorem addressPort_colon (host : String) {port : String} (h : ':' ∉ port.toList) :
    addressPort (host ++ ":" ++ port) = parseU16 port := by
  have hmem : ':' ∈ (host ++ ":" ++ port).toList := by simp [String.toList_append]
  have hlast : (host ++ ":" ++ port).toList.rtakeWhile (· ≠ ':') = port.toList := by
    have hport : ∀ c ∈ port.toList.reverse, decide (c ≠ ':') = true := fun c hc =>
      decide_eq_true fun he => h (he ▸ List.mem_reverse.1 hc)
    rw [String.toList_append, String.toList_append, List.rtakeWhile, List.reverse_append,
      List.takeWhile_append_of_pos hport]
    simp
  rw [addressPort, if_pos hmem, hlast, String.ofList_toList]

/-- `TcpStream::connect` to an address in text form, which has to have a port. -/
structure Network where
  connect : String → Except String Unit
  needs_port : ∀ address, connect address = .ok () → (addressPort address).isSome = true

namespace Client
variable {C : Crypto} {Key : Type}

/-- `connect`; the result is the address of the proxy. -/
def connect (N : Network) (server : Client.Server Key) : Except ClientError String :=
  match N.connect server.localServer with
  | .error _ => .error .minecraftServerNotFound
  | .ok () =>
    let address := server.server ++ ":25565"
    match N.connect address with
    | .error error => .error (.io error)
    | .ok () => .ok address

/-- The packet with which `auth` begins. -/
def hello (K : Signer C Key) (server : Client.Server Key) : ProxyHelloPacket :=
  ⟨PROTOCOL_VERSION, server.server, .publicKey (K.getPublicKey server.auth)⟩

/-- What `auth` makes of the first packet it reads. -/
def answer (K : Signer C Key) (server : Client.Server Key) :
    Option (Except PacketCodecError SocketPacket) → Except ClientError SocketPacket
  | none => .error .proxyClosedConnection
  | some (.ok (.proxyAuthRequest challenge)) => .ok (.proxyAuthResponse (K.sign server.auth challenge))
  | e => .error (.unexpectedPacket e)

/-- What `auth` makes of the second packet. -/
def authResult : Option (Except PacketCodecError SocketPacket) → Except ClientError Unit
  | some (.ok (.proxyHelloResponse _)) => .ok ()
  | some (.ok (.proxyError e)) => .error (.proxyError e)
  | none => .error .proxyClosedConnection
  | some (.error e) => .error (.protocolError e)
  | e => .error (.unexpectedPacket e)

end Client

/-- Where `auth` is: before the hello, waiting for the challenge or for the response, or at its end. -/
inductive AuthPhase where
  | hello
  | challenge
  | response
  | ended (result : Except ClientError Unit)

/-- `auth`, the server, and what is on the way between them. -/
structure Login where
  auth : AuthPhase
  toProxy : List SocketPacket
  toClient : List SocketPacket
  proxy : Server

inductive LoginAction where
  | client
  /-- The socket that the client is connected to does its next step, or another one does. -/
  | socket (a : SocketAction)
  | other (c : SocketId) (a : SocketAction)

def Message.sent? : Message → Option SocketPacket
  | .sent packet => some packet
  | _ => none

namespace Login
variable {C : Crypto} {Key : Type}

def init (proxy : Server) : Login := ⟨.hello, [], [], proxy⟩

def stepClient (K : Signer C Key) (server : Client.Server Key) (l : Login) : Option Login :=
  match l.auth with
  | .hello => some { l with auth := .challenge, toProxy := l.toProxy ++ [.proxyHello (Client.hello K server)] }
  | .challenge =>
    match l.toClient with
    | [] => none
    | packet :: rest =>
      match Client.answer K server (some (.ok packet)) with
      | .ok packet => some { l with auth := .response, toClient := rest, toProxy := l.toProxy ++ [packet] }
      | .error e => some { l with auth := .ended (.error e), toClient := rest }
  | .response =>
    match l.toClient with
    | [] => none
    | packet :: rest => some { l with auth := .ended (Client.authResult (some (.ok packet))), toClient := rest }
  | .ended _ => none

/-- A step of socket `c` on its connection: it finds there what `connect` and `auth` have written, and nothing
fails. -/
def stepSocket (C : Crypto) (c : SocketId) (l : Login) (a : SocketAction) : Option Login :=
  match a with
  | .accept | .challenge _ | .addServer => (l.proxy.step C (c, a)).map fun proxy => { l with proxy }
  | .detect firstBuf =>
    if firstBuf = utf8 PROXY_IDENTIFIER then (l.proxy.step C (c, a)).map fun proxy => { l with proxy } else none
  | .version proxyVersion =>
    if proxyVersion = PROTOCOL_VERSION then (l.proxy.step C (c, a)).map fun proxy => { l with proxy } else none
  | .receive packet | .answer (some packet) =>
    match l.toProxy with
    | [] => none
    | first :: rest =>
      if packet = first then (l.proxy.step C (c, a)).map fun proxy => { l with proxy, toProxy := rest } else none
  | .send => (l.proxy.step C (c, a)).map fun proxy =>
    { l with
      proxy
      toClient := l.toClient ++ ((proxy.sockets c).transcript.getLast?.bind Message.sent?).toList }
  | .answer none | .firstPacket _ | .getServer | .sendFails | .handleEnds | .removeServer | .fail => none

def step (K : Signer C Key) (server : Client.Server Key) (c : SocketId) (l : Login) : LoginAction → Option Login
  | .client => l.stepClient K server
  | .socket a => l.stepSocket C c a
  | .other c' a => if c' = c then none else (l.proxy.step C (c', a)).map fun proxy => { l with proxy }

/-- When the socket adds the hostname, it is not registered. -/
def Unregistered (server : Client.Server Key) (l : Login) (a : LoginAction) : Prop :=
  a = .socket .addServer → l.proxy.register.getServer server.server = none

/-! ### The stages of a login -/

/-- The socket has not come to the hello. -/
def Opening (phase : SocketPhase) : Prop :=
  phase = .absent ∨ phase = .detecting ∨ phase = .identified ∨ phase = .new

/-- The stages: where `auth` is, what is on the way to the proxy and back, and where the socket is. -/
inductive Stage (K : Signer C Key) (server : Client.Server Key) :
    AuthPhase → List SocketPacket → List SocketPacket → SocketPhase → Prop
  | start {phase : SocketPhase} (h : Opening phase) : Stage K server .hello [] [] phase
  | hello {phase : SocketPhase} (h : Opening phase) :
    Stage K server .challenge [.proxyHello (Client.hello K server)] [] phase
  | authenticate : Stage K server .challenge [] [] (.authenticate (.new (Client.hello K server)))
  | request (challenge : ChallengeDataType) :
    Stage K server .challenge [] [] (.request (.new (Client.hello K server)) challenge)
  | challenged (challenge : ChallengeDataType) :
    Stage K server .challenge [] [.proxyAuthRequest challenge]
      (.response (.new (Client.hello K server)) challenge)
  | answered (challenge : ChallengeDataType) :
    Stage K server .response [.proxyAuthResponse (K.sign server.auth challenge)] []
      (.response (.new (Client.hello K server)) challenge)
  | handle : Stage K server .response [] [] (.handle ⟨server.server, ⟨⟩⟩)
  | connected : Stage K server .response [] [] (.connected ⟨server.server, ⟨⟩⟩)
  | serving : Stage K server .response [] [.proxyHelloResponse ⟨PROTOCOL_VERSION⟩] (.serving ⟨server.server, ⟨⟩⟩)
  | ended : Stage K server (.ended (.ok ())) [] [] (.serving ⟨server.server, ⟨⟩⟩)

def Staged (K : Signer C Key) (server : Client.Server Key) (c : SocketId) (l : Login) : Prop :=
  Stage K server l.auth l.toProxy l.toClient (l.proxy.sockets c).phase

variable {K : Signer C Key} {server : Client.Server Key} {c : SocketId} {l l' : Login}

/-- The server's check passes for the hello with the key's own hostname. -/
theorem authenticate_hello (hserver : server.server = (K.getPublicKey server.auth).getHostname C)
    (challenge : ChallengeDataType) :
    (ProxyClient.new (Client.hello K server)).authenticate C challenge
      (some (.proxyAuthResponse (K.sign server.auth challenge))) = .ok ⟨server.server, ⟨⟩⟩ := by
  simp [ProxyClient.new, ProxyClient.authenticate, Client.hello, K.verify, hserver]

/-- The own socket after a step of the server. -/
theorem step_self {s s' : Server} {a : SocketAction} (h : s.step C (c, a) = some s') :
    (s.sockets c).step C c s.register a = some (s'.sockets c, s'.register) := by
  obtain ⟨k, hk, hsockets⟩ := Server.step_eq_some h
  rw [hk, hsockets, Function.update_self]

theorem Staged.client (h : Staged K server c l) (hs : l.stepClient K server = some l') : Staged K server c l' := by
  obtain ⟨auth, toProxy, toClient, proxy⟩ := l
  rw [Staged] at h
  generalize hphase : (proxy.sockets c).phase = phase at h
  cases h with
  | start h => cases hs; exact .hello (hphase ▸ h)
  | challenged challenge =>
    cases hs
    show Stage K server _ _ _ (proxy.sockets c).phase
    rw [hphase]; exact .answered challenge
  | serving =>
    cases hs
    show Stage K server _ _ _ (proxy.sockets c).phase
    rw [hphase]; exact .ended
  | _ => cases hs

theorem opening_of_step {k k' : Socket} {r r' : Register SocketId} {a : SocketAction}
    (ha : a = .accept ∨ a = .detect (utf8 PROXY_IDENTIFIER) ∨ ∃ proxyVersion, a = .version proxyVersion)
    (hk : k.step C c r a = some (k', r')) : Opening k.phase ∧ Opening k'.phase := by
  rcases ha with rfl | rfl | ⟨proxyVersion, rfl⟩ <;> simp only [Socket.step] at hk <;> split at hk
  · next hp => cases hk; exact ⟨.inl hp, .inr (.inl rfl)⟩
  · cases hk
  · next hp =>
    rw [if_pos trivial, if_pos trivial] at hk
    cases hk
    exact ⟨.inr (.inl hp), .inr (.inr (.inl rfl))⟩
  · cases hk
  · next hp => cases hk; exact ⟨.inr (.inr (.inl hp)), .inr (.inr (.inr rfl))⟩
  · cases hk

theorem Stage.opening {auth : AuthPhase} {toProxy toClient : List SocketPacket} {phase phase' : SocketPhase}
    (h : Stage K server auth toProxy toClient phase) (ho : Opening phase) (ho' : Opening phase') :
    Stage K server auth toProxy toClient phase' := by
  cases h with
  | start _ => exact .start ho'
  | hello _ => exact .hello ho'
  | _ => simp [Opening] at ho

section Stage
variable {auth : AuthPhase} {toProxy toClient rest : List SocketPacket} {packet : SocketPacket}
  {k k' : Socket} {r r' : Register SocketId}

theorem Stage.receive (h : Stage K server auth (packet :: rest) toClient k.phase)
    (hk : k.step C c r (.receive packet) = some (k', r')) : Stage K server auth rest toClient k'.phase := by
  simp only [Socket.step] at hk
  split at hk
  · next hphase =>
    rw [hphase] at h
    cases h with
    | hello _ =>
      rw [← (Prod.mk.inj (Option.some.inj hk)).1]
      exact .authenticate
  · cases hk

theorem Stage.challenge {challenge : ChallengeDataType} (h : Stage K server auth toProxy toClient k.phase)
    (hk : k.step C c r (.challenge challenge) = some (k', r')) :
    Stage K server auth toProxy toClient k'.phase := by
  simp only [Socket.step] at hk
  split at hk
  · next hphase =>
    rw [hphase] at h
    rw [← (Prod.mk.inj (Option.some.inj hk)).1]
    cases h with
    | start ho => simp [Opening] at ho
    | hello ho => simp [Opening] at ho
    | authenticate => exact .request challenge
  · cases hk

/-- What the socket sends goes to the client. -/
theorem Stage.send (h : Stage K server auth toProxy toClient k.phase)
    (hk : k.step C c r .send = some (k', r')) :
    Stage K server auth toProxy (toClient ++ (k'.transcript.getLast?.bind Message.sent?).toList) k'.phase := by
  generalize hphase : k.phase = phase at h
  simp only [Socket.step, hphase] at hk
  cases h with
  | start ho => rcases ho with rfl | rfl | rfl | rfl <;> cases hk
  | hello ho => rcases ho with rfl | rfl | rfl | rfl <;> cases hk
  | request challenge =>
    rw [← (Prod.mk.inj (Option.some.inj hk)).1]
    simpa [Socket.enter, Socket.log, Message.sent?] using Stage.challenged challenge
  | connected =>
    rw [← (Prod.mk.inj (Option.some.inj hk)).1]
    simpa [Socket.enter, Socket.log, Message.sent?] using Stage.serving
  | _ => cases hk

theorem Stage.answer (hserver : server.server = (K.getPublicKey server.auth).getHostname C)
    (h : Stage K server auth (packet :: rest) toClient k.phase)
    (hk : k.step C c r (.answer (some packet)) = some (k', r')) :
    Stage K server auth rest toClient k'.phase := by
  simp only [Socket.step] at hk
  split at hk
  · next hphase =>
    rw [hphase] at h
    cases h with
    | hello ho => simp [Opening] at ho
    | answered challenge =>
      rw [authenticate_hello hserver] at hk
      rw [← (Prod.mk.inj (Option.some.inj hk)).1]
      exact .handle
  · cases hk

theorem Stage.addServer (h : Stage K server auth toProxy toClient k.phase)
    (hfree : r.getServer server.server = none) (hk : k.step C c r .addServer = some (k', r')) :
    Stage K server auth toProxy toClient k'.phase := by
  simp only [Socket.step] at hk
  split at hk
  · next hphase =>
    rw [hphase] at h
    cases h with
    | start ho => simp [Opening] at ho
    | hello ho => simp [Opening] at ho
    | handle =>
      have hfree' : r.servers server.server = none := hfree
      rw [Register.addServer, hfree', if_neg (by simp)] at hk
      rw [← (Prod.mk.inj (Option.some.inj hk)).1]
      exact .connected
  · cases hk

end Stage

theorem Staged.socket (hserver : server.server = (K.getPublicKey server.auth).getHostname C)
    (h : Staged K server c l) {a : SocketAction} (hcond : l.Unregistered server (.socket a))
    (hs : l.stepSocket C c a = some l') : Staged K server c l' := by
  obtain ⟨auth, toProxy, toClient, s⟩ := l
  cases a with
  | accept =>
    obtain ⟨proxy, hp, rfl⟩ := Option.map_eq_some_iff.1 hs
    obtain ⟨ho, ho'⟩ := opening_of_step (.inl rfl) (step_self hp)
    exact Stage.opening h ho ho'
  | detect firstBuf =>
    simp only [stepSocket] at hs
    split at hs
    · next hb =>
      subst hb
      obtain ⟨proxy, hp, rfl⟩ := Option.map_eq_some_iff.1 hs
      obtain ⟨ho, ho'⟩ := opening_of_step (.inr (.inl rfl)) (step_self hp)
      exact Stage.opening h ho ho'
    · cases hs
  | version proxyVersion =>
    simp only [stepSocket] at hs
    split at hs
    · obtain ⟨proxy, hp, rfl⟩ := Option.map_eq_some_iff.1 hs
      obtain ⟨ho, ho'⟩ := opening_of_step (.inr (.inr ⟨_, rfl⟩)) (step_self hp)
      exact Stage.opening h ho ho'
    · cases hs
  | receive packet =>
    simp only [stepSocket] at hs
    split at hs
    · cases hs
    · next first rest =>
      split at hs
      · next hfirst =>
        subst hfirst
        obtain ⟨proxy, hp, rfl⟩ := Option.map_eq_some_iff.1 hs
        exact Stage.receive h (step_self hp)
      · cases hs
  | answer packet =>
    cases packet with
    | none => cases hs
    | some packet =>
      simp only [stepSocket] at hs
      split at hs
      · cases hs
      · next first rest =>
        split at hs
        · next hfirst =>
          subst hfirst
          obtain ⟨proxy, hp, rfl⟩ := Option.map_eq_some_iff.1 hs
          exact Stage.answer hserver h (step_self hp)
        · cases hs
  | challenge challenge =>
    obtain ⟨proxy, hp, rfl⟩ := Option.map_eq_some_iff.1 hs
    exact Stage.challenge h (step_self hp)
  | send =>
    obtain ⟨proxy, hp, rfl⟩ := Option.map_eq_some_iff.1 hs
    exact Stage.send h (step_self hp)
  | addServer =>
    obtain ⟨proxy, hp, rfl⟩ := Option.map_eq_some_iff.1 hs
    exact Stage.addServer h (hcond rfl) (step_self hp)
  | _ => cases hs

theorem Staged.step (hserver : server.server = (K.getPublicKey server.auth).getHostname C)
    (h : Staged K server c l) {a : LoginAction} (hcond : l.Unregistered server a)
    (hs : l.step K server c a = some l') : Staged K server c l' := by
  cases a with
  | client => exact h.client hs
  | socket a => exact h.socket hserver hcond hs
  | other c' a =>
    simp only [Login.step] at hs
    split at hs
    · cases hs
    · next hne =>
      obtain ⟨proxy, hp, rfl⟩ := Option.map_eq_some_iff.1 hs
      obtain ⟨k, -, hsockets⟩ := Server.step_eq_some hp
      rw [Staged, hsockets, Function.update_of_ne (Ne.symm hne)]
      exact h

/-- In every run from a socket that is not accepted yet the server's check passes, and `auth` ends, if it
does, with the proxy's hello response. -/
theorem ends_ok {proxy : Server} (hserver : server.server = (K.getPublicKey server.auth).getHostname C)
    (hc : (proxy.sockets c).phase = .absent)
    (h : Lts.Reach (step K server c) (Unregistered server) (init proxy) l) :
    (∀ message, (l.proxy.sockets c).phase ≠ .refuse message) ∧
      ∀ result, l.auth = .ended result → result = .ok () := by
  have hinit : Staged K server c (init proxy) := Stage.start (.inl hc)
  have hstaged : Staged K server c l :=
    h.invariant (I := Staged K server c) hinit fun _ ih hcond hs => ih.step hserver hcond hs
  obtain ⟨auth, toProxy, toClient, s⟩ := l
  rw [Staged] at hstaged
  generalize hphase : (s.sockets c).phase = phase at hstaged
  refine ⟨fun message hm => ?_, fun result hr => ?_⟩
  · rw [hm] at hstaged
    cases hstaged with
    | start ho => simp [Opening] at ho
    | hello ho => simp [Opening] at ho
  · rw [show auth = .ended result from hr] at hstaged
    cases hstaged
    rfl

/-- From an accepted connection on, there is a run to the end for every challenge. -/
theorem completes {proxy : Server} (hserver : server.server = (K.getPublicKey server.auth).getHostname C)
    (hc : (proxy.sockets c).phase = .absent) (hfree : proxy.register.getServer server.server = none)
    (challenge : ChallengeDataType) :
    ∃ l', Lts.run (step K server c) (init proxy)
        [.client, .socket .accept, .socket (.detect (utf8 PROXY_IDENTIFIER)),
      .socket (.version PROTOCOL_VERSION), .socket (.receive (.proxyHello (Client.hello K server))),
      .socket (.challenge challenge), .socket .send, .client,
      .socket (.answer (some (.proxyAuthResponse (K.sign server.auth challenge)))), .socket .addServer,
      .socket .send, .client] = some l' ∧ l'.auth = .ended (.ok ()) := by
  have hfree' : proxy.register.servers server.server = none := hfree
  simp [Lts.run, step, stepSocket, stepClient, Server.step, Socket.step, hc, init, Socket.enter, Socket.log,
    Message.sent?, Client.answer, authenticate_hello hserver, Register.addServer, hfree', Client.authResult]

end Login
end CraftIP
