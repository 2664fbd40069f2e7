import CraftIP.Crypto
import CraftIP.Lib.Lts
import CraftIP.Minecraft
import CraftIP.Register

/-!
# The sockets of the server (`server/src/process_socket.rs`, `server/src/proxy_handler.rs`)

Every socket runs `process_socket_connection`: it turns out to be a Minecraft client, which looks its
server up, or a proxy client, which authenticates, is registered, serves and is removed. The peers send
what they like, and the sockets share only the register.

A socket's number also names the channel of its session.
-/

namespace CraftIP
open Function (update)
open Unicode (utf8)

abbrev SocketId := Nat

/-! ### The proxy client's states -/

structure ProxyClient (State : Type) where
  hostname : String
  state : State
deriving DecidableEq, Repr

structure NotAuthenticated where
  hello : ProxyHelloPacket
deriving DecidableEq, Repr

structure Authenticated where
deriving DecidableEq, Repr

namespace ProxyClient

/-- `new`, after the hello. -/
def new (hello : ProxyHelloPacket) : ProxyClient NotAuthenticated := ⟨hello.hostname, ⟨hello⟩⟩

/-- `authenticate`, after the challenge was sent: what the answer to it comes to. -/
def authenticate (C : Crypto) (proxy : ProxyClient NotAuthenticated) (challenge : ChallengeDataType)
    (answer : Option SocketPacket) : Except String (ProxyClient Authenticated) :=
  match proxy.state.hello.auth with
  | .publicKey publicKey =>
    match answer with
    | some (.proxyAuthResponse signature) =>
      if !publicKey.verify C challenge signature || publicKey.getHostname C != proxy.hostname then
        .error "Could not authenticate"
      else .ok ⟨proxy.hostname, ⟨⟩⟩
    | _ => .error "Client did follow the auth procedure"

theorem authenticate_eq_ok {C : Crypto} {proxy : ProxyClient NotAuthenticated}
    {proxy' : ProxyClient Authenticated} {challenge : ChallengeDataType} {answer : Option SocketPacket}
    (h : proxy.authenticate C challenge answer = .ok proxy') :
    ∃ publicKey signature, proxy.state.hello.auth = .publicKey publicKey ∧
      answer = some (.proxyAuthResponse signature) ∧ publicKey.verify C challenge signature = true ∧
      publicKey.getHostname C = proxy.hostname ∧ proxy'.hostname = proxy.hostname := by
  rw [authenticate] at h
  split at h
  next publicKey hauth =>
  split at h
  · next signature =>
    split at h
    · cases h
    · next hok =>
      cases h
      simp only [Bool.or_eq_true, Bool.not_eq_true', bne_iff_ne, ne_eq, not_or, Bool.not_eq_false,
        not_not] at hok
      exact ⟨publicKey, signature, hauth, rfl, hok.1, hok.2, rfl⟩
  · cases h

end ProxyClient

/-! ### One socket -/

/-- Where `process_socket_connection` is. -/
inductive SocketPhase where
  | absent
  | detecting
  | minecraft
  | lookup (hostname : String)
  | forwarding (tx : SocketId)
  | identified
  | new
  | pong (ping : PingPacket)
  | authenticate (proxy : ProxyClient NotAuthenticated)
  | request (proxy : ProxyClient NotAuthenticated) (challenge : ChallengeDataType)
  | response (proxy : ProxyClient NotAuthenticated) (challenge : ChallengeDataType)
  | refuse (message : String)
  | handle (proxy : ProxyClient Authenticated)
  | alreadyConnected (proxy : ProxyClient Authenticated)
  | connected (proxy : ProxyClient Authenticated)
  | serving (proxy : ProxyClient Authenticated)
  | intoDisconnected (proxy : ProxyClient Authenticated)
  | disconnected
  | ended
deriving DecidableEq, Repr

/-- Whether an error of the socket, or the timeout, ends `process_socket_connection` right here. -/
def SocketPhase.fails : SocketPhase → Bool
  | .detecting => true
  | .minecraft => true
  | .forwarding _ => true
  | .identified => true
  | .new => true
  | .pong _ => true
  | .authenticate _ => true
  | .request _ _ => true
  | .response _ _ => true
  | .refuse _ => true
  | _ => false

/-- What passed between the peer and the server, in order. -/
inductive Message where
  | received (packet : SocketPacket)
  | generated (challenge : ChallengeDataType)
  | sent (packet : SocketPacket)
deriving DecidableEq, Repr

/-- `added`: the hostname that the socket's `add_server` has put into the register and its
`remove_server` has not taken out yet; `refused`: its `add_server` failed. -/
structure Socket where
  phase : SocketPhase
  transcript : List Message
  added : Option String
  refused : Bool
deriving DecidableEq, Repr

/-- What a socket does next; the peer chooses what is read. `answer none` is an error or the end of the
stream in place of a packet. -/
inductive SocketAction where
  | accept
  | detect (firstBuf : List UInt8)
  | firstPacket (packet : MinecraftHelloPacket)
  | getServer
  | version (proxyVersion : UInt16)
  | receive (packet : SocketPacket)
  | answer (packet : Option SocketPacket)
  | challenge (challenge : ChallengeDataType)
  | send
  | sendFails
  | addServer
  | handleEnds
  | removeServer
  | fail
deriving DecidableEq, Repr

namespace Socket

def initial : Socket := ⟨.absent, [], none, false⟩

def enter (k : Socket) (phase : SocketPhase) : Socket := { k with phase }

def log (k : Socket) (m : Message) : Socket := { k with transcript := k.transcript ++ [m] }

/-- One step of the socket with number `c`, and the register after it. -/
def step (C : Crypto) (c : SocketId) (k : Socket) (r : Register SocketId) :
    SocketAction → Option (Socket × Register SocketId)
  | .accept =>
    match k.phase with
    | .absent => some (k.enter .detecting, r)
    | _ => none
  | .detect firstBuf =>
    match k.phase with
    | .detecting =>
      if firstBuf.length = (utf8 PROXY_IDENTIFIER).length then
        some (k.enter (if firstBuf = utf8 PROXY_IDENTIFIER then .identified else .minecraft), r)
      else none
    | _ => none
  | .firstPacket packet =>
    match k.phase with
    | .minecraft => some (k.enter (.lookup (cleanUpHostname packet.hostname)), r)
    | _ => none
  | .getServer =>
    match k.phase with
    | .lookup hostname =>
      match r.getServer hostname with
      | some tx => some (k.enter (.forwarding tx), r)
      | none => some (k.enter .ended, r)
    | _ => none
  | .version _ =>
    match k.phase with
    | .identified => some (k.enter .new, r)
    | _ => none
  | .receive packet =>
    match k.phase with
    | .new =>
      match packet with
      | .proxyHello hello =>
        some ((k.log (.received (.proxyHello hello))).enter (.authenticate (ProxyClient.new hello)), r)
      | .proxyPing ping => some ((k.log (.received (.proxyPing ping))).enter (.pong ping), r)
      | packet => some ((k.log (.received packet)).enter .ended, r)
    | _ => none
  | .challenge challenge =>
    match k.phase with
    | .authenticate proxy =>
      some ((k.log (.generated challenge)).enter (.request proxy challenge), r)
    | _ => none
  | .answer packet =>
    match k.phase with
    | .response proxy challenge =>
      let k := match packet with
        | some packet => k.log (.received packet)
        | none => k
      match proxy.authenticate C challenge packet with
      | .ok proxy => some (k.enter (.handle proxy), r)
      | .error message => some (k.enter (.refuse message), r)
    | _ => none
  | .send =>
    match k.phase with
    | .pong ping => some ((k.log (.sent (.proxyPong ping))).enter .new, r)
    | .request proxy challenge =>
      some ((k.log (.sent (.proxyAuthRequest challenge))).enter (.response proxy challenge), r)
    | .refuse message => some ((k.log (.sent (.proxyError message))).enter .ended, r)
    | .alreadyConnected _ =>
      some ((k.log (.sent (.proxyError "Already connected?"))).enter .disconnected, r)
    | .connected proxy =>
      some ((k.log (.sent (.proxyHelloResponse ⟨PROTOCOL_VERSION⟩))).enter (.serving proxy), r)
    | _ => none
  | .sendFails =>
    match k.phase with
    | .alreadyConnected _ => some (k.enter .disconnected, r)
    | .connected proxy => some (k.enter (.intoDisconnected proxy), r)
    | _ => none
  | .addServer =>
    match k.phase with
    | .handle proxy =>
      match r.addServer proxy.hostname c with
      | .ok r => some ({ k with added := some proxy.hostname }.enter (.connected proxy), r)
      | .error _ => some ({ k with refused := true }.enter (.alreadyConnected proxy), r)
    | _ => none
  | .handleEnds =>
    match k.phase with
    | .serving proxy => some (k.enter (.intoDisconnected proxy), r)
    | _ => none
  | .removeServer =>
    match k.phase with
    | .intoDisconnected proxy =>
      some ({ k with added := none }.enter .disconnected, r.removeServer proxy.hostname)
    | _ => none
  | .fail => if k.phase.fails then some (k.enter .ended, r) else none

end Socket

/-! ### The server -/

structure Server where
  register : Register SocketId
  sockets : SocketId → Socket

namespace Server

def init : Server := ⟨.empty, fun _ => .initial⟩

/-- Any socket may do its next step. -/
def step (C : Crypto) (s : Server) (a : SocketId × SocketAction) : Option Server :=
  ((s.sockets a.1).step C a.1 s.register a.2).map fun (k, r) => ⟨r, update s.sockets a.1 k⟩

variable {C : Crypto} {s s' : Server} {c : SocketId} {a : SocketAction}

theorem step_eq_some (h : s.step C (c, a) = some s') :
    ∃ k, (s.sockets c).step C c s.register a = some (k, s'.register) ∧
      s'.sockets = update s.sockets c k := by
  obtain ⟨⟨k, r⟩, hk, rfl⟩ := Option.map_eq_some_iff.1 h
  exact ⟨k, hk, rfl⟩

/-- An invariant of the single sockets is one of the server. -/
theorem forall_sockets {I : Socket → Prop} (h0 : I .initial)
    (hstep : ∀ {c k r a k' r'}, I k → Socket.step C c k r a = some (k', r') → I k')
    (h : Lts.Reach (step C) (fun _ _ => True) init s) (c : SocketId) : I (s.sockets c) := by
  refine h.invariant (I := fun s => ∀ c, I (s.sockets c)) (fun _ => h0) ?_ c
  intro s ⟨d, a⟩ s' _ hs _ h c
  obtain ⟨k, hk, hsockets⟩ := step_eq_some h
  rw [hsockets, Function.update_apply]
  split
  · exact hstep (hs d) hk
  · exact hs c

/-- The peer of socket `c` has the key of the source's test, and its `add_server` is next. -/
def login (c : SocketId) : List (SocketId × SocketAction) :=
  [.accept, .detect (utf8 PROXY_IDENTIFIER), .version PROTOCOL_VERSION, .receive (.proxyPing 5), .send,
    .receive (.proxyHello ⟨PROTOCOL_VERSION, "3grfiewn7rkrpizi11dm.t.craftip.net", .publicKey .sample⟩),
    .challenge ServerPublicKey.sampleChallenge, .send,
    .answer (some (.proxyAuthResponse ServerPublicKey.sampleSignature))].map (c, ·)

end Server
end CraftIP
