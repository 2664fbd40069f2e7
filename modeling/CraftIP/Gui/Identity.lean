import CraftIP.Client.Login
import CraftIP.Gui.Controller

/-!
# The hostname that a client proves, and the local address

The user's text for the local address is rewritten by the Connect button and looked at by the controller, which
puts it behind the server's name when it has no colon. With one, or as a port alone, it leaves the name as it
is, and when a Minecraft server is found there the client logs in under the hostname of its key (`logsIn_iff`).
-/

namespace CraftIP

section Address
variable {Key : Type} {p : ServerPanel Key} {server : Client.Server Key}

theorem addressPort_localhost (port : UInt16) : addressPort ("localhost:" ++ toString port.toNat) = some port := by
  have hcolon : ':' ∉ (toString port.toNat).toList := fun h => by cases isDigit_of_mem_toString h
  exact (addressPort_colon "localhost" hcolon).trans (parseU16_toString port)

/-- The button's address has a port exactly when the text is one or has one. -/
theorem addressPort_connectServer :
    (addressPort p.connectServer.localServer).isSome = true ↔
      (parseU16 p.localServer).isSome = true ∨ (addressPort p.localServer).isSome = true := by
  simp only [ServerPanel.connectServer, ServerPanel.toServer]
  cases hport : parseU16 p.localServer with
  | none => simp
  | some port => exact iff_of_true (by rw [addressPort_localhost]; rfl) (.inl rfl)

theorem clientServer_of_colon (h : ':' ∈ server.localServer.toList) : Controller.clientServer server = server :=
  if_pos h

theorem clientServer_of_no_colon (h : ':' ∉ server.localServer.toList) :
    Controller.clientServer server = { server with server := server.server ++ ":" ++ server.localServer } :=
  if_neg h

theorem localServer_clientServer (server : Client.Server Key) :
    (Controller.clientServer server).localServer = server.localServer := by
  rw [Controller.clientServer]
  split <;> rfl

/-- The Minecraft server was found. -/
theorem connect_localServer {N : Network} {address : String} (h : Client.connect N server = .ok address) :
    N.connect server.localServer = .ok () := by
  rw [Client.connect] at h
  split at h
  · cases h
  · next hlocal => exact hlocal

end Address

variable {C : Crypto} {Key : Type}

/-- The client made for the server connects to the host of the key, and says hello with the key and its
hostname; the server's check passes and, with the hostname free, `auth` ends with the hello response. -/
structure LogsIn (N : Network) (K : Signer C Key) (key : Key) (server : Client.Server Key) : Prop where
  connects : Client.connect N server = .ok ((K.getPublicKey key).getHostname C ++ ":25565")
  hello : Client.hello K server =
    ⟨PROTOCOL_VERSION, (K.getPublicKey key).getHostname C, .publicKey (K.getPublicKey key)⟩
  passes : ∀ (proxy : Server) c l, (proxy.sockets c).phase = .absent →
    Lts.Reach (Login.step K server c) (Login.Unregistered server) (Login.init proxy) l →
    (∀ message, (l.proxy.sockets c).phase ≠ .refuse message) ∧ ∀ result, l.auth = .ended result → result = .ok ()
  completes : ∀ (proxy : Server) c, (proxy.sockets c).phase = .absent →
    proxy.register.getServer server.server = none →
    ∃ as l, Lts.run (Login.step K server c) (Login.init proxy) as = some l ∧ l.auth = .ended (.ok ())

theorem logsIn_of_connect {N : Network} {K : Signer C Key} {server : Client.Server Key}
    (hserver : server.server = (K.getPublicKey server.auth).getHostname C)
    (hlocal : N.connect server.localServer = .ok ()) (hproxy : N.connect (server.server ++ ":25565") = .ok ()) :
    LogsIn N K server.auth server where
  connects := by
    rw [← hserver]
    simp only [Client.connect, hlocal, hproxy]
  hello := by rw [Client.hello, hserver]
  passes proxy c l hc h := Login.ends_ok hserver hc h
  completes proxy c hc hfree :=
    let ⟨l, hl, hended⟩ := Login.completes hserver hc hfree (.replicate 64 0)
    ⟨_, l, hl, hended⟩

/-- With the local address behind it, the name is not the key's. -/
theorem not_logsIn_of_no_colon {N : Network} {K : Signer C Key} {server : Client.Server Key} {key : Key}
    (hserver : server.server = (K.getPublicKey key).getHostname C) (hcolon : ':' ∉ server.localServer.toList) :
    ¬ LogsIn N K key (Controller.clientServer server) := by
  intro h
  have hhello := congrArg ProxyHelloPacket.hostname h.hello
  rw [clientServer_of_no_colon hcolon, ← hserver] at hhello
  have hlen := congrArg String.length hhello
  simp only [Client.hello, String.length_append] at hlen
  have hone : ":".length = 1 := rfl
  omega

/-- In a network in which the proxy takes connections, the client that the button and the controller start logs
in exactly when the text is a port or an address with one, and a Minecraft server is found there; where one is
found at every address with a port, the text decides. -/
theorem logsIn_iff (N : Network) (K : Signer C Key) (p : ServerPanel Key)
    (hp : p.server = (K.getPublicKey p.auth).getHostname C) (hproxy : N.connect (p.server ++ ":25565") = .ok ()) :
    (LogsIn N K p.auth (Controller.clientServer p.connectServer) ↔
      ((parseU16 p.localServer).isSome = true ∨ (addressPort p.localServer).isSome = true) ∧
        N.connect p.connectServer.localServer = .ok ()) ∧
    ((∀ address, (addressPort address).isSome = true → N.connect address = .ok ()) →
      (LogsIn N K p.auth (Controller.clientServer p.connectServer) ↔
        (parseU16 p.localServer).isSome = true ∨ (addressPort p.localServer).isSome = true)) := by
  have hserver : p.connectServer.server = (K.getPublicKey p.connectServer.auth).getHostname C := hp
  have hlogsIn : LogsIn N K p.auth (Controller.clientServer p.connectServer) ↔
      N.connect p.connectServer.localServer = .ok () := by
    constructor
    · intro h
      have hlocal := connect_localServer h.connects
      rwa [localServer_clientServer] at hlocal
    · intro hlocal
      rw [clientServer_of_colon (colon_mem_of_addressPort (N.needs_port _ hlocal))]
      exact logsIn_of_connect hserver hlocal hproxy
  have hport : N.connect p.connectServer.localServer = .ok () →
      (parseU16 p.localServer).isSome = true ∨ (addressPort p.localServer).isSome = true :=
    fun hlocal => addressPort_connectServer.1 (N.needs_port _ hlocal)
  refine ⟨hlogsIn.trans ⟨fun hlocal => ⟨hport hlocal, hlocal⟩, And.right⟩, fun hfound => ?_⟩
  exact hlogsIn.trans ⟨hport, fun htext => hfound _ (addressPort_connectServer.2 htext)⟩

/-! ### The clients of a run -/

/-- The panel has the name and the key of one of the servers. -/
def ServerPanel.IsOf (servers : List (Client.Server Key)) (p : ServerPanel Key) : Prop :=
  ∃ server ∈ servers, p.server = server.server ∧ p.auth = server.auth

/-- The user changes neither name nor key. -/
theorem ServerPanel.name_render {p p' : ServerPanel Key} {enabled : Bool} {e : PanelEvent}
    {event : Option (GuiTriggeredEvent Key)} (h : p.render enabled e = some (p', event)) :
    p'.server = p.server ∧ p'.auth = p.auth ∧
      ∀ server, event = some (.connect server) → server = p.connectServer := by
  have hevent : ∀ server, event = some (.connect server) → server = p.connectServer := by
    rintro server rfl
    obtain ⟨-, ⟨he, -⟩ | ⟨-, he, -⟩ | ⟨-, he, -⟩⟩ := ServerPanel.render_eq_some h <;> cases he
    rfl
  suffices hname : p'.server = p.server ∧ p'.auth = p.auth from ⟨hname.1, hname.2, hevent⟩
  cases enabled with
  | false => cases h
  | true =>
    simp only [render, Bool.not_true, Bool.false_eq_true, if_false] at h
    repeat' split at h
    all_goals first | (cases h; exact ⟨rfl, rfl⟩) | cases h

theorem mem_changeFirst {α : Type} {p : α → Bool} {f : α → α} {l l' : List α} {x : α}
    (h : changeFirst p f l = some l') (hx : x ∈ l') : x ∈ l ∨ ∃ y ∈ l, x = f y := by
  induction l generalizing l' with
  | nil => cases h
  | cons y l ih =>
    rw [changeFirst] at h
    split at h
    · cases h
      rcases List.mem_cons.1 hx with rfl | hx
      · exact .inr ⟨y, List.mem_cons_self, rfl⟩
      · exact .inl (List.mem_cons_of_mem _ hx)
    · obtain ⟨l'', hl'', rfl⟩ := Option.map_eq_some_iff.1 h
      rcases List.mem_cons.1 hx with rfl | hx
      · exact .inl List.mem_cons_self
      · rcases ih hl'' hx with hx | ⟨z, hz, rfl⟩
        · exact .inl (List.mem_cons_of_mem _ hx)
        · exact .inr ⟨z, List.mem_cons_of_mem _ hz, rfl⟩

namespace Controller
variable {Tx : Type} {servers : List (Client.Server Key)} {c c' : Controller Key Tx} {a : ControllerAction Tx}

/-- What comes from the servers: the panels, the Connects that wait, and the clients. -/
structure Named (servers : List (Client.Server Key)) (c : Controller Key Tx) : Prop where
  panels : ∀ p ∈ c.panels.servers.getD [], p.IsOf servers
  connects : ∀ server, .connect server ∈ c.guiRx → ∃ p : ServerPanel Key, p.IsOf servers ∧ server = p.connectServer
  tasks : ∀ task ∈ c.tasks, ∃ p : ServerPanel Key, p.IsOf servers ∧ task.server = clientServer p.connectServer

theorem Named.setActiveServer {closure : ServerPanel Key → ServerPanel Key} (h : Named servers c)
    (hname : ∀ p, (closure p).server = p.server ∧ (closure p).auth = p.auth) :
    Named servers (c.setActiveServer closure) := by
  rw [Controller.setActiveServer]
  cases hset : c.panels.setActiveServer closure with
  | none => exact ⟨h.panels, h.connects, h.tasks⟩
  | some panels =>
    refine ⟨fun p hp => ?_, h.connects, h.tasks⟩
    rw [GuiState.setActiveServer] at hset
    cases hservers : c.panels.servers with
    | none => rw [hservers] at hset; cases hset
    | some old =>
      rw [hservers] at hset
      obtain ⟨new, hnew, rfl⟩ := Option.map_eq_some_iff.1 hset
      have hold : ∀ q ∈ old, q.IsOf servers := by
        have hpanels := h.panels
        rwa [hservers] at hpanels
      rcases mem_changeFirst hnew hp with hp | ⟨q, hq, rfl⟩
      · exact hold p hp
      · rw [ServerPanel.IsOf, (hname q).1, (hname q).2]
        exact hold q hq

theorem Named.ui {i : Nat} {e : PanelEvent} {panels : GuiState Key} {event : Option (GuiTriggeredEvent Key)}
    (h : Named servers c) (hr : c.panels.render i e = some (panels, event)) :
    Named servers { c with panels, guiRx := c.guiRx ++ event.toList } := by
  rw [GuiState.render] at hr
  cases hservers : c.panels.servers with
  | none => rw [hservers] at hr; cases hr
  | some old =>
    have hold : ∀ q ∈ old, q.IsOf servers := by
      have hpanels := h.panels
      rwa [hservers] at hpanels
    simp only [hservers] at hr
    cases hi : old[i]? with
    | none => rw [hi] at hr; cases hr
    | some p =>
      simp only [hi] at hr
      obtain ⟨⟨p', event'⟩, hp, he⟩ := Option.map_eq_some_iff.1 hr
      cases he
      obtain ⟨hserver, hauth, hevent⟩ := ServerPanel.name_render hp
      have hof : p.IsOf servers := hold p (List.mem_of_getElem? hi)
      refine ⟨fun q hq => ?_, fun server hmem => ?_, h.tasks⟩
      · rcases List.mem_or_eq_of_mem_set hq with hq | rfl
        · exact hold q hq
        · rw [ServerPanel.IsOf, hserver, hauth]; exact hof
      · rcases List.mem_append.1 hmem with hmem | hmem
        · exact h.connects server hmem
        · exact ⟨p, hof, hevent server (Option.mem_toList.1 hmem)⟩

theorem name_closure {loop : ConnectionLoop Tx} {la : LoopAction Tx} {f : ServerPanel Key → ServerPanel Key}
    (h : loop.closure la = some f) (p : ServerPanel Key) : (f p).server = p.server ∧ (f p).auth = p.auth := by
  cases la with
  | setResult =>
    simp only [ConnectionLoop.closure] at h
    split at h <;> cases h <;> exact ⟨rfl, rfl⟩
  | setError =>
    simp only [ConnectionLoop.closure] at h
    split at h <;> cases h
    exact ⟨rfl, rfl⟩
  | _ => cases h

theorem Named.step (h : Named servers c) (hs : c.step a = some c') : Named servers c' := by
  obtain ⟨-, ⟨i, e, panels, event, rfl, hr, rfl⟩ | ⟨stat, rest, rfl, hq, rfl⟩ | ⟨event, rest, rfl, hq, rfl⟩ |
    ⟨t, task, polling, ht, -, rfl⟩ | ⟨t, task, la, loop, rfl, ht, hl, rfl⟩⟩ := step_eq_some hs
  · exact h.ui hr
  · have hrest : Named servers { c with statsRx := rest } := ⟨h.panels, h.connects, h.tasks⟩
    cases stat with
    | connected => exact hrest
    | clientsConnected n => exact hrest.setActiveServer fun _ => ⟨rfl, rfl⟩
    | ping ping => exact hrest.setActiveServer fun _ => ⟨rfl, rfl⟩
  · have hconnects : ∀ server, .connect server ∈ rest → ∃ p : ServerPanel Key, p.IsOf servers ∧
        server = p.connectServer :=
      fun server hmem => h.connects server (hq ▸ List.mem_cons_of_mem _ hmem)
    cases event with
    | connect server =>
      refine ⟨h.panels, hconnects, fun task hmem => ?_⟩
      rcases List.mem_append.1 hmem with hmem | hmem
      · exact h.tasks task hmem
      · obtain ⟨p, hp, rfl⟩ := h.connects server (hq ▸ List.mem_cons_self)
        rw [List.mem_singleton.1 hmem]
        exact ⟨p, hp, rfl⟩
    | disconnect =>
      have habort : ∀ task ∈ abort c.tasks c.connectionTask, ∃ p : ServerPanel Key, p.IsOf servers ∧
          task.server = clientServer p.connectServer := by
        intro task hmem
        cases hct : c.connectionTask with
        | none => rw [hct] at hmem; exact h.tasks task hmem
        | some t =>
          rw [hct, abort, List.mem_iff_getElem?] at hmem
          obtain ⟨j, hj⟩ := hmem
          rw [List.getElem?_modify] at hj
          obtain ⟨task', htask', rfl⟩ := Option.map_eq_some_iff.1 hj
          obtain ⟨p, hp, hserver⟩ := h.tasks task' (List.mem_of_getElem? htask')
          exact ⟨p, hp, by split <;> exact hserver⟩
      exact Named.setActiveServer ⟨h.panels, hconnects, habort⟩ fun _ => ⟨rfl, rfl⟩
  · refine ⟨h.panels, h.connects, fun task' hmem => ?_⟩
    rcases List.mem_or_eq_of_mem_set hmem with hmem | rfl
    · exact h.tasks task' hmem
    · exact h.tasks task (List.mem_of_getElem? ht)
  · have hput : Named servers (c.putLoop t task loop) := by
      refine ⟨h.panels, h.connects, fun task' hmem => ?_⟩
      rcases List.mem_or_eq_of_mem_set hmem with hmem | rfl
      · exact h.tasks task' hmem
      · exact h.tasks task (List.mem_of_getElem? ht)
    rw [handleLoop]
    cases hclosure : (task.loop.closure la : Option (ServerPanel Key → ServerPanel Key)) with
    | none => exact hput
    | some f => exact hput.setActiveServer (name_closure hclosure)

/-- In every run each client is the one that a panel of a server makes of the user's text. -/
theorem exists_panel_of_task (h : Lts.Reach step (fun _ _ => True) (init servers) c)
    {task : ConnectionTask Key Tx} (hmem : task ∈ c.tasks) :
    ∃ p : ServerPanel Key, p.IsOf servers ∧ task.server = clientServer p.connectServer := by
  have hinit : Named servers (init servers : Controller Key Tx) := by
    refine ⟨fun p hp => ?_, fun _ h => (by cases h), fun _ h => by cases h⟩
    obtain ⟨server, hserver, rfl⟩ := List.mem_map.1 hp
    exact ⟨server, hserver, rfl, rfl⟩
  exact (h.invariant (I := Named servers) hinit fun _ ih _ hs => ih.step hs).tasks task hmem

end Controller

/-! ### A key and two addresses -/

/-- One key, which signs the sample challenge as `ring` does. -/
def sampleSign (message : List UInt8) : SignatureDataType :=
  if message = createChallenge ServerPublicKey.sampleChallenge.toList then ServerPublicKey.sampleSignature
  else .replicate 64 0

def signingCrypto : Crypto :=
  { ServerPublicKey.sampleCrypto with
    verifyEd25519 := fun key message signature =>
      key = ServerPublicKey.sample.key.toList ∧ signature = (sampleSign message).toList }

def sampleSigner : Signer signingCrypto Unit where
  getPublicKey _ := .sample
  signEd25519 _ := sampleSign
  verify_sign _ _ := decide_eq_true ⟨rfl, rfl⟩

def samplePanel (localServer : String) : ServerPanel Unit :=
  .ofServer ⟨"3grfiewn7rkrpizi11dm.t.craftip.net", localServer, ()⟩

theorem samplePanel_server (localServer : String) :
    (samplePanel localServer).server = (sampleSigner.getPublicKey ()).getHostname signingCrypto :=
  ServerPublicKey.getHostname_sample.symm

/-- Every address with a port takes connections. -/
def sampleNetwork : Network where
  connect address := if (addressPort address).isSome then .ok () else .error "invalid socket address"
  needs_port address h := by
    by_contra hport
    rw [if_neg hport] at h
    cases h

/-- The standard port, and an address whose port is none. -/
theorem logsIn_standardPort :
    LogsIn sampleNetwork sampleSigner () (Controller.clientServer (samplePanel STANDARD_LOCAL_PORT).connectServer) ∧
      ¬ LogsIn sampleNetwork sampleSigner () (Controller.clientServer (samplePanel "localhost:99999").connectServer) := by
  have hfound : ∀ address, (addressPort address).isSome = true → sampleNetwork.connect address = .ok () :=
    fun _ h => if_pos h
  have hproxy : sampleNetwork.connect ((samplePanel "").server ++ ":25565") = .ok () := by decide +kernel
  constructor
  · exact (logsIn_iff sampleNetwork sampleSigner (samplePanel STANDARD_LOCAL_PORT) (samplePanel_server _) hproxy).1.2
      (by decide +kernel)
  · intro h
    have htext := ((logsIn_iff sampleNetwork sampleSigner (samplePanel "localhost:99999") (samplePanel_server _)
      hproxy).2 hfound).1 h
    exact absurd htext (by decide +kernel)

/-- A name without a port. -/
theorem not_logsIn_localhost : ¬ ∀ localServer, LogsIn sampleNetwork sampleSigner ()
    (Controller.clientServer (samplePanel localServer).connectServer) :=
  fun h => not_logsIn_of_no_colon (samplePanel_server _) (by decide +kernel) (h "localhost")

end CraftIP
