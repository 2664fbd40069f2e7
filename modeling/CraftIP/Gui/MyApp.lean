import CraftIP.Gui.Identity

/-!
# The app over its starts (`MyApp` in `client-gui/src/main.rs`)

The servers and the consent to the EULA are written to eframe's storage now and then, and read at the next start,
after an exit or a crash; without saved servers there is one with a new key. In every run every panel shows the
hostname of its own key, and from the first save on the same names and keys are there at every start; no client is
made before the user has consented, and each is of a server that is shown (`MyApp.persists`).
-/

namespace CraftIP

variable {C : Crypto} {Key Tx : Type}

/-- `Server::new_from_key`. -/
def Client.Server.newFromKey (K : Signer C Key) (key : Key) : Client.Server Key :=
  ⟨(K.getPublicKey key).getHostname C, STANDARD_LOCAL_PORT, key⟩

/-- The entries "servers" and "eula_accepted". -/
structure Storage (Key : Type) where
  servers : Option (List (Client.Server Key))
  eulaAccepted : Option String

/-- `help` says whether the help is open. -/
structure MyApp (Key Tx : Type) where
  controller : Controller Key Tx
  help : Bool
  eula : Bool
  storage : Storage Key

inductive MyAppAction (Key Tx : Type) where
  /-- What the `Controller` model does: a frame of the panels, or a step of a task. -/
  | controller (a : ControllerAction Tx)
  | acceptEula
  | openHelp
  | closeHelp
  | save
  /-- The process ends and the app is started again; the key is the one that is generated if there is none. -/
  | start (key : Key)

namespace MyApp

def new (K : Signer C Key) (storage : Storage Key) (key : Key) : MyApp Key Tx where
  controller := .init (storage.servers.getD [.newFromKey K key])
  help := false
  eula := storage.eulaAccepted = some "true"
  storage := storage

/-- Everything but the two windows is disabled. -/
def disabled (app : MyApp Key Tx) : Bool := app.help || !app.eula

/-- A frame and `save` unwrap the lock. -/
def step (K : Signer C Key) (app : MyApp Key Tx) : MyAppAction Key Tx → Option (MyApp Key Tx)
  | .controller (.ui i e) =>
    if app.disabled then none else (app.controller.step (.ui i e)).map fun controller => { app with controller }
  | .controller a => (app.controller.step a).map fun controller => { app with controller }
  | .acceptEula => if app.controller.poisoned || app.eula then none else some { app with eula := true }
  | .openHelp => if app.controller.poisoned || app.disabled then none else some { app with help := true }
  | .closeHelp => if app.controller.poisoned || !app.help then none else some { app with help := false }
  | .save =>
    if app.controller.poisoned then none
    else
      match app.controller.panels.servers with
      | none => none
      | some servers =>
        some { app with storage := ⟨some (servers.map ServerPanel.toServer), some (toString app.eula)⟩ }
  | .start key => some (new K app.storage key)

end MyApp

/-! ### The names and keys of the panels -/

def ServerPanel.id (p : ServerPanel Key) : String × Key := (p.server, p.auth)

def Client.Server.id (server : Client.Server Key) : String × Key := (server.server, server.auth)

theorem map_changeFirst {α β : Type} {p : α → Bool} {f : α → α} {g : α → β} (hg : ∀ x, g (f x) = g x) {l l' : List α}
    (h : changeFirst p f l = some l') : l'.map g = l.map g := by
  induction l generalizing l' with
  | nil => cases h
  | cons x l ih =>
    rw [changeFirst] at h
    split at h
    · cases h
      rw [List.map_cons, List.map_cons, hg]
    · obtain ⟨l'', hl'', rfl⟩ := Option.map_eq_some_iff.1 h
      rw [List.map_cons, List.map_cons, ih hl'']

namespace GuiState
variable {g g' : GuiState Key}

def ids (g : GuiState Key) : List (String × Key) := (g.servers.getD []).map ServerPanel.id

theorem ids_new (servers : List (Client.Server Key)) : (new servers).ids = servers.map Client.Server.id := by
  rw [ids, new, Option.getD_some, List.map_map]
  rfl

theorem ids_setActiveServer {closure : ServerPanel Key → ServerPanel Key} (hk : ∀ p, (closure p).id = p.id)
    (h : g.setActiveServer closure = some g') : g'.ids = g.ids := by
  rw [setActiveServer] at h
  cases hs : g.servers with
  | none => rw [hs] at h; cases h
  | some servers =>
    rw [hs] at h
    obtain ⟨servers', hs', rfl⟩ := Option.map_eq_some_iff.1 h
    rw [ids, ids, hs]
    exact map_changeFirst hk hs'

theorem ids_render {i : Nat} {e : PanelEvent} {event : Option (GuiTriggeredEvent Key)}
    (h : g.render i e = some (g', event)) : g'.ids = g.ids := by
  rw [render] at h
  cases hs : g.servers with
  | none => rw [hs] at h; cases h
  | some servers =>
    simp only [hs] at h
    cases hi : servers[i]? with
    | none => rw [hi] at h; cases h
    | some p =>
      simp only [hi] at h
      obtain ⟨⟨p', event'⟩, hp, he⟩ := Option.map_eq_some_iff.1 h
      cases he
      obtain ⟨l₁, l₂, hl, hset⟩ := exists_set hi
      obtain ⟨hserver, hauth, -⟩ := ServerPanel.name_render hp
      have hid : p'.id = p.id := by rw [ServerPanel.id, ServerPanel.id, hserver, hauth]
      rw [ids, ids, hs, Option.getD_some, Option.getD_some, hset, hl]
      simp only [List.map_append, List.map_cons, hid]

end GuiState

namespace Controller
variable {c c' : Controller Key Tx} {a : ControllerAction Tx}

theorem ids_setActiveServer {closure : ServerPanel Key → ServerPanel Key} (hk : ∀ p, (closure p).id = p.id) :
    (c.setActiveServer closure).panels.ids = c.panels.ids := by
  rw [setActiveServer]
  cases hset : c.panels.setActiveServer closure with
  | none => rfl
  | some panels => exact GuiState.ids_setActiveServer hk hset

/-- Neither a frame nor the controller nor a task changes a name or a key. -/
theorem ids_step (hs : c.step a = some c') : c'.panels.ids = c.panels.ids := by
  obtain ⟨-, ⟨i, e, panels, event, rfl, hr, rfl⟩ | ⟨stat, rest, rfl, hq, rfl⟩ | ⟨event, rest, rfl, hq, rfl⟩ |
    ⟨t, task, polling, ht, -, rfl⟩ | ⟨t, task, la, loop, rfl, ht, hl, rfl⟩⟩ := step_eq_some hs
  · exact GuiState.ids_render hr
  · cases stat with
    | connected => rfl
    | clientsConnected n => exact ids_setActiveServer fun _ => rfl
    | ping ping => exact ids_setActiveServer fun _ => rfl
  · cases event with
    | connect server => rfl
    | disconnect => exact ids_setActiveServer fun _ => rfl
  · rfl
  · rw [handleLoop]
    cases hclosure : (task.loop.closure la : Option (ServerPanel Key → ServerPanel Key)) with
    | none => rfl
    | some f =>
      refine ids_setActiveServer fun p => ?_
      obtain ⟨hserver, hauth⟩ := name_closure hclosure p
      rw [ServerPanel.id, ServerPanel.id, hserver, hauth]

theorem tasks_setActiveServer (c : Controller Key Tx) (closure : ServerPanel Key → ServerPanel Key) :
    (c.setActiveServer closure).tasks = c.tasks := by
  rw [setActiveServer]
  cases c.panels.setActiveServer closure <;> rfl

theorem guiRx_setActiveServer (c : Controller Key Tx) (closure : ServerPanel Key → ServerPanel Key) :
    (c.setActiveServer closure).guiRx = c.guiRx := by
  rw [setActiveServer]
  cases c.panels.setActiveServer closure <;> rfl

/-- Only a frame asks for a client. -/
theorem idle_step (hs : c.step a = some c') (hui : ∀ i e, a ≠ .ui i e)
    (h : c.tasks = [] ∧ ∀ server, .connect server ∉ c.guiRx) :
    c'.tasks = [] ∧ ∀ server, .connect server ∉ c'.guiRx := by
  obtain ⟨-, ⟨i, e, panels, event, rfl, hr, rfl⟩ | ⟨stat, rest, rfl, hq, rfl⟩ | ⟨event, rest, rfl, hq, rfl⟩ |
    ⟨t, task, polling, ht, -, rfl⟩ | ⟨t, task, la, loop, rfl, ht, hl, rfl⟩⟩ := step_eq_some hs
  · exact absurd rfl (hui i e)
  · cases stat with
    | connected => exact h
    | clientsConnected n => rw [handleStats, tasks_setActiveServer, guiRx_setActiveServer]; exact h
    | ping ping => rw [handleStats, tasks_setActiveServer, guiRx_setActiveServer]; exact h
  · have hrest : ∀ server, .connect server ∉ rest := fun server hmem =>
      h.2 server (hq ▸ List.mem_cons_of_mem _ hmem)
    cases event with
    | connect server => exact absurd (hq ▸ List.mem_cons_self) (h.2 server)
    | disconnect =>
      rw [handleGui, tasks_setActiveServer, guiRx_setActiveServer]
      refine ⟨?_, hrest⟩
      simp only [h.1]
      cases c.connectionTask <;> simp [abort]
  · rw [h.1] at ht
    cases ht
  · rw [h.1] at ht
    cases ht

theorem Named.init (servers : List (Client.Server Key)) : Named servers (init servers : Controller Key Tx) where
  panels p hp := by
    obtain ⟨server, hserver, rfl⟩ := List.mem_map.1 hp
    exact ⟨server, hserver, rfl, rfl⟩
  connects _ h := by cases h
  tasks _ h := by cases h

end Controller

namespace MyApp

/-- What holds over the starts. The servers are those with which the app was started. -/
structure Consistent (K : Signer C Key) (app : MyApp Key Tx) : Prop where
  started : ∃ servers : List (Client.Server Key),
    (∀ server ∈ servers, server.server = (K.getPublicKey server.auth).getHostname C) ∧
      app.controller.Named servers ∧ app.controller.panels.ids = servers.map Client.Server.id
  saved : ∀ servers, app.storage.servers = some servers → servers.map Client.Server.id = app.controller.panels.ids
  consent : app.eula = false → app.controller.tasks = [] ∧ ∀ server, .connect server ∉ app.controller.guiRx
  savedConsent : app.storage.eulaAccepted = some "true" → app.eula = true

variable {K : Signer C Key} {app app' : MyApp Key Tx}

/-- A start with what was saved, or with a new key when nothing was. -/
theorem consistent_new (key : Key) {storage : Storage Key}
    (hstored : ∀ servers, storage.servers = some servers →
      ∀ server ∈ servers, server.server = (K.getPublicKey server.auth).getHostname C) :
    Consistent K (new K storage key : MyApp Key Tx) := by
  have hids := GuiState.ids_new (storage.servers.getD [Client.Server.newFromKey K key])
  refine ⟨⟨_, ?_, .init _, hids⟩, fun servers hservers => ?_, fun _ => ⟨rfl, fun _ h => by cases h⟩,
    fun h => decide_eq_true h⟩
  · intro server hserver
    cases hs : storage.servers with
    | none =>
      rw [hs] at hserver
      rw [List.mem_singleton.1 hserver]
      rfl
    | some servers =>
      rw [hs] at hserver
      exact hstored servers hs server hserver
  · have hservers : storage.servers = some servers := hservers
    show servers.map Client.Server.id = (GuiState.new (storage.servers.getD [.newFromKey K key])).ids
    rw [hids, hservers]
    rfl

theorem Consistent.name (h : Consistent K app) {p : String × Key} (hp : p ∈ app.controller.panels.ids) :
    p.1 = (K.getPublicKey p.2).getHostname C := by
  obtain ⟨servers, hname, -, hids⟩ := h.started
  rw [hids] at hp
  obtain ⟨server, hserver, rfl⟩ := List.mem_map.1 hp
  exact hname server hserver

theorem Consistent.controller (h : Consistent K app) {a : ControllerAction Tx} {controller : Controller Key Tx}
    (hs : app.controller.step a = some controller) (hui : ∀ i e, a = .ui i e → app.eula = true) :
    Consistent K { app with controller } := by
  have hids := Controller.ids_step hs
  obtain ⟨servers, hname, hnamed, hstarted⟩ := h.started
  refine ⟨⟨servers, hname, hnamed.step hs, hids.trans hstarted⟩, fun saved hsaved => ?_, fun heula => ?_,
    h.savedConsent⟩
  · exact (h.saved saved hsaved).trans hids.symm
  · refine Controller.idle_step hs (fun i e he => ?_) (h.consent heula)
    exact Bool.noConfusion (heula.symm.trans (hui i e he))

theorem Consistent.save (h : Consistent K app) {servers : List (ServerPanel Key)}
    (hservers : app.controller.panels.servers = some servers) : Consistent K { app with
      storage := ⟨some (servers.map ServerPanel.toServer), some (toString app.eula)⟩ } := by
  refine ⟨h.started, fun saved hsaved => ?_, h.consent, fun htrue => ?_⟩
  · cases hsaved
    rw [GuiState.ids, hservers, List.map_map]
    rfl
  · show app.eula = true
    cases heula : app.eula with
    | true => rfl
    | false =>
      rw [heula] at htrue
      exact absurd (Option.some.inj htrue) (by decide)

theorem Consistent.start (h : Consistent K app) (key : Key) :
    Consistent K (new K app.storage key : MyApp Key Tx) := by
  refine consistent_new key fun servers hservers server hserver => ?_
  have hmem : server.id ∈ app.controller.panels.ids := h.saved servers hservers ▸ List.mem_map_of_mem hserver
  exact h.name hmem

theorem Consistent.step (h : Consistent K app) {a : MyAppAction Key Tx} (hs : app.step K a = some app') :
    Consistent K app' := by
  cases a with
  | controller a =>
    cases a with
    | ui i e =>
      simp only [MyApp.step] at hs
      split at hs
      · cases hs
      · next henabled =>
        obtain ⟨controller, hc, rfl⟩ := Option.map_eq_some_iff.1 hs
        refine h.controller hc fun _ _ _ => ?_
        by_contra heula
        exact henabled (by rw [disabled, Bool.eq_false_iff.2 heula]; simp)
    | _ =>
      obtain ⟨controller, hc, rfl⟩ := Option.map_eq_some_iff.1 hs
      exact h.controller hc fun _ _ he => by cases he
  | acceptEula =>
    simp only [MyApp.step] at hs
    split at hs
    · cases hs
    · cases hs
      exact ⟨h.started, h.saved, fun he => (by cases he), fun _ => rfl⟩
  | openHelp =>
    simp only [MyApp.step] at hs
    split at hs <;> cases hs
    exact ⟨h.started, h.saved, h.consent, h.savedConsent⟩
  | closeHelp =>
    simp only [MyApp.step] at hs
    split at hs <;> cases hs
    exact ⟨h.started, h.saved, h.consent, h.savedConsent⟩
  | save =>
    simp only [MyApp.step] at hs
    split at hs
    · cases hs
    · split at hs
      · cases hs
      · next servers hservers =>
        cases hs
        exact h.save hservers
  | start key =>
    cases hs
    exact h.start key

/-- In every run over the starts of the app: a panel shows the hostname of its key; what is saved are the names and
keys that are shown; a saved consent holds; and a client was made after the consent, from what a panel with a name
and a key that are shown made of the user's text. -/
theorem persists {key : Key} (h : Lts.Reach (step K) (fun _ _ => True) (new K ⟨none, none⟩ key) app) :
    (∀ p ∈ app.controller.panels.ids, p.1 = (K.getPublicKey p.2).getHostname C) ∧
    (∀ servers, app.storage.servers = some servers →
      servers.map Client.Server.id = app.controller.panels.ids) ∧
    (app.storage.eulaAccepted = some "true" → app.eula = true) ∧
    ∀ task ∈ app.controller.tasks, app.eula = true ∧ ∃ p : ServerPanel Key, p.id ∈ app.controller.panels.ids ∧
      task.server = Controller.clientServer p.connectServer := by
  have hinv : Consistent K app := h.invariant (I := Consistent K)
    (consistent_new key fun _ h => by cases h) fun _ ih _ hs => ih.step hs
  refine ⟨fun p hp => hinv.name hp, hinv.saved, hinv.savedConsent, fun task htask => ⟨?_, ?_⟩⟩
  · by_contra heula
    rw [(hinv.consent (Bool.eq_false_iff.2 heula)).1] at htask
    cases htask
  · obtain ⟨servers, -, hnamed, hids⟩ := hinv.started
    obtain ⟨p, hp, hserver⟩ := hnamed.tasks task htask
    obtain ⟨server, hmem, hname, hauth⟩ := hp
    refine ⟨p, ?_, hserver⟩
    rw [hids, ServerPanel.id, hname, hauth]
    exact List.mem_map_of_mem hmem

/-- The user consents and connects, the app saves and crashes, and the user connects again. -/
def connectAndRestart : List (MyAppAction Unit Unit) :=
  [.acceptEula, .controller (.ui 0 .button), .controller .gui, .save, .start (), .controller (.ui 0 .button),
    .controller .gui]

theorem persists_connectAndRestart : ∃ app : MyApp Unit Unit,
    Lts.run (step sampleSigner) (new sampleSigner ⟨none, none⟩ ()) connectAndRestart = some app ∧
      app.controller.tasks.length = 1 ∧ ∀ task ∈ app.controller.tasks, app.eula = true ∧ ∃ p : ServerPanel Unit,
        p.id ∈ app.controller.panels.ids ∧ task.server = Controller.clientServer p.connectServer := by
  have hrun : ∃ app : MyApp Unit Unit,
      Lts.run (step sampleSigner) (new sampleSigner ⟨none, none⟩ ()) connectAndRestart = some app ∧
        app.controller.tasks.length = 1 := ⟨_, rfl, rfl⟩
  obtain ⟨app, happ, hlen⟩ := hrun
  exact ⟨app, happ, hlen, (persists (.of_run happ (.of_forall (fun _ _ => trivial) _ _))).2.2.2⟩

end MyApp
end CraftIP
