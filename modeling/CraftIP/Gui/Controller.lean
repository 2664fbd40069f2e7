import CraftIP.Gui.ConnectionLoop

/-!
# The GUI's backend (`Controller` in `client-gui/src/backend.rs`)

Three parties share the panels: the UI thread, the controller, and the task in which `connection_loop` runs.
The UI's events and the sessions' stats come to the controller in two queues, and it takes from either one. A
task is aborted when it next gives way, not at once.
-/

namespace CraftIP

/-- A task that runs `connection_loop` for the server. It makes steps while it is polled; when it is aborted
it is not polled again. -/
structure ConnectionTask (Key Tx : Type) where
  server : Client.Server Key
  loop : ConnectionLoop Tx
  polling : Bool
  aborted : Bool

/-- The state of `update` with what it shares: the panels, whose mutex a panic poisons, the queues, and the
tasks, of which `connection_task` is one. -/
structure Controller (Key Tx : Type) where
  panels : GuiState Key
  poisoned : Bool
  guiRx : List (GuiTriggeredEvent Key)
  statsRx : List Stats
  connectionTask : Option Nat
  tasks : List (ConnectionTask Key Tx)

inductive ControllerAction (Tx : Type) where
  /-- The user does something in the panel with the number. -/
  | ui (i : Nat) (e : PanelEvent)
  /-- The controller takes from `stats_rx` or from `gui_rx`. -/
  | stats
  | gui
  /-- A task is polled, gives way, or makes a step. -/
  | poll (t : Nat)
  | yield (t : Nat)
  | loop (t : Nat) (a : LoopAction Tx)

namespace Controller
variable {Key Tx : Type}

def init (servers : List (Client.Server Key)) : Controller Key Tx := ⟨.new servers, false, [], [], none, []⟩

/-- `set_active_server`, whose result is unwrapped under the lock. -/
def setActiveServer (c : Controller Key Tx) (closure : ServerPanel Key → ServerPanel Key) : Controller Key Tx :=
  match c.panels.setActiveServer closure with
  | some panels => { c with panels }
  | none => { c with poisoned := true }

def handleStats (c : Controller Key Tx) : Stats → Controller Key Tx
  | .clientsConnected clients => c.setActiveServer fun s => { s with state := .connected clients }
  | .connected => c
  | .ping ping => c.setActiveServer fun s => { s with ping := some ping }

/-- The server for which a client is made. -/
def clientServer (server : Client.Server Key) : Client.Server Key :=
  if ':' ∈ server.localServer.toList then server
  else { server with server := server.server ++ ":" ++ server.localServer }

def abort (tasks : List (ConnectionTask Key Tx)) : Option Nat → List (ConnectionTask Key Tx)
  | none => tasks
  | some t => tasks.modify t fun task => { task with aborted := true }

def handleGui (c : Controller Key Tx) : GuiTriggeredEvent Key → Controller Key Tx
  | .connect server =>
    { c with
      tasks := c.tasks ++ [⟨clientServer server, .init, false, false⟩]
      connectionTask := some c.tasks.length }
  | .disconnect =>
    { c with tasks := abort c.tasks c.connectionTask, connectionTask := none }.setActiveServer
      fun s => { s with state := .disconnected, ping := none }

/-- The task has made a step; what it sent as stats is in the queue. -/
def putLoop (c : Controller Key Tx) (t : Nat) (task : ConnectionTask Key Tx) (loop : ConnectionLoop Tx) :
    Controller Key Tx :=
  { c with
    tasks := c.tasks.set t { task with loop }
    statsRx := c.statsRx ++ loop.client.stats.drop task.loop.client.stats.length }

/-- A step of the task, with its lock. -/
def handleLoop (c : Controller Key Tx) (t : Nat) (task : ConnectionTask Key Tx) (a : LoopAction Tx)
    (loop : ConnectionLoop Tx) : Controller Key Tx :=
  match task.loop.closure a with
  | none => c.putLoop t task loop
  | some closure => (c.putLoop t task loop).setActiveServer closure

/-- Nothing goes on when the mutex is poisoned. -/
def step (c : Controller Key Tx) (a : ControllerAction Tx) : Option (Controller Key Tx) :=
  if c.poisoned then none
  else
    match a with
    | .ui i e => (c.panels.render i e).map fun r => { c with panels := r.1, guiRx := c.guiRx ++ r.2.toList }
    | .stats =>
      match c.statsRx with
      | [] => none
      | stat :: rest => some ({ c with statsRx := rest }.handleStats stat)
    | .gui =>
      match c.guiRx with
      | [] => none
      | event :: rest => some ({ c with guiRx := rest }.handleGui event)
    | .poll t =>
      match c.tasks[t]? with
      | none => none
      | some task =>
        if task.aborted then none else some { c with tasks := c.tasks.set t { task with polling := true } }
    | .yield t =>
      match c.tasks[t]? with
      | none => none
      | some task => some { c with tasks := c.tasks.set t { task with polling := false } }
    | .loop t a =>
      match c.tasks[t]? with
      | none => none
      | some task =>
        if task.polling then (task.loop.step a).map fun loop => c.handleLoop t task a loop else none

variable {c c' : Controller Key Tx} {a : ControllerAction Tx}

/-- What a step does. -/
theorem step_eq_some (h : c.step a = some c') : c.poisoned = false ∧
    ((∃ i e panels event, a = .ui i e ∧ c.panels.render i e = some (panels, event) ∧
      c' = { c with panels, guiRx := c.guiRx ++ event.toList }) ∨
    (∃ stat rest, a = .stats ∧ c.statsRx = stat :: rest ∧ c' = { c with statsRx := rest }.handleStats stat) ∨
    (∃ event rest, a = .gui ∧ c.guiRx = event :: rest ∧ c' = { c with guiRx := rest }.handleGui event) ∨
    (∃ t task polling, c.tasks[t]? = some task ∧ (a = .poll t ∨ a = .yield t) ∧
      c' = { c with tasks := c.tasks.set t { task with polling } }) ∨
    (∃ t task la loop, a = .loop t la ∧ c.tasks[t]? = some task ∧ task.loop.step la = some loop ∧
      c' = c.handleLoop t task la loop)) := by
  cases hpoisoned : c.poisoned with
  | true => simp [step, hpoisoned] at h
  | false =>
    refine ⟨rfl, ?_⟩
    cases a with
    | ui i e =>
      simp only [step, hpoisoned, Bool.false_eq_true, if_false] at h
      obtain ⟨⟨panels, event⟩, hr, rfl⟩ := Option.map_eq_some_iff.1 h
      exact .inl ⟨i, e, panels, event, rfl, hr, rfl⟩
    | stats =>
      simp only [step, hpoisoned, Bool.false_eq_true, if_false] at h
      split at h
      · cases h
      · next stat rest hq => cases h; exact .inr (.inl ⟨stat, rest, rfl, hq, rfl⟩)
    | gui =>
      simp only [step, hpoisoned, Bool.false_eq_true, if_false] at h
      split at h
      · cases h
      · next event rest hq => cases h; exact .inr (.inr (.inl ⟨event, rest, rfl, hq, rfl⟩))
    | poll t =>
      simp only [step, hpoisoned, Bool.false_eq_true, if_false] at h
      split at h
      · cases h
      · next task ht =>
        split at h
        · cases h
        · cases h; exact .inr (.inr (.inr (.inl ⟨t, task, true, ht, .inl rfl, rfl⟩)))
    | yield t =>
      simp only [step, hpoisoned, Bool.false_eq_true, if_false] at h
      split at h
      · cases h
      · next task ht => cases h; exact .inr (.inr (.inr (.inl ⟨t, task, false, ht, .inr rfl, rfl⟩)))
    | loop t la =>
      simp only [step, hpoisoned, Bool.false_eq_true, if_false] at h
      split at h
      · cases h
      · next task ht =>
        split at h
        · obtain ⟨loop, hl, rfl⟩ := Option.map_eq_some_iff.1 h
          exact .inr (.inr (.inr (.inr ⟨t, task, la, loop, rfl, ht, hl, rfl⟩)))
        · cases h

/-- A change of the active panel, where `k` says what it makes of state and error. -/
theorem setActiveServer_eq {closure : ServerPanel Key → ServerPanel Key}
    {k : ServerState × Option PanelError → ServerState × Option PanelError}
    (hk : ∀ p, (closure p).shown = k p.shown) :
    (c.panels.shown = [] ∧ c.setActiveServer closure = { c with poisoned := true }) ∨
      ∃ panels x rest, c.setActiveServer closure = { c with panels } ∧ c.panels.shown = x :: rest ∧
        panels.shown = if (k x).1 ≠ .disconnected then k x :: rest else rest := by
  cases hset : c.panels.setActiveServer closure with
  | none => exact .inl ⟨GuiState.setActiveServer_eq_none_iff.1 hset, by rw [setActiveServer, hset]⟩
  | some panels =>
    obtain ⟨x, rest, hx, hx'⟩ := GuiState.shown_setActiveServer hk hset
    exact .inr ⟨panels, x, rest, by rw [setActiveServer, hset], hx, hx'⟩

theorem eq_nil_of_shown (h : c.panels.shown.length ≤ 1) {x : ServerState × Option PanelError}
    {rest : List (ServerState × Option PanelError)} (hx : c.panels.shown = x :: rest) : rest = [] := by
  rw [hx, List.length_cons] at h
  exact List.eq_nil_of_length_eq_zero (by omega)

end Controller
end CraftIP
