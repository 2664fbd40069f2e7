import CraftIP.Gui.Controller

/-!
# The active panel is there when it is changed

Every `set_active_server` of the controller and of `connection_loop` is unwrapped under the lock, so that it
has to find a panel that is not disconnected. One is there from the click on Connect until the controller has
taken the user's Disconnect. What comes too late, counts and pings that still wait, a step of the aborted task
or a second Disconnect, finds none; without these no step panics (`Controller.not_poisoned_of_orderly`).
-/

namespace CraftIP

theorem getElem?_set_eq_some {α : Type} {l : List α} {i j : Nat} {x y : α} (h : (l.set i x)[j]? = some y) :
    (i = j ∧ y = x) ∨ (i ≠ j ∧ l[j]? = some y) := by
  by_cases hij : i = j
  · subst hij
    rw [List.getElem?_set_self'] at h
    obtain ⟨z, -, rfl⟩ := Option.map_eq_some_iff.1 h
    exact .inl ⟨rfl, rfl⟩
  · rw [List.getElem?_set_ne hij] at h
    exact .inr ⟨hij, h⟩

namespace Controller
variable {Key Tx : Type} {c c' : Controller Key Tx} {a : ControllerAction Tx}

/-- Disconnect is not clicked while a Disconnect waits, the controller takes a Disconnect when no count or ping
waits, and while no panel is active an aborted task neither takes the lock nor reports a count or ping. -/
def Orderly (c : Controller Key Tx) : ControllerAction Tx → Prop
  | .ui _ e => e = .button → ∀ event ∈ c.guiRx, event.isDisconnect = false
  | .gui => c.guiRx.head?.any (·.isDisconnect) = true → ∀ stat ∈ c.statsRx, stat = .connected
  | .loop t a =>
    c.panels.shown = [] → ∀ task ∈ c.tasks[t]?, task.aborted = true → task.loop.quiet a = true
  | .stats | .poll _ | .yield _ => True

instance (c : Controller Key Tx) (a : ControllerAction Tx) : Decidable (c.Orderly a) :=
  match a with
  | .ui _ e => inferInstanceAs (Decidable (e = .button → ∀ event ∈ c.guiRx, event.isDisconnect = false))
  | .gui =>
    inferInstanceAs (Decidable (c.guiRx.head?.any (·.isDisconnect) = true → ∀ stat ∈ c.statsRx, stat = .connected))
  | .loop t a => inferInstanceAs (Decidable (c.panels.shown = [] →
      ∀ task ∈ c.tasks[t]?, task.aborted = true → task.loop.quiet a = true))
  | .stats | .poll _ | .yield _ => isTrue trivial

/-- What waits for the controller: a Connect, a Disconnect, or the one before the other. -/
def Dialog : List (GuiTriggeredEvent Key) → Prop
  | [] | [_] | [.connect _, .disconnect] => True
  | _ => False

theorem Dialog.cons {event : GuiTriggeredEvent Key} {rest : List (GuiTriggeredEvent Key)}
    (h : Dialog (event :: rest)) :
    (event = .disconnect ∧ rest = []) ∨
      ∃ server, event = .connect server ∧ (rest = [] ∨ rest = [.disconnect]) := by
  cases event with
  | connect server =>
    refine .inr ⟨server, rfl, ?_⟩
    match rest, h with
    | [], _ => exact .inl rfl
    | [.disconnect], _ => exact .inr rfl
  | disconnect =>
    match rest, h with
    | [], _ => exact .inl ⟨rfl, rfl⟩
    | _ :: _, h => simp [Dialog] at h

theorem Dialog.concat {l : List (GuiTriggeredEvent Key)} (h : Dialog l)
    (hnone : ∀ event ∈ l, event.isDisconnect = false) : Dialog (l ++ [.disconnect]) := by
  cases l with
  | nil => trivial
  | cons event rest =>
    rcases h.cons with ⟨rfl, -⟩ | ⟨server, rfl, rfl | rfl⟩
    · exact absurd (hnone _ List.mem_cons_self) Bool.noConfusion
    · trivial
    · exact absurd (hnone .disconnect (by simp)) Bool.noConfusion

/-- The invariant: whatever leads to a change of the active panel is there only while a panel is active. -/
structure Calm (c : Controller Key Tx) : Prop where
  poisoned : c.poisoned = false
  one : c.panels.shown.length ≤ 1
  dialog : Dialog c.guiRx
  waits : c.guiRx ≠ [] → c.panels.shown ≠ []
  connects : ∀ server, .connect server ∈ c.guiRx → c.connectionTask = none
  serves : c.connectionTask ≠ none → c.panels.shown ≠ []
  tasks : ∀ (t : Nat) task, c.tasks[t]? = some task → task.aborted = false → c.connectionTask = some t
  stats : ∀ stat ∈ c.statsRx, stat = .connected ∨ c.panels.shown ≠ []

theorem Calm.init (servers : List (Client.Server Key)) : Calm (init servers : Controller Key Tx) where
  poisoned := rfl
  one := by rw [Controller.init, GuiState.shown_new]; exact Nat.zero_le _
  dialog := trivial
  waits h := absurd rfl h
  connects _ h := by cases h
  serves h := absurd rfl h
  tasks _ _ h := by cases h
  stats _ h := by cases h

/-- A change of the active panel that leaves it active. -/
theorem Calm.setActiveServer (h : Calm c) {closure : ServerPanel Key → ServerPanel Key}
    {k : ServerState × Option PanelError → ServerState × Option PanelError}
    (hk : ∀ p, (closure p).shown = k p.shown) (hactive : ∀ x, x.1 ≠ .disconnected → (k x).1 ≠ .disconnected)
    (hshown : c.panels.shown ≠ []) : Calm (c.setActiveServer closure) := by
  rcases setActiveServer_eq (c := c) hk with ⟨hnone, -⟩ | ⟨panels, x, rest, he, hx, hx'⟩
  · exact absurd hnone hshown
  rw [if_pos (hactive x (GuiState.mem_shown (hx ▸ List.mem_cons_self)))] at hx'
  have hne : panels.shown ≠ [] := by rw [hx']; exact List.cons_ne_nil _ _
  have hone : panels.shown.length ≤ 1 := by
    have hlen := h.one
    rw [hx] at hlen
    rw [hx']; exact hlen
  rw [he]
  exact ⟨h.poisoned, hone, h.dialog, fun _ => hne, h.connects, fun _ => hne, h.tasks, fun _ _ => .inr hne⟩

theorem Calm.ui {i : Nat} {e : PanelEvent} {panels : GuiState Key} {event : Option (GuiTriggeredEvent Key)}
    (h : Calm c) (hcond : c.Orderly (.ui i e)) (hr : c.panels.render i e = some (panels, event)) :
    Calm { c with panels, guiRx := c.guiRx ++ event.toList } := by
  rcases GuiState.render_eq_some hr with ⟨rfl, hshown⟩ | ⟨server, rfl, rfl, hnone, hshown⟩ |
    ⟨rfl, rfl, l₁, x, l₂, hl, hshown⟩
  · rw [Option.toList_none, List.append_nil]
    exact ⟨h.poisoned, hshown ▸ h.one, h.dialog, hshown ▸ h.waits, h.connects, hshown ▸ h.serves, h.tasks,
      hshown ▸ h.stats⟩
  · -- nothing waits and no task is served, as no panel was active
    have hrx : c.guiRx = [] := by_contra fun hne => h.waits hne hnone
    have htask : c.connectionTask = none := by_contra fun hne => h.serves hne hnone
    have hne : panels.shown ≠ [] := by rw [hshown]; exact List.cons_ne_nil _ _
    refine ⟨h.poisoned, ?_, ?_, fun _ => hne, fun _ _ => htask, fun _ => hne, h.tasks, fun _ _ => .inr hne⟩
    · rw [hshown]; exact Nat.le_refl 1
    · rw [hrx]; trivial
  · have hne : panels.shown ≠ [] := by rw [hshown]; simp
    have hold : c.panels.shown ≠ [] := by rw [hl]; simp
    refine ⟨h.poisoned, ?_, ?_, fun _ => hne, ?_, fun _ => hne, h.tasks, fun _ _ => .inr hne⟩
    · have hlen := h.one
      rw [hl] at hlen
      rw [hshown]
      simpa using hlen
    · exact h.dialog.concat (hcond rfl)
    · intro server hmem
      exact h.connects server (by simpa using hmem)

theorem Calm.handleStats {stat : Stats} {rest : List Stats} (h : Calm c) (hq : c.statsRx = stat :: rest) :
    Calm ({ c with statsRx := rest }.handleStats stat) := by
  have hrest : Calm { c with statsRx := rest } :=
    { h with stats := fun stat' hmem => h.stats stat' (hq ▸ List.mem_cons_of_mem _ hmem) }
  have hstat := h.stats stat (hq ▸ List.mem_cons_self)
  cases stat with
  | connected => exact hrest
  | clientsConnected n =>
    exact hrest.setActiveServer (k := fun x => (.connected n, x.2)) (fun _ => rfl) (fun _ _ => by simp)
      (hstat.resolve_left (by simp))
  | ping ping =>
    exact hrest.setActiveServer (k := fun x => x) (fun _ => rfl) (fun _ hx => hx) (hstat.resolve_left (by simp))

theorem Calm.connect {server : Client.Server Key} {rest : List (GuiTriggeredEvent Key)} (h : Calm c)
    (hq : c.guiRx = .connect server :: rest) : Calm ({ c with guiRx := rest }.handleGui (.connect server)) := by
  have htask := h.connects server (hq ▸ List.mem_cons_self)
  have hshown := h.waits (by rw [hq]; exact List.cons_ne_nil _ _)
  have hrest : rest = [] ∨ rest = [.disconnect] := by
    rcases (hq ▸ h.dialog).cons with ⟨he, -⟩ | ⟨_, -, hrest⟩
    · cases he
    · exact hrest
  refine ⟨h.poisoned, h.one, ?_, fun _ => hshown, ?_, fun _ => hshown, ?_, fun _ _ => .inr hshown⟩
  · rcases hrest with rfl | rfl <;> trivial
  · intro server' hmem
    have hmem : .connect server' ∈ rest := hmem
    rcases hrest with rfl | rfl <;> simp at hmem
  · intro t task ht haborted
    have ht : (c.tasks ++ [(⟨clientServer server, .init, false, false⟩ : ConnectionTask Key Tx)])[t]? =
      some task := ht
    by_cases hlt : t < c.tasks.length
    · rw [List.getElem?_append_left hlt] at ht
      rw [h.tasks t task ht haborted] at htask
      cases htask
    · obtain ⟨hlen, -⟩ := List.getElem?_eq_some_iff.1 ht
      rw [List.length_append, List.length_singleton] at hlen
      exact congrArg some (show c.tasks.length = t by omega)

theorem Calm.disconnect {rest : List (GuiTriggeredEvent Key)} (h : Calm c) (hcond : c.Orderly .gui)
    (hq : c.guiRx = .disconnect :: rest) : Calm ({ c with guiRx := rest }.handleGui .disconnect) := by
  have hrest : rest = [] := by
    rcases (hq ▸ h.dialog).cons with ⟨-, hrest⟩ | ⟨_, he, -⟩
    · exact hrest
    · cases he
  subst hrest
  have hstats : ∀ stat ∈ c.statsRx, stat = .connected := hcond (by rw [hq]; rfl)
  have hshown := h.waits (by rw [hq]; exact List.cons_ne_nil _ _)
  have hk : ∀ p : ServerPanel Key, ServerPanel.shown { p with state := .disconnected, ping := none } =
    (ServerState.disconnected, p.shown.2) := fun _ => rfl
  rcases setActiveServer_eq (c := { c with
    guiRx := [], tasks := abort c.tasks c.connectionTask, connectionTask := none })
    (k := fun x => (.disconnected, x.2)) hk with ⟨hnone, -⟩ | ⟨panels, x, rest, he, hx, hx'⟩
  · exact absurd hnone hshown
  · obtain rfl := eq_nil_of_shown h.one hx
    have hnone : panels.shown = [] := by rw [hx', if_neg (by simp)]
    rw [handleGui, he]
    refine ⟨h.poisoned, ?_, trivial, fun hne => absurd rfl hne, fun _ hmem => (by cases hmem),
      fun hne => absurd rfl hne, ?_, fun stat hmem => .inl (hstats stat hmem)⟩
    · rw [hnone]; exact Nat.zero_le _
    · intro t task ht haborted
      cases hct : c.connectionTask with
      | none =>
        rw [hct] at ht
        rw [h.tasks t task ht haborted] at hct
        cases hct
      | some t' =>
        rw [hct, abort, List.getElem?_modify] at ht
        obtain ⟨task', ht', rfl⟩ := Option.map_eq_some_iff.1 ht
        split at haborted
        · cases haborted
        · next hne => exact absurd (Option.some.inj (hct.symm.trans (h.tasks t task' ht' haborted))) hne

theorem Calm.putLoop {t : Nat} {task : ConnectionTask Key Tx} {loop : ConnectionLoop Tx} (h : Calm c)
    (ht : c.tasks[t]? = some task)
    (hstats : ∀ stat ∈ loop.client.stats.drop task.loop.client.stats.length,
      stat = .connected ∨ c.panels.shown ≠ []) : Calm (c.putLoop t task loop) := by
  refine { h with tasks := fun t' task' ht' haborted => ?_, stats := fun stat hmem => ?_ }
  · rcases getElem?_set_eq_some ht' with ⟨rfl, rfl⟩ | ⟨-, ht'⟩
    · exact h.tasks t task ht haborted
    · exact h.tasks t' task' ht' haborted
  · rcases List.mem_append.1 hmem with hmem | hmem
    · exact h.stats stat hmem
    · exact hstats stat hmem

theorem Calm.handleLoop {t : Nat} {task : ConnectionTask Key Tx} {la : LoopAction Tx} {loop : ConnectionLoop Tx}
    (h : Calm c) (hcond : c.Orderly (.loop t la)) (ht : c.tasks[t]? = some task)
    (hl : task.loop.step la = some loop) : Calm (c.handleLoop t task la loop) := by
  by_cases hshown : c.panels.shown = []
  · -- only an aborted task is left, and it does nothing that can be seen
    have haborted : task.aborted = true := by
      by_contra hnot
      exact h.serves (by rw [h.tasks t task ht (Bool.eq_false_iff.2 hnot)]; simp) hshown
    have hquiet := hcond hshown task ht haborted
    rw [Controller.handleLoop, ConnectionLoop.closure_of_quiet hquiet]
    refine h.putLoop ht fun stat hmem => .inl ?_
    rcases ConnectionLoop.stats_of_quiet hquiet hl with hstats | hstats
    · rw [hstats, List.drop_length] at hmem; cases hmem
    · rw [hstats, List.drop_left] at hmem; exact List.mem_singleton.1 hmem
  · have hput : Calm (c.putLoop t task loop) := h.putLoop ht fun _ _ => .inr hshown
    rw [Controller.handleLoop]
    cases hclosure : (task.loop.closure la : Option (ServerPanel Key → ServerPanel Key)) with
    | none => exact hput
    | some closure =>
      obtain ⟨x, hx, hcases⟩ := ConnectionLoop.shown_closure hclosure
      have hactive : x.1 ≠ .disconnected := by
        rcases hcases with ⟨-, -, rfl⟩ | ⟨attempt, error, rfl⟩ <;> simp
      exact hput.setActiveServer (k := fun _ => x) hx (fun _ _ => hactive) hshown

theorem Calm.step (h : Calm c) (hcond : c.Orderly a) (hs : c.step a = some c') : Calm c' := by
  obtain ⟨-, ⟨i, e, panels, event, rfl, hr, rfl⟩ | ⟨stat, rest, rfl, hq, rfl⟩ | ⟨event, rest, rfl, hq, rfl⟩ |
    ⟨t, task, polling, ht, -, rfl⟩ | ⟨t, task, la, loop, rfl, ht, hl, rfl⟩⟩ := step_eq_some hs
  · exact h.ui hcond hr
  · exact h.handleStats hq
  · cases event with
    | connect server => exact h.connect hq
    | disconnect => exact h.disconnect hcond hq
  · refine { h with tasks := fun t' task' ht' haborted => ?_ }
    rcases getElem?_set_eq_some ht' with ⟨rfl, rfl⟩ | ⟨-, ht'⟩
    · exact h.tasks t task ht haborted
    · exact h.tasks t' task' ht' haborted
  · exact h.handleLoop hcond ht hl

/-- In every orderly run no `set_active_server` fails whose result is unwrapped. -/
theorem not_poisoned_of_orderly {servers : List (Client.Server Key)}
    (h : Lts.Reach step Orderly (init servers) c) : c.poisoned = false :=
  (h.invariant (Calm.init servers) fun _ ih hc hs => ih.step hc hs).poisoned

/-! ### A session and its end -/

def sampleServer : Client.Server Unit := ⟨"a.t.craftip.net", "25565", ()⟩

/-- The user connects and a player joins. -/
def connectAndJoin : List (ControllerAction Unit) :=
  [.ui 0 .button, .gui, .poll 0, .loop 0 (.attempt (.ok ())), .loop 0 .setResult,
    .loop 0 (.event (.next (some (.ok (.proxyJoin 0))) () true 0)), .yield 0]

/-- The controller takes what was reported before it takes the Disconnect. -/
theorem not_poisoned_statsThenDisconnect : ∃ c, Lts.run step (init [sampleServer])
    (connectAndJoin ++ [.ui 0 .button, .stats, .stats, .gui]) = some c ∧
      c.panels.shown = [] ∧ c.poisoned = false := by
  have hrun : ∃ c, Lts.run step (init [sampleServer])
    (connectAndJoin ++ [.ui 0 .button, .stats, .stats, .gui]) = some c ∧ c.panels.shown = [] := ⟨_, rfl, rfl⟩
  obtain ⟨c, hc, hshown⟩ := hrun
  exact ⟨c, hc, hshown, not_poisoned_of_orderly (.of_run hc (by decide +kernel))⟩

/-- The controller takes the Disconnect first. -/
theorem poisoned_disconnectThenStats : ¬ ∀ (as : List (ControllerAction Unit)) (c : Controller Unit Unit),
    Lts.run step (init [sampleServer]) as = some c → c.poisoned = false := by
  intro h
  have hpoisoned := h (connectAndJoin ++ [.ui 0 .button, .gui, .stats, .stats]) _ rfl
  cases hpoisoned

end Controller
end CraftIP
