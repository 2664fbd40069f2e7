import CraftIP.Gui.Active

/-!
# The client of the active panel

What the active panel shows is what is connected: the address cannot be edited while the panel is active, so in
every orderly run the one client that is not aborted was made from the name, the key and the local address that
stand in the one active panel (`Controller.active_client`).
-/

namespace CraftIP

namespace ServerPanel
variable {Key : Type} {p p' : ServerPanel Key}

theorem connectServer_congr (h : p'.toServer = p.toServer) : p'.connectServer = p.connectServer := by
  rw [connectServer, connectServer, h]

/-- Without an event only the address changes, of a panel that is edited or disconnected. -/
theorem render_cases {enabled : Bool} {e : PanelEvent} {event : Option (GuiTriggeredEvent Key)}
    (h : p.render enabled e = some (p', event)) :
    (event = none ∧ p'.active = p.active ∧ (p.editLocal = none → p.active = false)) ∨
    (p'.toServer = p.toServer ∧ p'.editLocal = none ∧ p'.active = true ∧
      ((event = some (.connect p.connectServer) ∧ p.active = false) ∨ (event = some .disconnect ∧ p.active = true))) := by
  cases enabled with
  | false => cases h
  | true =>
    cases hedit : p.editLocal with
    | none =>
      cases e with
      | edit =>
        simp only [render, hedit, Bool.not_true, Bool.false_eq_true, if_false] at h
        split at h
        · next hs =>
          cases h
          refine .inl ⟨rfl, rfl, fun _ => ?_⟩
          rw [active, hs]
          rfl
        · cases h
      | button =>
        simp only [render, hedit, Bool.not_true, Bool.false_eq_true, if_false] at h
        cases hs : p.state with
        | disconnected =>
          rw [hs] at h
          cases h
          exact .inr ⟨rfl, rfl, rfl, .inl ⟨rfl, by rw [active, hs]; rfl⟩⟩
        | connecting attempt =>
          rw [hs] at h
          cases h
          exact .inr ⟨rfl, rfl, rfl, .inr ⟨rfl, by rw [active, hs]; rfl⟩⟩
        | connected clients =>
          rw [hs] at h
          cases h
          exact .inr ⟨rfl, rfl, rfl, .inr ⟨rfl, by rw [active, hs]; rfl⟩⟩
        | disconnecting =>
          rw [hs] at h
          cases h
      | _ => simp [render, hedit] at h
    | some text =>
      cases e <;> simp only [render, hedit, Bool.not_true, Bool.false_eq_true, if_false] at h <;> cases h <;>
        exact .inl ⟨rfl, rfl, fun he => by cases he⟩

end ServerPanel

namespace GuiState
variable {Key : Type} {g g' : GuiState Key}

/-- The panels that are not disconnected. -/
def active (g : GuiState Key) : List (ServerPanel Key) := (g.servers.getD []).filter ServerPanel.active

theorem shown_eq (g : GuiState Key) : g.shown = g.active.map ServerPanel.shown := rfl

theorem active_eq_nil_iff : g.active = [] ↔ g.shown = [] := by rw [shown_eq, List.map_eq_nil_iff]

/-- Of each active panel there was one before with the same server, and no active panel is edited. -/
structure Kept (g g' : GuiState Key) : Prop where
  server : ∀ p' ∈ g'.active, ∃ p ∈ g.active, p'.toServer = p.toServer
  editLocal : (∀ p ∈ g.active, p.editLocal = none) → ∀ p' ∈ g'.active, p'.editLocal = none

theorem Kept.refl (g : GuiState Key) : Kept g g := ⟨fun p hp => ⟨p, hp, rfl⟩, fun h => h⟩

theorem kept_setActiveServer {closure : ServerPanel Key → ServerPanel Key}
    (hk : ∀ p, (closure p).toServer = p.toServer ∧ (closure p).editLocal = p.editLocal)
    (h : g.setActiveServer closure = some g') : Kept g g' := by
  rw [setActiveServer] at h
  cases hs : g.servers with
  | none => rw [hs] at h; cases h
  | some servers =>
    rw [hs] at h
    obtain ⟨servers', hs', rfl⟩ := Option.map_eq_some_iff.1 h
    obtain ⟨p, rest, hp, hrest⟩ := filter_changeFirst hs'
    have hold : g.active = p :: rest := by rw [active, hs]; exact hp
    have hsub : ∀ p' ∈ active ⟨some servers'⟩, p' = closure p ∨ p' ∈ rest := by
      intro p' hp'
      have hp' : p' ∈ if (closure p).active then closure p :: rest else rest := hrest ▸ hp'
      split at hp'
      · exact List.mem_cons.1 hp'
      · exact .inr hp'
    rw [← hold] at hp
    constructor
    · intro p' hp'
      rw [hold]
      rcases hsub p' hp' with rfl | hmem
      · exact ⟨p, List.mem_cons_self, (hk p).1⟩
      · exact ⟨p', List.mem_cons_of_mem _ hmem, rfl⟩
    · intro hedit p' hp'
      rw [hold] at hedit
      rcases hsub p' hp' with rfl | hmem
      · rw [(hk p).2]
        exact hedit p List.mem_cons_self
      · exact hedit p' (List.mem_cons_of_mem _ hmem)

/-- A frame: nothing active changes, a panel becomes active when none was, or the server of each stays. -/
theorem render_active (hedit : ∀ p ∈ g.active, p.editLocal = none) {i : Nat} {e : PanelEvent}
    {event : Option (GuiTriggeredEvent Key)} (h : g.render i e = some (g', event)) :
    (event = none ∧ g'.active = g.active) ∨
    (∃ p', event = some (.connect p'.connectServer) ∧ p'.editLocal = none ∧ g.active = [] ∧ g'.active = [p']) ∨
    (event = some .disconnect ∧ Kept g g') := by
  have hframe := render_eq_some h
  rw [render] at h
  cases hs : g.servers with
  | none => rw [hs] at h; cases h
  | some servers =>
    simp only [hs] at h
    cases hi : servers[i]? with
    | none => rw [hi] at h; cases h
    | some p =>
      simp only [hi] at h
      obtain ⟨⟨p', event'⟩, hp, he⟩ := Option.map_eq_some_iff.1 h
      cases he
      obtain ⟨l₁, l₂, hl, hset⟩ := exists_set hi
      have hold : g.active = l₁.filter ServerPanel.active ++ (p :: l₂).filter ServerPanel.active := by
        rw [active, hs, ← List.filter_append, ← hl]
        rfl
      have hnew : active ⟨some (servers.set i p')⟩ =
          l₁.filter ServerPanel.active ++ (p' :: l₂).filter ServerPanel.active := by
        rw [active, hset, ← List.filter_append]
        rfl
      rcases ServerPanel.render_cases hp with ⟨rfl, hactive, hdisc⟩ | ⟨hserver, hnone, hactive', hcase⟩
      · -- the panel is not active
        have hinactive : p.active = false := by
          by_contra hne
          have hp' := Bool.eq_true_of_not_eq_false hne
          refine hne (hdisc (hedit p ?_))
          rw [hold, List.filter_cons_of_pos hp']
          simp
        refine .inl ⟨rfl, ?_⟩
        rw [hold, hnew, List.filter_cons_of_neg (by simp [hactive, hinactive]),
          List.filter_cons_of_neg (by simp [hinactive])]
      · rw [List.filter_cons_of_pos hactive'] at hnew
        rcases hcase with ⟨rfl, hactive⟩ | ⟨rfl, hactive⟩
        · rw [List.filter_cons_of_neg (by simp [hactive])] at hold
          have hnil : g.active = [] := by
            rcases hframe with ⟨he, -⟩ | ⟨_, -, -, hshown, -⟩ | ⟨-, he, -⟩
            · cases he
            · exact active_eq_nil_iff.2 hshown
            · cases he
          refine .inr (.inl ⟨p', by rw [ServerPanel.connectServer_congr hserver], hnone, hnil, ?_⟩)
          rw [hnil] at hold
          obtain ⟨h₁, h₂⟩ := List.append_eq_nil_iff.1 hold.symm
          rw [hnew, h₁, h₂]
          rfl
        · rw [List.filter_cons_of_pos hactive] at hold
          refine .inr (.inr ⟨rfl, ?_, fun _ q hq => ?_⟩)
          · intro q hq
            rw [hnew] at hq
            rw [hold]
            rcases List.mem_append.1 hq with hq | hq
            · exact ⟨q, List.mem_append_left _ hq, rfl⟩
            · rcases List.mem_cons.1 hq with rfl | hq
              · exact ⟨p, List.mem_append_right _ List.mem_cons_self, hserver⟩
              · exact ⟨q, List.mem_append_right _ (List.mem_cons_of_mem _ hq), rfl⟩
          · rw [hnew] at hq
            rw [hold] at hedit
            rcases List.mem_append.1 hq with hq | hq
            · exact hedit q (List.mem_append_left _ hq)
            · rcases List.mem_cons.1 hq with rfl | hq
              · exact hnone
              · exact hedit q (List.mem_append_right _ (List.mem_cons_of_mem _ hq))

end GuiState

namespace Controller
variable {Key Tx : Type} {c c' : Controller Key Tx} {a : ControllerAction Tx}

/-- The active panels are not edited, and what was or will be connected is what they show. -/
structure Faithful (c : Controller Key Tx) : Prop where
  editing : ∀ p ∈ c.panels.active, p.editLocal = none
  connects : ∀ server, .connect server ∈ c.guiRx → ∀ p ∈ c.panels.active, server = p.connectServer
  tasks : ∀ (t : Nat) task, c.tasks[t]? = some task → task.aborted = false →
    ∀ p ∈ c.panels.active, task.server = clientServer p.connectServer

theorem Faithful.init (servers : List (Client.Server Key)) : Faithful (init servers : Controller Key Tx) where
  editing p hp := by
    rw [Controller.init, GuiState.active_eq_nil_iff.2 (GuiState.shown_new servers)] at hp
    cases hp
  connects _ h := by cases h
  tasks _ _ h := by cases h

/-- New panels, with the servers of the old, and no new Connect or client. -/
theorem Faithful.kept (h : Faithful c) (hkept : c.panels.Kept c'.panels)
    (hconnects : ∀ server, .connect server ∈ c'.guiRx → .connect server ∈ c.guiRx)
    (htasks : ∀ (t : Nat) task, c'.tasks[t]? = some task → task.aborted = false →
      ∃ task₀, c.tasks[t]? = some task₀ ∧ task₀.aborted = false ∧ task₀.server = task.server) : Faithful c' where
  editing := hkept.editLocal h.editing
  connects server hmem p' hp' := by
    obtain ⟨p, hp, hserver⟩ := hkept.server p' hp'
    rw [ServerPanel.connectServer_congr hserver]
    exact h.connects server (hconnects server hmem) p hp
  tasks t task ht haborted p' hp' := by
    obtain ⟨p, hp, hserver⟩ := hkept.server p' hp'
    obtain ⟨task₀, ht₀, haborted₀, heq⟩ := htasks t task ht haborted
    rw [ServerPanel.connectServer_congr hserver, ← heq]
    exact h.tasks t task₀ ht₀ haborted₀ p hp

theorem Faithful.setActiveServer (h : Faithful c) {closure : ServerPanel Key → ServerPanel Key}
    (hk : ∀ p, (closure p).toServer = p.toServer ∧ (closure p).editLocal = p.editLocal) :
    Faithful (c.setActiveServer closure) := by
  rw [Controller.setActiveServer]
  cases hset : c.panels.setActiveServer closure with
  | none => exact ⟨h.editing, h.connects, h.tasks⟩
  | some panels =>
    exact h.kept (GuiState.kept_setActiveServer hk hset) (fun _ h => h) fun t task ht haborted =>
      ⟨task, ht, haborted, rfl⟩

theorem Faithful.ui {i : Nat} {e : PanelEvent} {panels : GuiState Key} {event : Option (GuiTriggeredEvent Key)}
    (h : Faithful c) (hcalm : Calm c) (hr : c.panels.render i e = some (panels, event)) :
    Faithful { c with panels, guiRx := c.guiRx ++ event.toList } := by
  rcases GuiState.render_active h.editing hr with ⟨rfl, hactive⟩ | ⟨p, rfl, hedit, hnil, hactive⟩ | ⟨rfl, hkept⟩
  · rw [Option.toList_none, List.append_nil]
    exact ⟨by rw [hactive]; exact h.editing, by rw [hactive]; exact h.connects, by rw [hactive]; exact h.tasks⟩
  · -- no panel was active, so nothing waits and every task is aborted
    have hshown := GuiState.active_eq_nil_iff.1 hnil
    have hrx : c.guiRx = [] := by_contra fun hne => hcalm.waits hne hshown
    have htask : c.connectionTask = none := by_contra fun hne => hcalm.serves hne hshown
    refine ⟨fun q hq => ?_, fun server hmem q hq => ?_, fun t task ht haborted => ?_⟩
    · rw [hactive] at hq
      rw [List.mem_singleton.1 hq]
      exact hedit
    · rw [hactive] at hq
      rw [hrx] at hmem
      rw [List.mem_singleton.1 hq]
      have hconnect := List.mem_singleton.1 hmem
      cases hconnect
      rfl
    · have hcurrent := hcalm.tasks t task ht haborted
      rw [htask] at hcurrent
      cases hcurrent
  · refine h.kept hkept (fun server hmem => ?_) fun t task ht haborted => ⟨task, ht, haborted, rfl⟩
    simpa using hmem

theorem Faithful.connect {server : Client.Server Key} {rest : List (GuiTriggeredEvent Key)} (h : Faithful c)
    (hcalm : Calm c) (hq : c.guiRx = .connect server :: rest) :
    Faithful ({ c with guiRx := rest }.handleGui (.connect server)) := by
  refine ⟨h.editing, fun server' hmem => h.connects server' (hq ▸ List.mem_cons_of_mem _ hmem),
    fun t task ht haborted => ?_⟩
  have ht : (c.tasks ++ [(⟨clientServer server, .init, false, false⟩ : ConnectionTask Key Tx)])[t]? =
    some task := ht
  by_cases hlt : t < c.tasks.length
  · rw [List.getElem?_append_left hlt] at ht
    have hcurrent := hcalm.tasks t task ht haborted
    rw [hcalm.connects server (hq ▸ List.mem_cons_self)] at hcurrent
    cases hcurrent
  · rw [List.getElem?_append_right (Nat.le_of_not_lt hlt)] at ht
    intro p hp
    rw [← h.connects server (hq ▸ List.mem_cons_self) p hp, List.mem_singleton.1 (List.mem_of_getElem? ht)]

theorem Faithful.disconnect {rest : List (GuiTriggeredEvent Key)} (h : Faithful c)
    (hq : c.guiRx = .disconnect :: rest) : Faithful ({ c with guiRx := rest }.handleGui .disconnect) := by
  refine Faithful.setActiveServer ?_ fun p => ⟨rfl, rfl⟩
  refine h.kept (.refl _) (fun server hmem => hq ▸ List.mem_cons_of_mem _ hmem) fun t task ht haborted => ?_
  cases hct : c.connectionTask with
  | none =>
    rw [hct] at ht
    exact ⟨task, ht, haborted, rfl⟩
  | some t' =>
    rw [hct, abort, List.getElem?_modify] at ht
    obtain ⟨task', ht', rfl⟩ := Option.map_eq_some_iff.1 ht
    split at haborted
    · cases haborted
    · next hne =>
      rw [if_neg hne]
      exact ⟨task', ht', haborted, rfl⟩

/-- The task with the number is replaced by one with the same server, aborted or not. -/
theorem Faithful.set {t : Nat} {task task' : ConnectionTask Key Tx} {statsRx : List Stats} (h : Faithful c)
    (ht : c.tasks[t]? = some task) (hserver : task'.server = task.server) (haborted : task'.aborted = task.aborted) :
    Faithful { c with tasks := c.tasks.set t task', statsRx } := by
  refine h.kept (.refl _) (fun _ h => h) fun t₁ task₁ ht₁ haborted₁ => ?_
  rcases getElem?_set_eq_some ht₁ with ⟨rfl, rfl⟩ | ⟨-, ht₁⟩
  · exact ⟨task, ht, by rw [← haborted, haborted₁], hserver.symm⟩
  · exact ⟨task₁, ht₁, haborted₁, rfl⟩

theorem toServer_closure {loop : ConnectionLoop Tx} {la : LoopAction Tx} {f : ServerPanel Key → ServerPanel Key}
    (h : loop.closure la = some f) (p : ServerPanel Key) :
    (f p).toServer = p.toServer ∧ (f p).editLocal = p.editLocal := by
  cases la with
  | setResult =>
    simp only [ConnectionLoop.closure] at h
    split at h <;> cases h <;> exact ⟨rfl, rfl⟩
  | setError =>
    simp only [ConnectionLoop.closure] at h
    split at h <;> cases h
    exact ⟨rfl, rfl⟩
  | _ => cases h

theorem Faithful.step (h : Faithful c) (hcalm : Calm c) (hs : c.step a = some c') : Faithful c' := by
  obtain ⟨-, ⟨i, e, panels, event, rfl, hr, rfl⟩ | ⟨stat, rest, rfl, hq, rfl⟩ | ⟨event, rest, rfl, hq, rfl⟩ |
    ⟨t, task, polling, ht, -, rfl⟩ | ⟨t, task, la, loop, rfl, ht, hl, rfl⟩⟩ := step_eq_some hs
  · exact h.ui hcalm hr
  · have hrest : Faithful { c with statsRx := rest } := ⟨h.editing, h.connects, h.tasks⟩
    cases stat with
    | connected => exact hrest
    | clientsConnected n => exact hrest.setActiveServer fun p => ⟨rfl, rfl⟩
    | ping ping => exact hrest.setActiveServer fun p => ⟨rfl, rfl⟩
  · cases event with
    | connect server => exact h.connect hcalm hq
    | disconnect => exact h.disconnect hq
  · exact h.set ht rfl rfl
  · have hput : Faithful (c.putLoop t task loop) := h.set ht rfl rfl
    rw [handleLoop]
    cases hclosure : (task.loop.closure la : Option (ServerPanel Key → ServerPanel Key)) with
    | none => exact hput
    | some f => exact hput.setActiveServer (toServer_closure hclosure)

/-- In every orderly run: where a client is not aborted, exactly one panel is active, it is not edited, and the
client was made from the name, the key and the address that it shows; and there is no other such client. -/
theorem active_client {servers : List (Client.Server Key)} (h : Lts.Reach step Orderly (init servers) c) {t : Nat}
    {task : ConnectionTask Key Tx} (ht : c.tasks[t]? = some task) (haborted : task.aborted = false) :
    ∃ p, c.panels.active = [p] ∧ p.editLocal = none ∧ task.server = clientServer p.connectServer ∧
      ∀ (t' : Nat) task', c.tasks[t']? = some task' → task'.aborted = false → t' = t := by
  have hinv : Calm c ∧ Faithful c := h.invariant (I := fun c => Calm c ∧ Faithful c)
    ⟨Calm.init servers, Faithful.init servers⟩ fun _ ih hcond hs => ⟨ih.1.step hcond hs, ih.2.step ih.1 hs⟩
  obtain ⟨hcalm, hfaithful⟩ := hinv
  have hcurrent := hcalm.tasks t task ht haborted
  have hne : c.panels.active ≠ [] := fun hnil =>
    hcalm.serves (by rw [hcurrent]; simp) (GuiState.active_eq_nil_iff.1 hnil)
  have hone : c.panels.active.length ≤ 1 := by
    have hlen := hcalm.one
    rwa [GuiState.shown_eq, List.length_map] at hlen
  obtain ⟨p, rest, hp⟩ := List.exists_cons_of_ne_nil hne
  obtain rfl : rest = [] := by
    rw [hp, List.length_cons] at hone
    exact List.eq_nil_of_length_eq_zero (by omega)
  have hmem : p ∈ c.panels.active := hp ▸ List.mem_cons_self
  refine ⟨p, hp, hfaithful.editing p hmem, hfaithful.tasks t task ht haborted p hmem, fun t' task' ht' haborted' => ?_⟩
  exact Option.some.inj ((hcalm.tasks t' task' ht' haborted').symm.trans hcurrent)

/-- The user has changed the address, connected, disconnected and connected again. -/
def editAndReconnect : List (ControllerAction Unit) :=
  [.ui 0 .edit, .ui 0 (.typed "25566"), .ui 0 .ok, .ui 0 .button, .gui, .poll 0, .ui 0 .button, .gui, .ui 0 .button,
    .gui]

theorem active_client_editAndReconnect : ∃ (c : Controller Unit Unit) (task : ConnectionTask Unit Unit) (p : _),
    Lts.run step (init [sampleServer]) editAndReconnect = some c ∧ c.tasks[1]? = some task ∧
      c.panels.active = [p] ∧ p.editLocal = none ∧ task.server = clientServer p.connectServer := by
  have hrun : ∃ (c : Controller Unit Unit) (task : ConnectionTask Unit Unit),
      Lts.run step (init [sampleServer]) editAndReconnect = some c ∧ c.tasks[1]? = some task ∧
        task.aborted = false := ⟨_, _, rfl, rfl, rfl⟩
  obtain ⟨c, task, hc, ht, haborted⟩ := hrun
  obtain ⟨p, hp, hedit, hserver, -⟩ := active_client (.of_run hc (by decide +kernel)) ht haborted
  exact ⟨c, task, p, hc, ht, hp, hedit, hserver⟩

end Controller
end CraftIP
