import CraftIP.Gui.Active

/-!
# What is shown of a session that is over

When `handle` has returned an error, the panel says that the client connects again, with the error; when it
has returned without one, `connection_loop` ends and leaves the panel as it is. A session that is over is not
shown as one, and is followed by another attempt whichever of its sides broke, as long as `reader_handler` does
not take the channel that its writer has closed for the user's wish to end, and nothing that was reported or
done before comes to the panel after it (`Controller.shows_of_settled`).
-/

namespace CraftIP

/-- The panel says that there is a session, or that one is being made. -/
def ServerState.running : ServerState → Bool
  | .connecting _ | .connected _ => true
  | .disconnected | .disconnecting => false

def Stats.counts : Stats → Bool
  | .clientsConnected _ => true
  | .connected | .ping _ => false

namespace LoopAction
variable {Tx : Type}

/-- `reader_handler` sees that the writer has ended. -/
def seesWriterEnd : LoopAction Tx → Bool
  | .event (.disconnect none) => true
  | _ => false

def locks : LoopAction Tx → Bool
  | .setResult | .setError => true
  | _ => false

end LoopAction

namespace ConnectionLoop
variable {Tx : Type} {l l' : ConnectionLoop Tx} {a : LoopAction Tx} {x : ServerState × Option PanelError}

/-- `handle` has returned, and no session was begun since. -/
def isOver (l : ConnectionLoop Tx) : Bool :=
  match l.phase with
  | .ended => true
  | .connecting | .attempted _ => l.session != 0
  | .handling _ | .handled _ => false

/-- What may be shown: of a loop that has ended, no session, and of one that connects again, that it does and
the error, if the user has not stopped it. -/
def Told (l : ConnectionLoop Tx) (x : ServerState × Option PanelError) : Prop :=
  match l.phase with
  | .ended => x.1.running = false
  | .connecting | .attempted _ =>
    l.session ≠ 0 → (∃ attempt error, x = (.connecting attempt, some error)) ∨ x.1.running = false
  | .handling _ | .handled _ => True

/-- A loop without a session is connecting. -/
def Begun (l : ConnectionLoop Tx) : Prop :=
  l.session = 0 → l.phase = .connecting ∨ ∃ result, l.phase = .attempted result

theorem told_of_not_isOver (h : l.isOver = false) : l.Told x := by
  rw [isOver] at h
  rw [Told]
  split at h <;> simp_all

theorem told_of_not_running (h : x.1.running = false) : l.Told x := by
  rw [Told]
  split
  · exact h
  · exact fun _ => .inr h
  · exact fun _ => .inr h
  · trivial
  · trivial

theorem told_connecting {attempt : Nat} {error : PanelError} (h : l.phase ≠ .ended) :
    l.Told (.connecting attempt, some error) := by
  rw [Told]
  split
  · next hp => exact absurd hp h
  · exact fun _ => .inl ⟨_, _, rfl⟩
  · exact fun _ => .inl ⟨_, _, rfl⟩
  · trivial
  · trivial

theorem Begun.not_isOver (h : l.Begun) (h0 : l.session = 0) : l.isOver = false := by
  rw [isOver]
  rcases h h0 with hp | ⟨result, hp⟩ <;> simp [hp, h0]

theorem Begun.step (h : l.Begun) (hs : l.step a = some l') : l'.Begun := by
  rcases step_eq_some hs with ⟨result, rfl, hp, rfl⟩ | ⟨rfl, hp, rfl⟩ | ⟨e, rfl, hp, rfl⟩ | ⟨rfl, hp, rfl⟩ |
    ⟨e, writerEnded, rfl, hp, -, rfl⟩ | ⟨err, rfl, hp, rfl⟩
  · exact fun _ => .inr ⟨result, rfl⟩
  · exact fun h0 => absurd h0 (Nat.succ_ne_zero _)
  · exact fun _ => .inl rfl
  · exact fun h0 => by rcases h h0 with hp' | ⟨_, hp'⟩ <;> rw [hp] at hp' <;> cases hp'
  · exact fun h0 => by rcases h h0 with hp' | ⟨_, hp'⟩ <;> rw [hp] at hp' <;> cases hp'
  · exact fun _ => .inl rfl

/-- What `handle` comes to when it does not see that the writer has ended: it serves, or it has an error. -/
theorem phase_handle (l : ConnectionLoop Tx) {e : ReaderEvent Tx} (hwriter : (LoopAction.event e).seesWriterEnd = false)
    (writerEnded : Bool) :
    (l.handle writerEnded e).phase = .handling writerEnded ∨
      ∃ err, (l.handle writerEnded e).phase = .handled err := by
  cases hr : (l.client.readerHandler (e.map (l.session, ·))).2 with
  | none => exact .inl (by simp [handle, hr])
  | some result =>
    cases result with
    | error err => exact .inr ⟨err, by simp [handle, hr]⟩
    | ok u =>
      have he := Client.eq_disconnect_of_readerHandler hr
      cases e with
      | disconnect id => cases he; cases hwriter
      | _ => cases he

/-- The loop comes to its end only when it is seen that the writer has ended. -/
theorem phase_ne_ended (hs : l.step a = some l') (hwriter : a.seesWriterEnd = false) : l'.phase ≠ .ended := by
  rcases step_eq_some hs with ⟨result, -, -, rfl⟩ | ⟨-, -, rfl⟩ | ⟨e, -, -, rfl⟩ | ⟨-, -, rfl⟩ |
    ⟨e, writerEnded, rfl, -, -, rfl⟩ | ⟨err, -, -, rfl⟩
  · simp
  · simp
  · simp
  · simp
  · rcases phase_handle l hwriter writerEnded with hp | ⟨err, hp⟩ <;> simp [hp]
  · simp

/-- A step without the lock keeps what may be shown, except when it sees that the writer has ended. -/
theorem Told.step (h : l.Told x) (hs : l.step a = some l') (hlock : a.locks = false)
    (hwriter : a.seesWriterEnd = false) : l'.Told x := by
  rcases step_eq_some hs with ⟨result, rfl, hp, rfl⟩ | ⟨rfl, hp, rfl⟩ | ⟨e, rfl, hp, rfl⟩ | ⟨rfl, hp, rfl⟩ |
    ⟨e, writerEnded, rfl, hp, -, rfl⟩ | ⟨err, rfl, hp, rfl⟩
  · rw [Told, hp] at h
    exact h
  · cases hlock
  · cases hlock
  · trivial
  · refine told_of_not_isOver ?_
    rcases phase_handle l hwriter writerEnded with hp | ⟨err, hp⟩ <;> simp [isOver, hp]
  · cases hlock

theorem session_step (hs : l.step a = some l') (hlock : a.locks = false) : l'.session = l.session := by
  rcases step_eq_some hs with ⟨result, rfl, -, rfl⟩ | ⟨rfl, -, rfl⟩ | ⟨e, rfl, -, rfl⟩ | ⟨rfl, -, rfl⟩ |
    ⟨e, writerEnded, rfl, -, -, rfl⟩ | ⟨err, rfl, -, rfl⟩
  · rfl
  · cases hlock
  · rfl
  · rfl
  · rfl
  · rfl

theorem locks_of_closure {Key : Type} (hs : l.step a = some l')
    (h : (l.closure a : Option (ServerPanel Key → ServerPanel Key)) = none) : a.locks = false := by
  rcases step_eq_some hs with ⟨result, rfl, -, -⟩ | ⟨rfl, hp, -⟩ | ⟨e, rfl, hp, -⟩ | ⟨rfl, -, -⟩ |
    ⟨e, writerEnded, rfl, -, -, -⟩ | ⟨err, rfl, hp, -⟩
  · rfl
  · simp [closure, hp] at h
  · simp [closure, hp] at h
  · rfl
  · rfl
  · simp [closure, hp] at h

/-- With the lock a loop goes on to a session, which it shows, or to the next attempt. -/
theorem told_closure {Key : Type} {f : ServerPanel Key → ServerPanel Key} (hs : l.step a = some l')
    (h : l.closure a = some f) :
    a.locks = true ∧ ∃ x, (∀ p, (f p).shown = x) ∧ x.1 ≠ .disconnected ∧ l'.Told x := by
  obtain ⟨x, hx, ⟨rfl, hp, rfl⟩ | ⟨attempt, error, rfl⟩⟩ := shown_closure h
  · refine ⟨rfl, _, hx, by simp, told_of_not_isOver ?_⟩
    simp only [step, hp, Option.some.injEq] at hs
    rw [← hs]; rfl
  · rcases step_eq_some hs with ⟨result, rfl, hp, rfl⟩ | ⟨rfl, hp, rfl⟩ | ⟨e, rfl, hp, rfl⟩ | ⟨rfl, hp, rfl⟩ |
      ⟨e, writerEnded, rfl, hp, -, rfl⟩ | ⟨err, rfl, hp, rfl⟩
    · cases h
    · exact ⟨rfl, _, hx, by simp, trivial⟩
    · exact ⟨rfl, _, hx, by simp, told_connecting (by simp)⟩
    · cases h
    · cases h
    · exact ⟨rfl, _, hx, by simp, told_connecting (by simp)⟩

end ConnectionLoop

namespace Controller
variable {Key Tx : Type} {c c' : Controller Key Tx} {a : ControllerAction Tx}

def loopAt (c : Controller Key Tx) (t : Nat) : Option (ConnectionLoop Tx) := (c.tasks[t]?).map (·.loop)

/-- The loop of `connection_task`. -/
def current (c : Controller Key Tx) : Option (ConnectionLoop Tx) := c.connectionTask.bind c.loopAt

/-- No panel shows of a session that is over that there is one. -/
def Shows (c : Controller Key Tx) : Prop := ∀ l, c.current = some l → ∀ x ∈ c.panels.shown, l.Told x

/-- No session of the current task, whichever of its sides breaks, ends `connection_loop`: it goes on to the
next attempt. -/
def Reconnects (c : Controller Key Tx) : Prop := ∀ l, c.current = some l → l.phase ≠ .ended

/-- `reader_handler` of the current task does not take the channel that the writer has closed; when the writer
has ended, it takes something else. While the session of the current task is over, the controller takes no
count, and no other task takes the lock. -/
def Settled (c : Controller Key Tx) : ControllerAction Tx → Prop
  | .loop t a =>
    (a.seesWriterEnd = true → c.connectionTask ≠ some t) ∧
      (a.locks = true → c.current.any (·.isOver) = true → c.connectionTask = some t)
  | .stats => c.current.any (·.isOver) = true → c.statsRx.head?.any (·.counts) = false
  | .ui _ _ | .gui | .poll _ | .yield _ => True

instance (c : Controller Key Tx) (a : ControllerAction Tx) : Decidable (c.Settled a) :=
  match a with
  | .loop t a => inferInstanceAs (Decidable (
      (a.seesWriterEnd = true → c.connectionTask ≠ some t) ∧
      (a.locks = true → c.current.any (·.isOver) = true → c.connectionTask = some t)))
  | .stats =>
    inferInstanceAs (Decidable (c.current.any (·.isOver) = true → c.statsRx.head?.any (·.counts) = false))
  | .ui _ _ | .gui | .poll _ | .yield _ => isTrue trivial

/-- What holds beside: one panel at most is active, and one is if the current task has had a session. -/
structure Tidy (c : Controller Key Tx) : Prop where
  one : c.panels.shown.length ≤ 1
  begun : ∀ t l, c.loopAt t = some l → l.Begun
  active : c.poisoned = false → ∀ l, c.current = some l → l.session ≠ 0 → c.panels.shown ≠ []

section SetActiveServer
variable {closure : ServerPanel Key → ServerPanel Key}
  {k : ServerState × Option PanelError → ServerState × Option PanelError}

theorem Tidy.setActiveServer (hone : c.panels.shown.length ≤ 1) (hbegun : ∀ t l, c.loopAt t = some l → l.Begun)
    (hk : ∀ p, (closure p).shown = k p.shown)
    (hactive : (∀ x, x.1 ≠ .disconnected → (k x).1 ≠ .disconnected) ∨ c.current = none) :
    Tidy (c.setActiveServer closure) := by
  rcases setActiveServer_eq (c := c) hk with ⟨-, he⟩ | ⟨panels, x, rest, he, hx, hx'⟩
  · rw [he]
    exact ⟨hone, hbegun, fun h => by cases h⟩
  · obtain rfl := eq_nil_of_shown hone hx
    rw [he]
    refine ⟨?_, hbegun, fun _ l hl _ => ?_⟩
    · show panels.shown.length ≤ 1
      rw [hx']; split <;> simp
    · show panels.shown ≠ []
      rcases hactive with hactive | hnone
      · rw [hx', if_pos (hactive x (GuiState.mem_shown (hx ▸ List.mem_cons_self)))]
        exact List.cons_ne_nil _ _
      · rw [show c.current = some l from hl] at hnone
        cases hnone

theorem Shows.setActiveServer (hone : c.panels.shown.length ≤ 1) (hk : ∀ p, (closure p).shown = k p.shown)
    (htold : ∀ l, c.current = some l → ∀ x ∈ c.panels.shown, (k x).1 ≠ .disconnected → l.Told (k x)) :
    Shows (c.setActiveServer closure) := by
  rcases setActiveServer_eq (c := c) hk with ⟨hnone, he⟩ | ⟨panels, x, rest, he, hx, hx'⟩
  · rw [he]
    intro l _ y hy
    rw [show c.panels.shown = [] from hnone] at hy
    cases hy
  · obtain rfl := eq_nil_of_shown hone hx
    rw [he]
    intro l hl y hy
    have hy : y ∈ panels.shown := hy
    rw [hx'] at hy
    split at hy
    · next hactive =>
      rw [List.mem_singleton.1 hy]
      exact htold l hl x (hx ▸ List.mem_cons_self) hactive
    · cases hy

end SetActiveServer

theorem steady_ui {i : Nat} {e : PanelEvent} {panels : GuiState Key} {event : Option (GuiTriggeredEvent Key)}
    (h : Tidy c) (hshows : Shows c) (hpoisoned : c.poisoned = false)
    (hr : c.panels.render i e = some (panels, event)) :
    Tidy { c with panels, guiRx := c.guiRx ++ event.toList } ∧
      Shows { c with panels, guiRx := c.guiRx ++ event.toList } := by
  rcases GuiState.render_eq_some hr with ⟨-, hshown⟩ | ⟨server, -, -, hnone, hshown⟩ |
    ⟨-, -, l₁, x, l₂, hl, hshown⟩
  · exact ⟨⟨hshown ▸ h.one, h.begun, hshown ▸ h.active⟩, fun l hl x hx => hshows l hl x (hshown ▸ hx)⟩
  · -- no panel was active, so the current task has had no session
    refine ⟨⟨?_, h.begun, fun _ _ _ _ => ?_⟩, fun l hl x _ => ?_⟩
    · show panels.shown.length ≤ 1
      rw [hshown]; exact Nat.le_refl 1
    · show panels.shown ≠ []
      rw [hshown]; exact List.cons_ne_nil _ _
    · have h0 : l.session = 0 := by_contra fun h0 => h.active hpoisoned l hl h0 hnone
      obtain ⟨t, -, ht⟩ := Option.bind_eq_some_iff.1 hl
      exact ConnectionLoop.told_of_not_isOver ((h.begun t l ht).not_isOver h0)
  · refine ⟨⟨?_, h.begun, fun _ _ _ _ => ?_⟩, fun l hl' y hy => ?_⟩
    · have hlen := h.one
      rw [hl] at hlen
      show panels.shown.length ≤ 1
      rw [hshown]; simpa using hlen
    · show panels.shown ≠ []
      rw [hshown]; simp
    · have hy : y ∈ panels.shown := hy
      have hold : ∀ z, z ∈ l₁ ∨ z ∈ l₂ → l.Told z := fun z hz =>
        hshows l hl' z (by rw [hl]; rcases hz with hz | hz <;> simp [hz])
      rw [hshown, List.mem_append, List.mem_cons] at hy
      rcases hy with hy | rfl | hy
      · exact hold y (.inl hy)
      · exact ConnectionLoop.told_of_not_running rfl
      · exact hold y (.inr hy)

theorem steady_stats {stat : Stats} {rest : List Stats} (h : Tidy c) (hshows : Shows c)
    (hcond : c.Settled .stats) (hq : c.statsRx = stat :: rest) :
    Tidy ({ c with statsRx := rest }.handleStats stat) ∧ Shows ({ c with statsRx := rest }.handleStats stat) := by
  cases stat with
  | connected => exact ⟨⟨h.one, h.begun, h.active⟩, hshows⟩
  | clientsConnected n =>
    have hk : ∀ p : ServerPanel Key, ServerPanel.shown { p with state := .connected n } =
      (ServerState.connected n, p.shown.2) := fun _ => rfl
    refine ⟨.setActiveServer (k := fun x => (.connected n, x.2)) h.one h.begun hk (.inl fun _ _ => by simp),
      .setActiveServer (k := fun x => (.connected n, x.2)) h.one hk fun l hl x _ _ => ?_⟩
    refine ConnectionLoop.told_of_not_isOver (Bool.eq_false_iff.2 fun hover => ?_)
    have hnot := hcond (by rw [show c.current = some l from hl]; exact hover)
    rw [hq] at hnot
    cases hnot
  | ping ping =>
    exact ⟨.setActiveServer (k := fun x => x) h.one h.begun (fun _ => rfl) (.inl fun _ hx => hx),
      .setActiveServer (k := fun x => x) h.one (fun _ => rfl) fun l hl x hx _ => hshows l hl x hx⟩

theorem loopAt_set {t : Nat} {task task' : ConnectionTask Key Tx} (ht : c.tasks[t]? = some task) (t' : Nat) :
    ((c.tasks.set t task')[t']?).map (·.loop) = if t = t' then some task'.loop else c.loopAt t' := by
  by_cases h : t = t'
  · subst h
    rw [if_pos rfl, List.getElem?_set_self', ht]; rfl
  · rw [if_neg h, List.getElem?_set_ne h]; rfl

theorem loopAt_abort (t' : Nat) : ((abort c.tasks c.connectionTask)[t']?).map (·.loop) = c.loopAt t' := by
  cases c.connectionTask with
  | none => rfl
  | some t =>
    rw [abort, List.getElem?_modify, loopAt]
    cases c.tasks[t']? with
    | none => rfl
    | some task => simp only [Option.map_eq_map, Option.map_some]; split <;> rfl

theorem current_connect (server : Client.Server Key) (rest : List (GuiTriggeredEvent Key)) :
    ({ c with guiRx := rest }.handleGui (.connect server)).current = some .init := by
  simp [handleGui, current, loopAt]

theorem loopAt_setPolling {t : Nat} {task : ConnectionTask Key Tx} (ht : c.tasks[t]? = some task)
    (polling : Bool) (t' : Nat) :
    ((c.tasks.set t { task with polling })[t']?).map (·.loop) = c.loopAt t' := by
  rw [loopAt_set ht]
  split
  · next he => subst he; rw [loopAt, ht]; rfl
  · rfl

theorem current_setPolling {t : Nat} {task : ConnectionTask Key Tx} (ht : c.tasks[t]? = some task)
    (polling : Bool) :
    ({ c with tasks := c.tasks.set t { task with polling } } : Controller Key Tx).current = c.current :=
  congrArg c.connectionTask.bind (funext (loopAt_setPolling ht polling))

theorem steady_connect {server : Client.Server Key} {rest : List (GuiTriggeredEvent Key)} (h : Tidy c) :
    Tidy ({ c with guiRx := rest }.handleGui (.connect server)) ∧
      Shows ({ c with guiRx := rest }.handleGui (.connect server)) := by
  have hcurrent := current_connect (c := c) server rest
  refine ⟨⟨h.one, fun t l hl => ?_, fun _ l hl h0 => ?_⟩, fun l hl x _ => ?_⟩
  · by_cases hlt : t < c.tasks.length
    · refine h.begun t l (Eq.trans ?_ hl)
      simp only [handleGui, loopAt, List.getElem?_append_left hlt]
    · simp only [handleGui, loopAt, List.getElem?_append_right (Nat.le_of_not_lt hlt)] at hl
      obtain ⟨task, htask, rfl⟩ := Option.map_eq_some_iff.1 hl
      rw [List.mem_singleton.1 (List.mem_of_getElem? htask)]
      exact fun _ => .inl rfl
  · rw [hcurrent] at hl
    cases hl
    exact absurd rfl h0
  · rw [hcurrent] at hl
    cases hl
    exact ConnectionLoop.told_of_not_isOver rfl

theorem steady_disconnect {rest : List (GuiTriggeredEvent Key)} (h : Tidy c) :
    Tidy ({ c with guiRx := rest }.handleGui .disconnect) ∧
      Shows ({ c with guiRx := rest }.handleGui .disconnect) := by
  have hk : ∀ p : ServerPanel Key, ServerPanel.shown { p with state := .disconnected, ping := none } =
    (ServerState.disconnected, p.shown.2) := fun _ => rfl
  exact ⟨.setActiveServer (k := fun x => (.disconnected, x.2)) h.one
      (fun t l hl => h.begun t l ((loopAt_abort t).symm.trans hl)) hk (.inr rfl),
    .setActiveServer (k := fun x => (.disconnected, x.2)) h.one hk fun _ hl => by cases hl⟩

theorem current_setActiveServer (closure : ServerPanel Key → ServerPanel Key) :
    (c.setActiveServer closure).current = c.current := by
  rw [setActiveServer]
  split <;> rfl

theorem current_handleStats (stat : Stats) : (c.handleStats stat).current = c.current := by
  cases stat with
  | connected => rfl
  | clientsConnected n => exact current_setActiveServer _
  | ping ping => exact current_setActiveServer _

section PutLoop
variable {t : Nat} {task : ConnectionTask Key Tx} {loop : ConnectionLoop Tx}

theorem loopAt_putLoop (ht : c.tasks[t]? = some task) (t' : Nat) :
    (c.putLoop t task loop).loopAt t' = if t = t' then some loop else c.loopAt t' := loopAt_set ht t'

/-- The current loop is the one that made the step, or the one it was. -/
theorem current_putLoop (ht : c.tasks[t]? = some task) {l : ConnectionLoop Tx}
    (hl : (c.putLoop t task loop).current = some l) :
    (c.connectionTask = some t ∧ c.current = some task.loop ∧ l = loop) ∨
      (c.connectionTask ≠ some t ∧ c.current = some l) := by
  obtain ⟨t', ht', hl⟩ := Option.bind_eq_some_iff.1 hl
  have ht' : c.connectionTask = some t' := ht'
  rw [loopAt_putLoop ht] at hl
  split at hl
  · next he =>
    cases hl; subst he
    exact .inl ⟨ht', by rw [current, ht', Option.bind_some, loopAt, ht]; rfl, rfl⟩
  · next hne => exact .inr ⟨by rw [ht']; simpa using Ne.symm hne, by rw [current, ht']; exact hl⟩

theorem current_handleLoop (la : LoopAction Tx) :
    (c.handleLoop t task la loop).current = (c.putLoop t task loop).current := by
  rw [handleLoop]
  split
  · rfl
  · exact current_setActiveServer _

end PutLoop

theorem steady_loop {t : Nat} {task : ConnectionTask Key Tx} {la : LoopAction Tx} {loop : ConnectionLoop Tx}
    (h : Tidy c) (hshows : Shows c) (hcond : c.Settled (.loop t la)) (hpoisoned : c.poisoned = false)
    (ht : c.tasks[t]? = some task) (hl : task.loop.step la = some loop) :
    Tidy (c.handleLoop t task la loop) ∧ Shows (c.handleLoop t task la loop) := by
  have hat : c.loopAt t = some task.loop := by rw [loopAt, ht]; rfl
  have hbegun : ∀ t' l, (c.putLoop t task loop).loopAt t' = some l → l.Begun := by
    intro t' l hl'
    rw [loopAt_putLoop ht] at hl'
    split at hl'
    · cases hl'; exact (h.begun t _ hat).step hl
    · exact h.begun t' l hl'
  rw [handleLoop]
  cases hclosure : (task.loop.closure la : Option (ServerPanel Key → ServerPanel Key)) with
  | none =>
    have hlocks := ConnectionLoop.locks_of_closure hl hclosure
    refine ⟨⟨h.one, hbegun, fun _ l hl' h0 => ?_⟩, fun l hl' x hx => ?_⟩
    · rcases current_putLoop ht hl' with ⟨-, hold, rfl⟩ | ⟨-, hl'⟩
      · rw [ConnectionLoop.session_step hl hlocks] at h0
        exact h.active hpoisoned _ hold h0
      · exact h.active hpoisoned l hl' h0
    · rcases current_putLoop ht hl' with ⟨htask, hold, rfl⟩ | ⟨-, hl'⟩
      · exact (hshows _ hold x hx).step hl hlocks (Bool.eq_false_iff.2 fun hwriter => hcond.1 hwriter htask)
      · exact hshows l hl' x hx
  | some closure =>
    obtain ⟨hlocks, x, hx, hactive, htold⟩ := ConnectionLoop.told_closure hl hclosure
    refine ⟨.setActiveServer (k := fun _ => x) h.one hbegun hx (.inl fun _ _ => hactive),
      .setActiveServer (k := fun _ => x) h.one hx fun l hl' _ _ _ => ?_⟩
    rcases current_putLoop ht hl' with ⟨-, -, rfl⟩ | ⟨hne, hl'⟩
    · exact htold
    · refine ConnectionLoop.told_of_not_isOver (Bool.eq_false_iff.2 fun hover => hne ?_)
      exact hcond.2 hlocks (by rw [hl']; exact hover)

theorem steady_step (h : Tidy c) (hshows : Shows c) (hcond : c.Settled a) (hs : c.step a = some c') :
    Tidy c' ∧ Shows c' := by
  obtain ⟨hpoisoned, ⟨i, e, panels, event, rfl, hr, rfl⟩ | ⟨stat, rest, rfl, hq, rfl⟩ |
    ⟨event, rest, rfl, hq, rfl⟩ | ⟨t, task, polling, ht, -, rfl⟩ | ⟨t, task, la, loop, rfl, ht, hl, rfl⟩⟩ :=
    step_eq_some hs
  · exact steady_ui h hshows hpoisoned hr
  · exact steady_stats h hshows hcond hq
  · cases event with
    | connect server => exact steady_connect h
    | disconnect => exact steady_disconnect h
  · have hcurrent := current_setPolling ht polling
    exact ⟨⟨h.one, fun t' l hl => h.begun t' l ((loopAt_setPolling ht polling t').symm.trans hl),
      fun hp l hl => h.active hp l (hcurrent.symm.trans hl)⟩, fun l hl => hshows l (hcurrent.symm.trans hl)⟩
  · exact steady_loop h hshows hcond hpoisoned ht hl

theorem Reconnects.step (h : Reconnects c) (hcond : c.Settled a) (hs : c.step a = some c') : Reconnects c' := by
  obtain ⟨-, ⟨i, e, panels, event, rfl, hr, rfl⟩ | ⟨stat, rest, rfl, hq, rfl⟩ | ⟨event, rest, rfl, hq, rfl⟩ |
    ⟨t, task, polling, ht, -, rfl⟩ | ⟨t, task, la, loop, rfl, ht, hl, rfl⟩⟩ := step_eq_some hs
  · exact h
  · intro l hl
    rw [current_handleStats] at hl
    exact h l hl
  · cases event with
    | connect server =>
      intro l hl
      rw [current_connect] at hl
      cases hl
      exact fun hp => by cases hp
    | disconnect =>
      intro l hl
      rw [handleGui, current_setActiveServer] at hl
      cases hl
  · exact fun l hl => h l ((current_setPolling ht polling).symm.trans hl)
  · intro l hl'
    rw [current_handleLoop] at hl'
    rcases current_putLoop ht hl' with ⟨htask, -, rfl⟩ | ⟨-, hl'⟩
    · exact ConnectionLoop.phase_ne_ended hl (Bool.eq_false_iff.2 fun hwriter => hcond.1 hwriter htask)
    · exact h l hl'

/-- In every settled run no panel shows of a session that is over that there is one, and every session that
breaks, on the read side or on the write side, is followed by another attempt. -/
theorem shows_of_settled {servers : List (Client.Server Key)} (h : Lts.Reach step Settled (init servers) c) :
    Shows c ∧ Reconnects c := by
  have hinit : Tidy (init servers : Controller Key Tx) ∧ Shows (init servers : Controller Key Tx) := by
    refine ⟨⟨?_, fun _ _ h => (by cases h), fun _ _ h => by cases h⟩, fun _ h => by cases h⟩
    rw [init, GuiState.shown_new]; exact Nat.zero_le _
  refine ⟨?_, h.invariant (fun _ h => by cases h) fun _ ih hc hs => ih.step hc hs⟩
  exact (h.invariant (I := fun c => Tidy c ∧ Shows c) hinit fun _ ih hc hs => steady_step ih.1 ih.2 hc hs).2

/-- The writer fails, and the next ping cannot be sent; the client connects again, and the socket times out. -/
def breakBothSides : List (ControllerAction Unit) :=
  connectAndJoin ++ [.stats, .stats, .poll 0, .loop 0 .writerEnds, .loop 0 (.event (.ping false)),
    .loop 0 .setError, .loop 0 (.attempt (.ok ())), .loop 0 .setResult, .stats,
    .loop 0 (.event .timeout), .loop 0 .setError]

theorem shows_breakBothSides :
    (∃ c, Lts.run step (init [sampleServer]) (breakBothSides.take 13) = some c ∧
      c.panels.shown = [(.connecting 0, some (.connection .pingNotSent))] ∧ Shows c ∧ Reconnects c) ∧
    ∃ c, Lts.run step (init [sampleServer]) breakBothSides = some c ∧
      c.panels.shown = [(.connecting 0, some (.connection .timedOut))] ∧ Shows c ∧ Reconnects c := by
  have hfirst : ∃ c : Controller Unit Unit, Lts.run step (init [sampleServer]) (breakBothSides.take 13) = some c ∧
      c.panels.shown = [(.connecting 0, some (.connection .pingNotSent))] := ⟨_, rfl, rfl⟩
  have hboth : ∃ c : Controller Unit Unit, Lts.run step (init [sampleServer]) breakBothSides = some c ∧
      c.panels.shown = [(.connecting 0, some (.connection .timedOut))] := ⟨_, rfl, rfl⟩
  obtain ⟨c, hc, hshown⟩ := hfirst
  obtain ⟨c', hc', hshown'⟩ := hboth
  exact ⟨⟨c, hc, hshown, shows_of_settled (.of_run hc (by decide +kernel))⟩,
    c', hc', hshown', shows_of_settled (.of_run hc' (by decide +kernel))⟩

/-- The writer fails, and the reader sees its end. -/
theorem shows_writerEnds : ¬ ∀ (as : List (ControllerAction Unit)) (c : Controller Unit Unit),
    Lts.run step (init [sampleServer]) as = some c → Shows c := by
  intro h
  have hshows := h (connectAndJoin ++ [.stats, .stats, .poll 0, .loop 0 .writerEnds,
    .loop 0 (.event (.disconnect none))]) _ rfl
  have htold := hshows _ rfl (.connected 1, none) (List.mem_cons_self)
  cases htold

end Controller
end CraftIP
