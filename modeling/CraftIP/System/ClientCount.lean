import Mathlib.Data.Finset.Image
import Mathlib.Data.Set.Finite.Basic
import CraftIP.Lib.ByteBuf
import CraftIP.Session.Agreement
import CraftIP.System.CleanUp

/-!
# What the server counts

`handle_minecraft_client` adds its client to the counter of the register before `MCClient::handle` and takes it
out after, and `stats_handler` reads the counter and the length of the map. The counter saturates at both ends;
as long as it does not saturate, it is the number of clients that were added and not removed (`counts_clients`).
When everything rests, these are the players that are in a slot of a session that serves (`rest_counts_served`).
-/

namespace CraftIP
open Function (update)
open ByteBuf (USIZE_MAX)

/-- `handle` of `MCClient` runs. -/
def ClientPhase.isHandling : ClientPhase → Bool
  | .handling _ => true
  | _ => false

/-- The player in whose `MCClient::handle` an action happens. -/
def Action.handles? (a : Action) : Option Player :=
  match a with
  | .connect _ _ | .joinFails _ | .sendStart _ _ _ => none
  | a =>
    match a.task with
    | .player P => some P
    | _ => none

/-- Where `handle_minecraft_client` is with its client: before `add_client`, between it and `remove_client`, or
past both. -/
inductive CountPhase where
  | before
  | counted
  | after
deriving DecidableEq, Repr

/-- `clientCount` is the register's. -/
structure CountingSystem where
  system : System
  clientCount : Nat
  counting : SocketId → CountPhase

inductive CountingAction where
  | system (a : SystemAction)
  | addClient (c : SocketId)
  | removeClient (c : SocketId)
deriving DecidableEq, Repr

namespace Register

/-- `add_client`: `saturating_add(1)`. -/
def addClient (clientCount : Nat) : Nat := min (clientCount + 1) USIZE_MAX

/-- `remove_client`: `saturating_sub(1)`. -/
def removeClient (clientCount : Nat) : Nat := clientCount - 1

end Register

namespace Session
variable {P : Player} {a : Action} {phase phase' : ClientPhase}

/-- A player finishes in its own `handle`. -/
theorem PhaseStep.unfinished (h : PhaseStep P a phase phase') (hf : phase.isFinished = false)
    (ha : P ∉ a.handles?) : phase'.isFinished = false := by
  cases h with
  | same => exact hf
  | connects => rfl
  | joins _ _ h' => exact h'
  | fails => rfl
  | finishes he => subst he; exact absurd rfl ha

end Session

namespace Server
variable {C : Crypto} {s s' : Server} {c d : SocketId} {a : SocketAction}

theorem ended_step (hs : s.step C (d, a) = some s') (hp : (s.sockets c).phase = .ended) :
    (s'.sockets c).phase = .ended := by
  obtain ⟨k, hk, hsockets⟩ := step_eq_some hs
  rw [hsockets, Function.update_apply]
  split
  · next he =>
    subst he
    exact absurd hp (Socket.step_way hk).1
  · exact hp

/-- At most the socket that takes a step is registered by it. -/
theorem finite_added_step (h : {c | (s.sockets c).added.isSome}.Finite) (hs : s.step C (d, a) = some s') :
    {c | (s'.sockets c).added.isSome}.Finite := by
  obtain ⟨k, -, hsockets⟩ := step_eq_some hs
  refine (h.insert d).subset fun c hc => ?_
  by_cases he : c = d
  · exact .inl he
  · refine .inr ?_
    change (s'.sockets c).added.isSome at hc
    rwa [hsockets, Function.update_of_ne he] at hc

/-- The map has as many keys as there are sockets that have added one. -/
theorem Exclusive.exists_hostnames (h : Exclusive s) (proxies : Finset SocketId)
    (hproxies : ∀ c, c ∈ proxies ↔ (s.sockets c).added.isSome) :
    ∃ hostnames : Finset String, (∀ hostname, hostname ∈ hostnames ↔ (s.register.getServer hostname).isSome) ∧
      hostnames.card = proxies.card := by
  have hadded : ∀ c ∈ proxies, s.register.getServer ((s.sockets c).added.getD "") = some c := by
    intro c hc
    obtain ⟨hostname, hhost⟩ := Option.isSome_iff_exists.1 ((hproxies c).1 hc)
    rw [hhost]
    exact (h.register hostname c).2 hhost
  refine ⟨proxies.image fun c => (s.sockets c).added.getD "", fun hostname => ?_, ?_⟩
  · rw [Finset.mem_image]
    constructor
    · rintro ⟨c, hc, rfl⟩
      rw [hadded c hc]
      rfl
    · intro hsome
      obtain ⟨c, hc⟩ := Option.isSome_iff_exists.1 hsome
      have hhost := (h.register hostname c).1 hc
      exact ⟨c, (hproxies c).2 (by rw [hhost]; rfl), by rw [hhost]; rfl⟩
  · refine Finset.card_image_of_injOn fun c hc d hd he => ?_
    have hcd := hadded c hc
    change (s.sockets c).added.getD "" = (s.sockets d).added.getD "" at he
    rw [he, hadded d hd] at hcd
    exact (Option.some.inj hcd).symm

end Server

/-! ### The system with the counter -/

namespace CountingSystem

def init : CountingSystem := ⟨.init, 0, fun _ => .before⟩

/-- Where the `MCClient` of a socket is. -/
def clientPhase (s : CountingSystem) (c : SocketId) : ClientPhase :=
  match (s.system.server.sockets c).phase with
  | .forwarding t => ((s.system.sessions t).players c).phase
  | _ => .absent

/-- `handle` begins after `add_client`, and `handle_minecraft_client` returns after `remove_client`. -/
def Proceeds (s : CountingSystem) : SystemAction → Bool
  | .socket c .fail => s.counting c ≠ .counted
  | .session _ a => a.handles?.all fun P => s.counting P ≠ .before
  | _ => true

def step (C : Crypto) (s : CountingSystem) : CountingAction → Option CountingSystem
  | .system a => if s.Proceeds a then (s.system.step C a).map fun system => { s with system } else none
  | .addClient c =>
    if s.counting c = .before ∧ (s.clientPhase c).isHandling then
      some { s with
        clientCount := Register.addClient s.clientCount
        counting := update s.counting c .counted }
    else none
  | .removeClient c =>
    if s.counting c = .counted ∧ (s.clientPhase c).isFinished then
      some { s with
        clientCount := Register.removeClient s.clientCount
        counting := update s.counting c .after }
    else none

variable {C : Crypto} {s s' : CountingSystem} {c t : SocketId}

theorem step_system {a : SystemAction} (h : s.step C (.system a) = some s') :
    s.Proceeds a = true ∧ ∃ system, s.system.step C a = some system ∧ s' = { s with system } := by
  rw [step] at h
  split at h
  · next hp =>
    obtain ⟨system, hsystem, rfl⟩ := Option.map_eq_some_iff.1 h
    exact ⟨hp, system, hsystem, rfl⟩
  · cases h

theorem step_addClient (h : s.step C (.addClient c) = some s') :
    s.counting c = .before ∧ (s.clientPhase c).isHandling = true ∧
      s' = { s with
        clientCount := Register.addClient s.clientCount
        counting := update s.counting c .counted } := by
  rw [step] at h
  split at h
  · next hp => cases h; exact ⟨hp.1, hp.2, rfl⟩
  · cases h

theorem step_removeClient (h : s.step C (.removeClient c) = some s') :
    s.counting c = .counted ∧ (s.clientPhase c).isFinished = true ∧
      s' = { s with
        clientCount := Register.removeClient s.clientCount
        counting := update s.counting c .after } := by
  rw [step] at h
  split at h
  · next hp => cases h; exact ⟨hp.1, hp.2, rfl⟩
  · cases h

theorem clientPhase_eq (hp : (s.system.server.sockets c).phase = .forwarding t) :
    s.clientPhase c = ((s.system.sessions t).players c).phase := by
  rw [clientPhase, hp]

/-- A client that is past `MCClient::new` is forwarded to a session. -/
theorem exists_forwarding (h : (s.clientPhase c).id?.isSome = true) :
    ∃ t, (s.system.server.sockets c).phase = .forwarding t ∧
      ((s.system.sessions t).players c).phase.id?.isSome = true := by
  rw [clientPhase] at h
  split at h
  · next t hp => exact ⟨t, hp, h⟩
  · cases h

/-- The counter does not saturate. -/
def Unsaturated (s : CountingSystem) : CountingAction → Prop
  | .addClient _ => s.clientCount < USIZE_MAX
  | _ => True

instance (s : CountingSystem) : DecidablePred s.Unsaturated
  | .addClient _ => inferInstanceAs (Decidable (_ < _))
  | .system _ => .isTrue trivial
  | .removeClient _ => .isTrue trivial

/-- Each client is where its calls of the register say. -/
structure Told (s : CountingSystem) : Prop where
  before : ∀ c t, s.counting c = .before → ((s.system.sessions t).players c).phase.isFinished = false
  counted : ∀ c, s.counting c = .counted → ∃ t, (s.system.server.sockets c).phase = .forwarding t ∧
    ((s.system.sessions t).players c).phase.id?.isSome = true
  after : ∀ c, s.counting c = .after → ∃ t, ((s.system.sessions t).players c).phase.isFinished = true ∧
    ((s.system.server.sockets c).phase = .forwarding t ∨ (s.system.server.sockets c).phase = .ended)
  registered : {c | (s.system.server.sockets c).added.isSome}.Finite

theorem told_init : Told init where
  before _ _ _ := rfl
  counted _ h := by cases h
  after _ h := by cases h
  registered := Set.Finite.subset Set.finite_empty fun _ h => by cases h

/-- What an entry is that an update did not put there. -/
theorem eq_of_update_ne {f : SocketId → CountPhase} {x y : CountPhase} {c d : SocketId} (h : update f c x d = y)
    (hne : x ≠ y) : d ≠ c ∧ f d = y := by
  by_cases he : d = c
  · subst he
    rw [Function.update_self] at h
    exact absurd h hne
  · exact ⟨he, (Function.update_of_ne he _ _).symm.trans h⟩

/-- A socket goes on. -/
theorem Told.server (h : Told s) {d : SocketId} {a : SocketAction} {server : Server}
    {firstPacket : SocketId → Option MinecraftDataPacket} (hfail : a = .fail → s.counting d ≠ .counted)
    (hs : s.system.server.step C (d, a) = some server) :
    Told { s with system := { s.system with server, firstPacket } } where
  before := h.before
  counted c hc := by
    obtain ⟨t, hp, hid⟩ := h.counted c hc
    rcases Server.forwarding_step hs hp with hp' | ⟨⟨rfl, ha⟩, -⟩
    · exact ⟨t, hp', hid⟩
    · exact absurd hc (hfail ha)
  after c hc := by
    obtain ⟨t, hfinished, hp | hp⟩ := h.after c hc
    · exact ⟨t, hfinished, (Server.forwarding_step hs hp).imp_right And.right⟩
    · exact ⟨t, hfinished, .inr (Server.ended_step hs hp)⟩
  registered := Server.finite_added_step h.registered hs

/-- A task goes on in a session. -/
theorem Told.session (h : Told s) {a : Action} {session : Session}
    (ha : ∀ P ∈ a.handles?, s.counting P ≠ .before) (hs : (s.system.sessions t).step a = some session) :
    Told { s with system := { s.system with sessions := update s.system.sessions t session } } := by
  have hphase : ∀ t' P, Session.PhaseStep P a ((s.system.sessions t').players P).phase
      ((update s.system.sessions t session t').players P).phase := by
    intro t' P
    by_cases he : t' = t
    · subst he
      rw [Function.update_self]
      exact Session.phase_step hs P
    · rw [Function.update_of_ne he]
      exact .same _
  refine ⟨fun c t' hc => ?_, fun c hc => ?_, fun c hc => ?_, h.registered⟩
  · exact (hphase t' c).unfinished (h.before c t' hc) fun hmem => ha c hmem hc
  · obtain ⟨t', hp, hid⟩ := h.counted c hc
    exact ⟨t', hp, (hphase t' c).id? hid⟩
  · obtain ⟨t', hf, hp⟩ := h.after c hc
    exact ⟨t', (hphase t' c).isFinished hf, hp⟩

theorem Told.step {a : CountingAction} (h : Told s) (hs : s.step C a = some s') : Told s' := by
  cases a with
  | system a =>
    obtain ⟨hp, system, hsystem, rfl⟩ := step_system hs
    cases a with
    | socket d a =>
      obtain ⟨-, server, hserver, rfl⟩ := System.step_socket hsystem
      refine h.server ?_ hserver
      rintro rfl
      exact of_decide_eq_true hp
    | firstPacket d packet data =>
      obtain ⟨-, server, hserver, rfl⟩ := System.step_firstPacket hsystem
      exact h.server (fun he => by cases he) hserver
    | session t a =>
      obtain ⟨-, -, session, hsession, rfl⟩ := System.step_session hsystem
      refine h.session (fun P hP => ?_) hsession
      have hall := (Option.all_eq_true _ _).1 hp P hP
      exact of_decide_eq_true hall
  | addClient c =>
    obtain ⟨hc, hphase, rfl⟩ := step_addClient hs
    have hid : (s.clientPhase c).id?.isSome = true := by
      cases hp : s.clientPhase c with
      | handling => rfl
      | _ => rw [hp] at hphase; cases hphase
    refine ⟨fun d t hd => ?_, fun d hd => ?_, fun d hd => ?_, h.registered⟩
    · exact h.before d t (eq_of_update_ne hd (by simp)).2
    · by_cases he : d = c
      · subst he
        exact exists_forwarding (s := s) hid
      · exact h.counted d ((Function.update_of_ne he _ _).symm.trans hd)
    · exact h.after d (eq_of_update_ne hd (by simp)).2
  | removeClient c =>
    obtain ⟨hc, hphase, rfl⟩ := step_removeClient hs
    refine ⟨fun d t hd => ?_, fun d hd => ?_, fun d hd => ?_, h.registered⟩
    · exact h.before d t (eq_of_update_ne hd (by simp)).2
    · exact h.counted d (eq_of_update_ne hd (by simp)).2
    · by_cases he : d = c
      · subst he
        rw [clientPhase] at hphase
        split at hphase
        · next t hp => exact ⟨t, hphase, .inl hp⟩
        · cases hphase
      · exact h.after d ((Function.update_of_ne he _ _).symm.trans hd)

/-- As many clients are counted as the counter says. -/
def Counts (s : CountingSystem) : Prop :=
  ∃ clients : Finset SocketId, (∀ c, c ∈ clients ↔ s.counting c = .counted) ∧ s.clientCount = clients.card

theorem counts_init : Counts init := ⟨∅, fun c => by simp [init], rfl⟩

theorem Counts.step {a : CountingAction} (h : Counts s) (hc : s.Unsaturated a) (hs : s.step C a = some s') :
    Counts s' := by
  obtain ⟨clients, hclients, hcard⟩ := h
  cases a with
  | system a =>
    obtain ⟨-, system, -, rfl⟩ := step_system hs
    exact ⟨clients, hclients, hcard⟩
  | addClient c =>
    obtain ⟨hbefore, -, rfl⟩ := step_addClient hs
    have hnew : c ∉ clients := fun hmem => by
      have := hbefore.symm.trans ((hclients c).1 hmem)
      cases this
    refine ⟨insert c clients, fun d => ?_, ?_⟩
    · rw [Finset.mem_insert, hclients]
      show _ ↔ update s.counting c .counted d = .counted
      rw [Function.update_apply]
      split <;> simp [*]
    · show Register.addClient s.clientCount = _
      rw [Finset.card_insert_of_notMem hnew, ← hcard, Register.addClient]
      exact Nat.min_eq_left hc
  | removeClient c =>
    obtain ⟨hcounted, -, rfl⟩ := step_removeClient hs
    refine ⟨clients.erase c, fun d => ?_, ?_⟩
    · rw [Finset.mem_erase, hclients]
      show _ ↔ update s.counting c .after d = .counted
      rw [Function.update_apply]
      split <;> simp [*]
    · show Register.removeClient s.clientCount = _
      rw [Finset.card_erase_of_mem ((hclients c).2 hcounted), ← hcard, Register.removeClient]

/-! ### What the counter says -/

/-- First packets are short. -/
def Short : CountingAction → Prop
  | .system (.session _ a) => Session.ShortStart a
  | _ => True

instance : DecidablePred Short
  | .system (.session _ _) => inferInstanceAs (Decidable (Session.ShortStart _))
  | .system (.socket _ _) => .isTrue trivial
  | .system (.firstPacket _ _ _) => .isTrue trivial
  | .addClient _ => .isTrue trivial
  | .removeClient _ => .isTrue trivial

/-- The system runs as it does without the counter. -/
theorem reach_system {D : CountingSystem → CountingAction → Prop} {E : SystemAction → Prop}
    (hD : ∀ s a, D s (.system a) → E a) (h : Lts.Reach (step C) D init s) :
    Lts.Reach (System.step C) (fun _ a => E a) .init s.system := by
  induction h with
  | init => exact .init
  | @step s s' a _ hc hs ih =>
    cases a with
    | system a =>
      obtain ⟨-, system, hsystem, rfl⟩ := step_system hs
      exact ih.step (hD s a hc) hsystem
    | addClient c =>
      obtain ⟨-, -, rfl⟩ := step_addClient hs
      exact ih
    | removeClient c =>
      obtain ⟨-, -, rfl⟩ := step_removeClient hs
      exact ih

theorem told_reach {D : CountingSystem → CountingAction → Prop} (h : Lts.Reach (step C) D init s) : Told s :=
  h.invariant (I := Told) told_init fun _ hi _ hs => hi.step hs

theorem counts_reach {D : CountingSystem → CountingAction → Prop} (hD : ∀ s a, D s a → s.Unsaturated a)
    (h : Lts.Reach (step C) D init s) : Counts s :=
  h.invariant (I := Counts) counts_init fun _ hi hc hs => hi.step (hD _ _ hc) hs

/-- In every run of the server in which the counter does not saturate, what `stats_handler` reads at any time is
right: the counter is the number of clients that were added and not removed, each of which is past `MCClient::new`
in a session it is forwarded to, and there are as many hostnames in the map as proxy clients that were added and
not removed. -/
theorem counts_clients (h : Lts.Reach (step C) (fun s a => s.Unsaturated a) init s) :
    (∃ clients : Finset SocketId, s.clientCount = clients.card ∧
      (∀ c, c ∈ clients ↔ s.counting c = .counted) ∧
      ∀ c ∈ clients, ∃ t, (s.system.server.sockets c).phase = .forwarding t ∧
        ((s.system.sessions t).players c).phase.id?.isSome = true) ∧
    ∃ (hostnames : Finset String) (proxies : Finset SocketId), hostnames.card = proxies.card ∧
      (∀ hostname, hostname ∈ hostnames ↔ (s.system.server.register.getServer hostname).isSome) ∧
      ∀ c, c ∈ proxies ↔ (s.system.server.sockets c).phase.removes?.isSome := by
  have htold := told_reach h
  obtain ⟨clients, hclients, hcard⟩ := counts_reach (fun _ _ hc => hc) h
  have hrouted : System.Routed C s.system :=
    (reach_system (E := fun _ => True) (fun _ _ _ => trivial) h).invariant (I := System.Routed C) System.routed_init
      fun _ hi _ hs => hi.step hs
  refine ⟨⟨clients, hcard, hclients, fun c hc => htold.counted c ((hclients c).1 hc)⟩, ?_⟩
  obtain ⟨hostnames, hmem, hcards⟩ := hrouted.exclusive.exists_hostnames htold.registered.toFinset
    fun c => htold.registered.mem_toFinset
  refine ⟨hostnames, htold.registered.toFinset, hcards, hmem, fun c => ?_⟩
  rw [htold.registered.mem_toFinset, ← (hrouted.exclusive.removes c).added]
  rfl

/-- Players 0 and 2 are forwarded to socket 1 and added; player 0 leaves and is removed. -/
def addBothAndRemove : List CountingAction :=
  (System.loginAndForward ++ System.forwardSecond).map .system ++ [.addClient 0, .addClient 2] ++
    [.session 1 (.clientReadEnds 0), .session 1 (.clientFinish 0 0)].map .system ++ [.removeClient 0]

theorem counts_clients_addBothAndRemove :
    ∃ s, Lts.run (step ServerPublicKey.sampleCrypto) init addBothAndRemove = some s ∧ s.clientCount = 1 ∧
      (∃ clients : Finset SocketId, s.clientCount = clients.card ∧ 2 ∈ clients ∧ 0 ∉ clients) ∧
      ∃ (hostnames : Finset String) (proxies : Finset SocketId), hostnames.card = proxies.card ∧
        "3grfiewn7rkrpizi11dm.t.craftip.net" ∈ hostnames ∧ 1 ∈ proxies ∧ 2 ∉ proxies := by
  obtain ⟨s, hrun, hcount, ⟨hafter, hcounted⟩, hregistered, hproxy, hplayer⟩ : ∃ s,
      Lts.run (step ServerPublicKey.sampleCrypto) init addBothAndRemove = some s ∧
      s.clientCount = 1 ∧ (s.counting 0 = .after ∧ s.counting 2 = .counted) ∧
      (s.system.server.register.getServer "3grfiewn7rkrpizi11dm.t.craftip.net").isSome ∧
      (s.system.server.sockets 1).phase.removes?.isSome ∧
      (s.system.server.sockets 2).phase.removes? = none := by
    decide +kernel
  obtain ⟨⟨clients, hcard, hclients, -⟩, hostnames, proxies, hcards, hhostnames, hproxies⟩ :=
    counts_clients (Lts.Reach.of_run (C := fun s a => s.Unsaturated a) hrun (by decide +kernel))
  refine ⟨s, hrun, hcount, ⟨clients, hcard, (hclients 2).2 hcounted, fun hmem => ?_⟩, hostnames, proxies, hcards,
    (hhostnames _).2 hregistered, (hproxies 1).2 hproxy, fun hmem => ?_⟩
  · have hc := hafter.symm.trans ((hclients 0).1 hmem)
    cases hc
  · have hp := (hproxies 2).1 hmem
    rw [hplayer] at hp
    cases hp

/-! ### At rest -/

/-- A session and the tasks of its players rest, while it serves or when it is over. -/
def SessionRests (s : System) (t : SocketId) : Prop :=
  (s.sessions t).Going ∧ (s.sessions t).Resting ∨
    (s.sessions t).Over ∧ ∀ P, (s.server.sockets P).phase = .forwarding t → (s.sessions t).PlayerResting P

/-- The sessions rest in which there are players, and no call of the register is due. -/
structure Rests (C : Crypto) (s : CountingSystem) : Prop where
  sessions : ∀ c t, (s.system.server.sockets c).phase = .forwarding t → SessionRests s.system t
  added : ∀ c, s.step C (.addClient c) = none
  removed : ∀ c, s.step C (.removeClient c) = none

theorem Rests.not_added (h : Rests C s) {id : ClientID} (hp : (s.system.server.sockets c).phase = .forwarding t)
    (hphase : ((s.system.sessions t).players c).phase = .handling id) : s.counting c ≠ .before := by
  intro hc
  have hnone := h.added c
  rw [step, if_pos ⟨hc, by rw [clientPhase_eq hp, hphase]; rfl⟩] at hnone
  cases hnone

theorem Rests.not_removed (h : Rests C s) {id : ClientID} (hp : (s.system.server.sockets c).phase = .forwarding t)
    (hphase : ((s.system.sessions t).players c).phase = .finished id) : s.counting c ≠ .counted := by
  intro hc
  have hnone := h.removed c
  rw [step, if_pos ⟨hc, by rw [clientPhase_eq hp, hphase]; rfl⟩] at hnone
  cases hnone

/-- At rest, a client is counted whose `handle` runs. -/
theorem Rests.counted_iff (h : Rests C s) (ht : Told s) (hp : (s.system.server.sockets c).phase = .forwarding t) :
    s.counting c = .counted ↔ ∃ id, ((s.system.sessions t).players c).phase = .handling id := by
  constructor
  · intro hc
    obtain ⟨t', hp', hid⟩ := ht.counted c hc
    obtain rfl : t' = t := by
      rw [hp] at hp'
      cases hp'
      rfl
    cases hphase : ((s.system.sessions t').players c).phase with
    | handling id => exact ⟨id, rfl⟩
    | finished id => exact absurd hc (h.not_removed hp hphase)
    | absent | awaitId | hasId | failed => rw [hphase] at hid; cases hid
  · rintro ⟨id, hphase⟩
    cases hc : s.counting c with
    | before => exact absurd hc (h.not_added hp hphase)
    | counted => rfl
    | after =>
      obtain ⟨t', hf, hp' | hp'⟩ := ht.after c hc <;> rw [hp] at hp' <;> cases hp'
      rw [hphase] at hf
      cases hf

/-- When the sessions rest and no call of the register is due, the counter is the number of players that are in a
slot of a session that serves. -/
theorem rest_counts_served (h : Lts.Reach (step C) (fun s a => s.Unsaturated a ∧ Short a) init s)
    (hrest : Rests C s) : ∃ served : Finset SocketId, s.clientCount = served.card ∧
      ∀ c, c ∈ served ↔ ∃ t id, (s.system.server.sockets c).phase = .forwarding t ∧ (s.system.sessions t).Going ∧
        (s.system.sessions t).distributor.getById id = some c := by
  have htold := told_reach h
  obtain ⟨clients, hclients, hcard⟩ := counts_reach (fun _ _ hc => hc.1) h
  have hagrees : ∀ t, (s.system.sessions t).Going → (s.system.sessions t).Resting →
      (s.system.sessions t).Agrees := by
    intro t hgoing hresting
    refine Session.rest_agrees (System.reach_session (t := t) (reach_system ?_ h)) hgoing hresting
    intro s a hc
    cases a with
    | session t' a => exact fun _ => hc.2
    | _ => trivial
  refine ⟨clients, hcard, fun c => ?_⟩
  rw [hclients]
  constructor
  · intro hc
    obtain ⟨t, hp, -⟩ := htold.counted c hc
    obtain ⟨id, hphase⟩ := (hrest.counted_iff htold hp).1 hc
    rcases hrest.sessions c t hp with ⟨hgoing, hresting⟩ | ⟨hover, hplayers⟩
    · exact ⟨t, id, hp, hgoing, ((hagrees t hgoing hresting).server id c).2 hphase⟩
    · have hdone := (hplayers c hp).isOver hover.1 hover.2
      rw [Session.PlayerOver, hphase] at hdone
      exact hdone.elim
  · rintro ⟨t, id, hp, hgoing, hslot⟩
    rcases hrest.sessions c t hp with ⟨-, hresting⟩ | ⟨hover, -⟩
    · exact (hrest.counted_iff htold hp).2 ⟨id, ((hagrees t hgoing hresting).server id c).1 hslot⟩
    · exact absurd hover.2 hgoing.writer

/-! ### A run that comes to rest -/

end CountingSystem

/-- The socket that an action is of. -/
def CountingAction.socket? : CountingAction → Option SocketId
  | .system (.socket c _) => some c
  | .system (.firstPacket c _ _) => some c
  | _ => none

/-- The action of a session. -/
def CountingAction.inSession? (t : SocketId) : CountingAction → Option Action
  | .system (.session t' a) => if t' = t then some a else none
  | _ => none

namespace CountingSystem
variable {C : Crypto} {s s' : CountingSystem} {c t : SocketId} {n : Nat}

theorem socket_initial (h : Lts.Reach (step C) (fun _ a => a.socket?.all (· < n) = true) init s) (hc : n ≤ c) :
    s.system.server.sockets c = .initial := by
  have hother : ∀ {server server' : Server} {d : SocketId} {a : SocketAction}, d < n →
      server.step C (d, a) = some server' → server'.sockets c = server.sockets c := by
    intro server server' d a hd hs
    obtain ⟨k, -, hsockets⟩ := Server.step_eq_some hs
    rw [hsockets, Function.update_of_ne (Nat.ne_of_gt (Nat.lt_of_lt_of_le hd hc))]
  refine h.invariant (I := fun s => s.system.server.sockets c = .initial) rfl ?_
  intro s a s' _ hi hd hs
  cases a with
  | system a =>
    obtain ⟨-, system, hsystem, rfl⟩ := step_system hs
    cases a with
    | socket d a =>
      obtain ⟨-, server, hserver, rfl⟩ := System.step_socket hsystem
      exact (hother (of_decide_eq_true hd) hserver).trans hi
    | firstPacket d packet data =>
      obtain ⟨-, server, hserver, rfl⟩ := System.step_firstPacket hsystem
      exact (hother (of_decide_eq_true hd) hserver).trans hi
    | session t a =>
      obtain ⟨-, -, session, -, rfl⟩ := System.step_session hsystem
      exact hi
  | addClient d =>
    obtain ⟨-, -, rfl⟩ := step_addClient hs
    exact hi
  | removeClient d =>
    obtain ⟨-, -, rfl⟩ := step_removeClient hs
    exact hi

/-- A session runs by the actions in it. -/
theorem run_session (t : SocketId) {as : List CountingAction} (h : Lts.run (step C) init as = some s) :
    Lts.run Session.step .init (as.filterMap (·.inSession? t)) = some (s.system.sessions t) := by
  refine Lts.run_invariant
    (I := fun as s => Lts.run Session.step .init (as.filterMap (·.inSession? t)) = some (s.system.sessions t))
    rfl ?_ h
  intro as s a s' _ ih hs
  have hskip : a.inSession? t = none → s'.system.sessions t = s.system.sessions t →
      Lts.run Session.step .init ((as ++ [a]).filterMap (·.inSession? t)) = some (s'.system.sessions t) := by
    intro ha he
    rw [List.filterMap_append, List.filterMap_cons_none ha, List.filterMap_nil, List.append_nil, ih, he]
  cases a with
  | system a =>
    obtain ⟨-, system, hsystem, rfl⟩ := step_system hs
    cases a with
    | socket d a =>
      obtain ⟨-, server, -, rfl⟩ := System.step_socket hsystem
      exact hskip rfl rfl
    | firstPacket d packet data =>
      obtain ⟨-, server, -, rfl⟩ := System.step_firstPacket hsystem
      exact hskip rfl rfl
    | session t' a =>
      obtain ⟨-, -, session, hsession, rfl⟩ := System.step_session hsystem
      by_cases he : t' = t
      · subst he
        have ha : CountingAction.inSession? t' (.system (.session t' a)) = some a := if_pos rfl
        rw [List.filterMap_append, List.filterMap_cons_some ha, List.filterMap_nil, Lts.run_append, ih]
        show ((s.system.sessions t').step a).bind _ = some (update s.system.sessions t' session t')
        rw [hsession, Function.update_self]
        rfl
      · exact hskip (if_neg he) (Function.update_of_ne (Ne.symm he) _ _)
  | addClient d =>
    obtain ⟨-, -, rfl⟩ := step_addClient hs
    exact hskip rfl rfl
  | removeClient d =>
    obtain ⟨-, -, rfl⟩ := step_removeClient hs
    exact hskip rfl rfl

/-- Player 0 joins the session of socket 1 and is added, and a packet goes each way. -/
def addAndSettle : List CountingAction :=
  (System.loginAndForward.take 32).map .system ++ [.addClient 0] ++
    (Session.joinAndSettle.drop 17).map fun a => .system (.session 1 a)

theorem rest_counts_served_addAndSettle :
    ∃ s, Lts.run (step ServerPublicKey.sampleCrypto) init addAndSettle = some s ∧ s.clientCount = 1 ∧
      ∃ served : Finset SocketId, s.clientCount = served.card ∧
        ∀ c, c ∈ served ↔ ∃ t id, (s.system.server.sockets c).phase = .forwarding t ∧
          (s.system.sessions t).Going ∧ (s.system.sessions t).distributor.getById id = some c := by
  obtain ⟨s, hrun, hcount, hcounted, hforwarding, hserving⟩ : ∃ s,
      Lts.run (step ServerPublicKey.sampleCrypto) init addAndSettle = some s ∧
      s.clientCount = 1 ∧ s.counting 0 = .counted ∧ (s.system.server.sockets 0).phase = .forwarding 1 ∧
      (s.system.server.sockets 1).phase = .serving ⟨"3grfiewn7rkrpizi11dm.t.craftip.net", ⟨⟩⟩ := by
    decide +kernel
  obtain ⟨session, hsession, hgoing, hresting, hphase⟩ := Session.joinAndSettle_rests
  obtain rfl : session = s.system.sessions 1 := by
    have hrun' := run_session 1 hrun
    rw [show addAndSettle.filterMap (·.inSession? 1) = Session.joinAndSettle by decide +kernel, hsession] at hrun'
    exact Option.some.inj hrun'
  have hother : ∀ c, c ≠ 0 → ∀ t, (s.system.server.sockets c).phase ≠ .forwarding t := by
    intro c hc t hp
    by_cases h1 : c = 1
    · rw [h1, hserving] at hp
      cases hp
    · rw [socket_initial (n := 2) (Lts.Reach.of_run hrun (by decide +kernel)) ((Nat.two_le_iff c).2 ⟨hc, h1⟩)] at hp
      cases hp
  have hclient : ∀ c, c ≠ 0 → s.clientPhase c = .absent := by
    intro c hc
    rw [clientPhase]
    split
    · next t hp => exact absurd hp (hother c hc t)
    · rfl
  have hrest : Rests ServerPublicKey.sampleCrypto s := by
    refine ⟨fun c t hp => ?_, fun c => ?_, fun c => ?_⟩
    · by_cases hc : c = 0
      · rw [hc, hforwarding] at hp
        cases hp
        exact .inl ⟨hgoing, hresting⟩
      · exact absurd hp (hother c hc t)
    · refine Option.eq_none_iff_forall_ne_some.2 fun s' hs => ?_
      obtain ⟨hbefore, hhandling, -⟩ := step_addClient hs
      by_cases hc : c = 0
      · rw [hc, hcounted] at hbefore
        cases hbefore
      · rw [hclient c hc] at hhandling
        cases hhandling
    · refine Option.eq_none_iff_forall_ne_some.2 fun s' hs => ?_
      obtain ⟨-, hfinished, -⟩ := step_removeClient hs
      by_cases hc : c = 0
      · rw [hc, clientPhase_eq hforwarding, hphase] at hfinished
        cases hfinished
      · rw [hclient c hc] at hfinished
        cases hfinished
  exact ⟨s, hrun, hcount, rest_counts_served (Lts.Reach.of_run hrun (by decide +kernel)) hrest⟩

end CountingSystem
end CraftIP
