import CraftIP.Session.Rest
import CraftIP.System.Routing

/-!
# When a proxy client is gone

A proxy client whose connection is lost leaves its players, their tasks and its hostname behind. The server takes
all of it back by itself: `handle` returns, `remove_server` frees the hostname, and no task of a player of the
session is left, also of one whose own client is gone, after a bounded number of steps in any order (`cleans_up`).
-/

namespace CraftIP
open Function (update)

/-! ### A session's players -/

namespace Session
variable {s s' : Session} {P Q : Player} {a : Action}

/-- What an action does to the phase of a player. -/
inductive PhaseStep (P : Player) (a : Action) : ClientPhase → ClientPhase → Prop
  | same (phase : ClientPhase) : PhaseStep P a phase phase
  | connects {startData : List UInt8} (h : a = .connect P startData) : PhaseStep P a .absent (.awaitId startData)
  | joins {phase phase' : ClientPhase} (hover : phase.isOver = false) (h : phase.id? = none)
    (h' : phase'.isFinished = false) : PhaseStep P a phase phase'
  | fails {phase : ClientPhase} (h : phase.id? = none) : PhaseStep P a phase .failed
  | finishes {id : ClientID} (h : a = .clientFinish P id) : PhaseStep P a (.handling id) (.finished id)

variable {phase phase' : ClientPhase}

theorem PhaseStep.id? (h : PhaseStep P a phase phase') (hid : phase.id?.isSome = true) : phase'.id?.isSome = true := by
  cases h with
  | same => exact hid
  | connects => cases hid
  | joins _ hnone => rw [hnone] at hid; cases hid
  | fails hnone => rw [hnone] at hid; cases hid
  | finishes => rfl

theorem PhaseStep.isFinished (h : PhaseStep P a phase phase') (hf : phase.isFinished = true) :
    phase'.isFinished = true := by
  cases h with
  | same => exact hf
  | connects => cases hf
  | joins hover =>
    cases phase with
    | finished => cases hover
    | _ => cases hf
  | fails hnone =>
    cases phase with
    | finished => cases hnone
    | _ => cases hf
  | finishes => rfl

/-- A task that runs has begun with `connect`. -/
theorem PhaseStep.isOver (h : PhaseStep P a phase phase') (hover : phase'.isOver = false) :
    phase.isOver = false ∨ ∃ startData, a = .connect P startData := by
  cases h with
  | same => exact .inl hover
  | connects ha => exact .inr ⟨_, ha⟩
  | joins h => exact .inl h
  | fails => cases hover
  | finishes => cases hover

theorem PhaseStep.update {p : PlayerState} (h : PhaseStep Q a (s.players Q).phase p.phase) :
    PhaseStep P a (s.players P).phase (update s.players Q p P).phase := by
  rw [Function.update_apply]
  split
  · next he => subst he; exact h
  · exact .same _

theorem phase_step (hs : s.step a = some s') (P : Player) :
    PhaseStep P a (s.players P).phase (s'.players P).phase := by
  obtain ⟨ha, rfl⟩ := step_eq_some hs
  cases a with
  | connect Q startData =>
    refine .update ?_
    rw [(of_decide_eq_true ha).1]
    exact .connects rfl
  | joinFails Q =>
    refine .update (.fails ?_)
    have hjoining := (of_decide_eq_true ha).1
    cases hp : (s.players Q).phase with
    | handling | finished => rw [hp] at hjoining; cases hjoining
    | _ => rfl
  | sendStart Q id startData =>
    refine .update ?_
    rw [(of_decide_eq_true ha).1]
    exact .joins rfl rfl rfl
  | clientFinish Q id =>
    refine .update ?_
    rw [(of_decide_eq_true ha).1]
    exact .finishes rfl
  | clientRead | clientReadEnds | clientWriterTake | clientWriterDrained | clientWriterWrite | clientWriterFlushed
  | clientWriterFlushFails | clientWriterClosed | clientWriterFails | clientWriterAborted => exact .update (.same _)
  | handleWriter m =>
    apply handleMessage_cases (motive := fun t => PhaseStep P _ (s.players P).phase (t.players P).phase)
      { s with queue := s.queue.tail } m
    case joined =>
      intro Q tx id d startData _ _ hphase
      refine .update ?_
      rw [show (s.players Q).phase = _ from hphase]
      exact .joins rfl rfl rfl
    all_goals intros; exact .same _
  | handleReader f =>
    apply handleFrame_cases (motive := fun t => PhaseStep P _ (s.players P).phase (t.players P).phase)
      { s with up := s.up.pop f } f
    case disconnect => intro id Q _ _; exact .update (.same _)
    case data =>
      intro id pkg Q _ _
      refine .update ?_
      rw [PlayerState.send]
      split <;> exact .same _
    all_goals intros; exact .same _
  | readerHandler f =>
    apply readerFrame_cases (motive := fun t => PhaseStep P _ (s.players P).phase (t.players P).phase)
      { s with down := s.down.pop f } f <;> intros <;> exact .same _
  | writerHandler m =>
    apply backendMessage_cases (motive := fun t => PhaseStep P _ (s.players P).phase (t.players P).phase)
      { s with toProxy := s.toProxy.tail } m <;> intros <;> exact .same _
  | _ => exact .same _

end Session

/-! ### A socket that is forwarded -/

namespace Socket
variable {C : Crypto} {c t : SocketId} {k k' : Socket} {r r' : Register SocketId} {a : SocketAction}

/-- A Minecraft client that is forwarded is so until it ends. -/
theorem step_forwarding (h : step C c k r a = some (k', r')) (hp : k.phase = .forwarding t) :
    a = .fail ∧ k'.phase = .ended := by
  obtain ⟨-, -, hway⟩ := step_way h
  cases hway with
  | hello packet hp' => rw [hp] at hp'; cases hp'
  | found hp' => rw [hp] at hp'; cases hp'
  | missed => simp [step, hp] at h
  | fails h' => exact ⟨rfl, h'⟩
  | none hnone => rw [hp] at hnone; cases hnone

end Socket

namespace Server
variable {C : Crypto} {s s' : Server} {c d t : SocketId} {a : SocketAction}

/-- A Minecraft client that is forwarded stays so, or its own task returns. -/
theorem forwarding_step (hs : s.step C (d, a) = some s') (hp : (s.sockets c).phase = .forwarding t) :
    (s'.sockets c).phase = .forwarding t ∨ (d = c ∧ a = .fail) ∧ (s'.sockets c).phase = .ended := by
  obtain ⟨k, hk, hsockets⟩ := step_eq_some hs
  rw [hsockets, Function.update_apply]
  split
  · next he =>
    subst he
    obtain ⟨ha, hended⟩ := Socket.step_forwarding hk hp
    exact .inr ⟨⟨rfl, ha⟩, hended⟩
  · exact .inl hp

end Server

/-! ### The end of a session -/

namespace Session
variable {s s' : Session}

/-- One of the two loops of the server has ended. -/
def Gone (s : Session) : Prop := s.reader = false ∨ s.writer = .ended

/-- `handle` has returned, and its loops have ended. -/
def Over (s : Session) : Prop := s.serving = false ∧ s.writer = .ended

theorem Gone.step (h : s.Gone) {a : Action} (hs : s.step a = some s') : s'.Gone := by
  obtain ⟨ha, rfl⟩ := step_eq_some hs
  have hgoes : ∀ {w : HandleWriter}, s.writer = w → w ≠ .ended → s.reader = false := fun hw hne =>
    h.resolve_right fun he => hne (hw.symm.trans he)
  cases a with
  | handleWriter m =>
    have hw := (of_decide_eq_true ha).1
    have hreader : s.reader = false := by rcases hw with hw | hw <;> exact hgoes hw (by simp)
    apply handleMessage_cases (motive := Gone) { s with queue := s.queue.tail } m <;> intros <;> exact .inl hreader
  | handleWriterFeed f => exact .inl (hgoes (of_decide_eq_true ha) (by simp))
  | handleWriterEmpty => exact .inl (hgoes (of_decide_eq_true ha).1 (by simp))
  | handleWriterFlushed => exact .inl (hgoes (of_decide_eq_true ha).1 (by simp))
  | handleWriterFails | handleWriterAborted => exact .inr rfl
  | handleReaderEnds => exact .inl rfl
  | handleReader f =>
    apply handleFrame_cases (motive := Gone) { s with up := s.up.pop f } f <;> intros <;> exact h
  | readerHandler f =>
    apply readerFrame_cases (motive := Gone) { s with down := s.down.pop f } f <;> intros <;> exact h
  | writerHandler m =>
    apply backendMessage_cases (motive := Gone) { s with toProxy := s.toProxy.tail } m <;> intros <;> exact h
  | _ => exact h

theorem Over.step (h : s.Over) {a : Action} (hs : s.step a = some s') : s'.Over :=
  ⟨not_serving_step h.1 hs, ended_step (fun _ => h.2) hs (not_serving_step h.1 hs)⟩

end Session

namespace Socket
variable {C : Crypto} {c : SocketId} {k k' : Socket} {r r' : Register SocketId}

theorem step_handleEnds (h : step C c k r .handleEnds = some (k', r')) :
    ∃ proxy, k.phase = .serving proxy ∧ k' = k.enter (.intoDisconnected proxy) ∧ r' = r := by
  simp only [step] at h
  split at h
  · next proxy hp => cases h; exact ⟨proxy, hp, rfl, rfl⟩
  · cases h

theorem step_removeServer (h : step C c k r .removeServer = some (k', r')) :
    ∃ proxy, k.phase = .intoDisconnected proxy ∧ k'.phase = .disconnected ∧ r' = r.removeServer proxy.hostname := by
  simp only [step] at h
  split at h
  · next proxy hp => cases h; exact ⟨proxy, hp, rfl, rfl⟩
  · cases h

end Socket

/-- How many steps of `handle` are left at its end. -/
def SocketPhase.left : SocketPhase → Nat
  | .serving _ => 2
  | .intoDisconnected _ => 1
  | _ => 0

namespace System
variable {C : Crypto} {s s' : System} {t : SocketId} {P : Player} {proxy : ProxyClient Authenticated}

/-- First packets of the session are short. -/
def ShortIn (t : SocketId) : SystemAction → Prop
  | .session t' a => t' = t → Session.ShortStart a
  | _ => True

instance (t : SocketId) : DecidablePred (ShortIn t)
  | .session t' a => inferInstanceAs (Decidable (t' = t → Session.ShortStart a))
  | .socket _ _ => .isTrue trivial
  | .firstPacket _ _ _ => .isTrue trivial

/-- What the server does by itself for a session: the steps of its tasks, and the end of `handle`. -/
def Finishing (t : SocketId) (s : System) : SystemAction → Prop
  | .session t' a => t' = t ∧ (s.sessions t).Working a
  | .socket c a => c = t ∧ (a = .handleEnds ∨ a = .removeServer)
  | .firstPacket _ _ _ => False

/-- A player whose `MCClient` is there and has not returned is a socket that is forwarded to the session. -/
def Attached (s : System) : Prop :=
  ∀ t P, ((s.sessions t).players P).phase.isOver = false → (s.server.sockets P).phase = .forwarding t

theorem attached_init : Attached init := fun _ _ h => by cases h

/-- A socket goes on, which waits for its player's task. -/
theorem Attached.server (h : s.Attached) {c : SocketId} {a : SocketAction} {server : Server}
    {firstPacket : SocketId → Option MinecraftDataPacket} (hproceeds : a = .fail → s.Proceeds c .fail = true)
    (hs : s.server.step C (c, a) = some server) : Attached { s with server, firstPacket } := by
  intro t P hP
  rcases Server.forwarding_step hs (h t P hP) with hp | ⟨⟨rfl, ha⟩, -⟩
  · exact hp
  · have hover := hproceeds ha
    rw [Proceeds, h t c hP] at hover
    change ((s.sessions t).players c).phase.isOver = true at hover
    change ((s.sessions t).players c).phase.isOver = false at hP
    rw [hP] at hover
    cases hover

/-- A task goes on in a session. -/
theorem Attached.session (h : s.Attached) {a : Action} {session : Session} (hruns : s.Runs t a = true)
    (hs : (s.sessions t).step a = some session) :
    Attached { s with sessions := update s.sessions t session } := by
  intro t' P hP
  change ((update s.sessions t session t').players P).phase.isOver = false at hP
  show (s.server.sockets P).phase = .forwarding t'
  by_cases he : t' = t
  · subst he
    rw [Function.update_self] at hP
    rcases (Session.phase_step hs P).isOver hP with hP | ⟨startData, rfl⟩
    · exact h t' P hP
    · refine (of_decide_eq_true hruns).resolve_right fun hf => ?_
      rw [(of_decide_eq_true (Session.step_eq_some hs).1).1] at hf
      cases hf
  · rw [Function.update_of_ne he] at hP
    exact h t' P hP

theorem Attached.step {a : SystemAction} (h : s.Attached) (hs : s.step C a = some s') : s'.Attached := by
  cases a with
  | socket c a =>
    obtain ⟨hp, server, hserver, rfl⟩ := step_socket hs
    exact h.server (fun he => he ▸ hp) hserver
  | firstPacket c packet data =>
    obtain ⟨-, server, hserver, rfl⟩ := step_firstPacket hs
    exact h.server (fun he => by cases he) hserver
  | session t a =>
    obtain ⟨hruns, -, session, hsession, rfl⟩ := step_session hs
    exact h.session hruns hsession

theorem reach_session (h : Lts.Reach (step C) (fun _ a => ShortIn t a) init s) :
    Lts.Reach Session.step (fun _ a => Session.ShortStart a) .init (s.sessions t) := by
  induction h with
  | init => exact .init
  | @step s s' a _ hc hs ih =>
    cases a with
    | socket c a =>
      obtain ⟨-, server, -, rfl⟩ := step_socket hs
      exact ih
    | firstPacket c packet data =>
      obtain ⟨-, server, -, rfl⟩ := step_firstPacket hs
      exact ih
    | session t' a =>
      obtain ⟨-, -, session, hsession, rfl⟩ := step_session hs
      show Lts.Reach _ _ _ (update s.sessions t' session t)
      by_cases he : t = t'
      · subst he
        rw [Function.update_self]
        exact ih.step (hc rfl) hsession
      · rw [Function.update_of_ne he]
        exact ih

/-- The way out of `handle`. -/
inductive Leaves (proxy : ProxyClient Authenticated) (phase : SocketPhase) (session : Session) : Prop
  | served (hp : phase = .serving proxy) (h : session.Gone)
  | left (hp : phase = .intoDisconnected proxy) (h : session.Over)
  | done (hp : phase = .disconnected) (h : session.Over)

/-- The session of a proxy client that is gone. `register` is the register when it was lost. -/
structure Leaving (t : SocketId) (proxy : ProxyClient Authenticated) (register : Register SocketId) (N : Nat)
    (s : System) : Prop where
  bounded : (s.sessions t).Clean ∧ (s.sessions t).Below N
  ended : (s.sessions t).serving = false → (s.sessions t).writer = .ended
  leaves : Leaves proxy (s.server.sockets t).phase (s.sessions t)
  register : ∀ hostname, s.server.register.getServer hostname =
    if (s.server.sockets t).phase = .disconnected ∧ hostname = proxy.hostname then none
    else register.getServer hostname

/-- What is left to do. -/
def work (t : SocketId) (N : Nat) (s : System) : Nat :=
  (s.sessions t).work N + (s.server.sockets t).phase.left

variable {register : Register SocketId} {N : Nat}

theorem Leaving.session (h : Leaving t proxy register N s) {a : Action} {session : Session}
    (ha : (s.sessions t).Working a) (hs : (s.sessions t).step a = some session) :
    Leaving t proxy register N { s with sessions := update s.sessions t session } ∧
      work t N { s with sessions := update s.sessions t session } < work t N s := by
  have hsession : update s.sessions t session t = session := Function.update_self _ _ _
  obtain ⟨hbounded, hlt⟩ := Session.decreasing_work N _ a session h.bounded ha.settling hs
  refine ⟨⟨?_, ?_, ?_, h.register⟩, ?_⟩
  · show (update s.sessions t session t).Clean ∧ (update s.sessions t session t).Below N
    rw [hsession]
    exact hbounded
  · show (update s.sessions t session t).serving = false → (update s.sessions t session t).writer = .ended
    rw [hsession]
    exact Session.ended_step h.ended hs
  · show Leaves proxy _ (update s.sessions t session t)
    rw [hsession]
    rcases h.leaves with ⟨hp, hgone⟩ | ⟨hp, hover⟩ | ⟨hp, hover⟩
    · exact .served hp (hgone.step hs)
    · exact .left hp (hover.step hs)
    · exact .done hp (hover.step hs)
  · show (update s.sessions t session t).work N + _ < _
    rw [hsession]
    exact Nat.add_lt_add_right hlt _

theorem Leaving.handleEnds (h : Leaving t proxy register N s) {server : Server}
    (hover : (s.sessions t).serving = false) (hs : s.server.step C (t, .handleEnds) = some server) :
    Leaving t proxy register N { s with server } ∧ work t N { s with server } < work t N s := by
  obtain ⟨k, hk, hsockets⟩ := Server.step_eq_some hs
  obtain ⟨proxy', hp, rfl, hregister⟩ := Socket.step_handleEnds hk
  have hphase : (server.sockets t).phase = .intoDisconnected proxy' := by
    rw [hsockets, Function.update_self]
    rfl
  obtain rfl : proxy' = proxy := by
    rcases h.leaves with ⟨hp', -⟩ | ⟨hp', -⟩ | ⟨hp', -⟩ <;> rw [hp] at hp' <;> cases hp'
    rfl
  refine ⟨⟨h.bounded, h.ended, .left hphase ⟨hover, h.ended hover⟩, fun hostname => ?_⟩, ?_⟩
  · show server.register.getServer hostname = if (server.sockets t).phase = _ ∧ _ then _ else _
    rw [hregister, h.register, if_neg (by simp [hp]), if_neg (by simp [hphase])]
  · show _ + (server.sockets t).phase.left < _ + (s.server.sockets t).phase.left
    rw [hphase, hp]
    exact Nat.lt_succ_self _

theorem Leaving.removeServer (h : Leaving t proxy register N s) {server : Server}
    (hs : s.server.step C (t, .removeServer) = some server) :
    Leaving t proxy register N { s with server } ∧ work t N { s with server } < work t N s := by
  obtain ⟨k, hk, hsockets⟩ := Server.step_eq_some hs
  obtain ⟨proxy', hp, hk', hregister⟩ := Socket.step_removeServer hk
  have hphase : (server.sockets t).phase = .disconnected := by rw [hsockets, Function.update_self, hk']
  have hleaves : proxy' = proxy ∧ (s.sessions t).Over := by
    rcases h.leaves with ⟨hp', -⟩ | ⟨hp', hover⟩ | ⟨hp', -⟩ <;> rw [hp] at hp' <;> cases hp'
    exact ⟨rfl, hover⟩
  obtain ⟨rfl, hover⟩ := hleaves
  have hbefore : ∀ hostname, s.server.register.getServer hostname = register.getServer hostname := fun hostname =>
    (h.register hostname).trans (if_neg (by simp [hp]))
  refine ⟨⟨h.bounded, h.ended, .done hphase hover, fun hostname => ?_⟩, ?_⟩
  · show server.register.getServer hostname = if (server.sockets t).phase = _ ∧ _ then _ else _
    rw [hregister, Register.getServer_removeServer, hbefore]
    by_cases he : hostname = proxy'.hostname
    · rw [if_pos he, if_pos ⟨hphase, he⟩]
    · rw [if_neg he, if_neg fun hand => he hand.2]
  · show _ + (server.sockets t).phase.left < _ + (s.server.sockets t).phase.left
    rw [hphase, hp]
    exact Nat.lt_succ_self _

theorem decreasing_work (t : SocketId) (N : Nat) :
    Lts.Decreasing (step C) (Finishing t) (Leaving t proxy register N) (work t N) := by
  intro s a s' h hf hs
  cases a with
  | firstPacket => cases hf
  | session t' a =>
    obtain ⟨rfl, ha⟩ := hf
    obtain ⟨-, -, session, hsession, rfl⟩ := step_session hs
    exact h.session ha hsession
  | socket c a =>
    obtain ⟨rfl, rfl | rfl⟩ := hf
    · obtain ⟨hproceeds, server, hserver, rfl⟩ := step_socket hs
      exact h.handleEnds (of_decide_eq_true hproceeds) hserver
    · obtain ⟨-, server, hserver, rfl⟩ := step_socket hs
      exact h.removeServer hserver

/-! ### Where nothing is left to do -/

/-- A step of a session that its tasks could take. -/
theorem not_enabled_of_stuck (h : Lts.Stuck (step C) (Finishing t) s) {a : Action} (ha : (s.sessions t).Working a)
    (hruns : s.Runs t a = true) (hforwards : s.Forwards a = true) : (s.sessions t).enabled a = false := by
  have hstuck := h (.session t a) ⟨rfl, ha⟩
  rw [step, if_pos ⟨hruns, hforwards⟩, Option.map_eq_none_iff, Session.step] at hstuck
  split at hstuck
  · cases hstuck
  · next hne => exact Bool.eq_false_iff.2 hne

/-- `handle` has gone all its way. -/
theorem Leaving.disconnected (h : Leaving t proxy register N s) (hstuck : Lts.Stuck (step C) (Finishing t) s) :
    (s.server.sockets t).phase = .disconnected ∧ (s.sessions t).Over := by
  rcases h.leaves with ⟨hp, hgone⟩ | ⟨hp, -⟩ | ⟨hp, hover⟩
  · exfalso
    have hruns : ∀ {a : Action}, a.task = .handle → s.Runs t a = true := by
      intro a ha
      simp [Runs, ha, hp, SocketPhase.isServing]
    have hwriter : (s.sessions t).writer = .ended := by
      by_contra hne
      have hdisabled := not_enabled_of_stuck hstuck (a := .handleWriterAborted) ⟨rfl, rfl⟩ (hruns rfl) rfl
      exact of_decide_eq_false hdisabled ⟨hne, hgone.resolve_right hne⟩
    have hreader : (s.sessions t).reader = false :=
      Bool.eq_false_iff.2 <| of_decide_eq_false <|
        not_enabled_of_stuck hstuck (a := .handleReaderEnds) ⟨decide_eq_true hwriter, rfl⟩ (hruns rfl) rfl
    have hserving : (s.sessions t).serving = false := by
      refine Bool.eq_false_iff.2 fun hserving => ?_
      have hdisabled := not_enabled_of_stuck hstuck (a := .handleEnds) ⟨rfl, rfl⟩ (hruns rfl) rfl
      exact of_decide_eq_false hdisabled ⟨hreader, hwriter, hserving⟩
    have hnone := hstuck (.socket t .handleEnds) ⟨rfl, .inl rfl⟩
    simp [step, Proceeds, Server.step, Socket.step, hp, hserving] at hnone
  · have hnone := hstuck (.socket t .removeServer) ⟨rfl, .inr rfl⟩
    simp [step, Proceeds, Server.step, Socket.step, hp] at hnone
  · exact ⟨hp, hover⟩

theorem playerResting_of_stuck (hstuck : Lts.Stuck (step C) (Finishing t) s)
    (hP : (s.server.sockets P).phase = .forwarding t ∨ ((s.sessions t).players P).phase.isFinished = true) :
    (s.sessions t).PlayerResting P := by
  intro a ha hworking
  refine not_enabled_of_stuck hstuck hworking ?_ ?_
  · rw [Runs, ha]
    exact decide_eq_true hP
  · cases a with
    | connect Q startData => cases hworking.1
    | _ => rfl

/-- No task of a player is left, forwarded or not. -/
theorem Attached.playerOver (h : s.Attached) (hstuck : Lts.Stuck (System.step C) (Finishing t) s)
    (hover : (s.sessions t).Over) (P : Player) : Session.PlayerOver ((s.sessions t).players P) := by
  have hresting : ∀ hP, Session.PlayerOver ((s.sessions t).players P) := fun hP =>
    (playerResting_of_stuck hstuck hP).isOver hover.1 hover.2
  cases hphase : ((s.sessions t).players P).phase with
  | absent | failed => rw [Session.PlayerOver, hphase]; trivial
  | finished id => exact hresting (.inr (by rw [hphase]; rfl))
  | awaitId | hasId | handling => exact hresting (.inl (h t P (by rw [hphase]; rfl)))

/-- When the connection of a proxy client is lost, the server comes by itself, after a bounded number of steps in any
order, to where its hostname is free, the others are registered as they were, and no task of a player of the session
is left. -/
theorem cleans_up (h : Lts.Reach (step C) (fun _ a => ShortIn t a) init s)
    (hserving : (s.server.sockets t).phase = .serving proxy) (hgone : (s.sessions t).Gone) :
    ∃ n, ∀ as s', Lts.run (step C) s as = some s' → Lts.Meets (step C) (Finishing t) s as →
      as.length ≤ n ∧ (Lts.Stuck (step C) (Finishing t) s' →
        (∀ hostname, s'.server.register.getServer hostname =
          if hostname = proxy.hostname then none else s.server.register.getServer hostname) ∧
        ∀ P, Session.PlayerOver ((s'.sessions t).players P)) := by
  have hreach := reach_session h
  obtain ⟨hclean, N, hbelow⟩ := Session.exists_below hreach
  have hattached : s.Attached := h.invariant attached_init fun _ hi _ hs => hi.step hs
  have hended := hreach.invariant (I := fun s => s.serving = false → s.writer = .ended) (fun he => by cases he)
    fun _ hi _ hs => Session.ended_step hi hs
  have hleaving : Leaving t proxy s.server.register N s :=
    ⟨⟨hclean, hbelow⟩, hended, .served hserving hgone, fun hostname => by rw [if_neg (by simp [hserving])]⟩
  refine ⟨work t N s, fun as s' hr hm => ⟨?_, fun hstuck => ?_⟩⟩
  · exact Nat.le_of_add_right_le (Lts.length_le_of_decreasing (decreasing_work t N) hleaving hr hm)
  · have hleft : Leaving t proxy s.server.register N s' := (decreasing_work t N).invariant hleaving hr hm
    obtain ⟨hphase, hover⟩ := hleft.disconnected hstuck
    have hattached' : s'.Attached :=
      Lts.run_invariant (I := fun _ s => s.Attached) hattached (fun _ hi hs => hi.step hs) hr
    refine ⟨fun hostname => ?_, Attached.playerOver hattached' hstuck hover⟩
    rw [hleft.register, hphase]
    simp

/-- Player 2 asks for socket 1, too. -/
def forwardSecond : List SystemAction :=
  [.socket 2 .accept, .socket 2 (.detect (samplePacket.take 7)),
    .firstPacket 2 ⟨80, .legacy, 0, 74, sampleHostname, false, 25565⟩ ⟨samplePacket⟩, .socket 2 .getServer] ++
    (Session.joins 2 1 1).map (.session 1 ·)

/-- The peer of socket 1 hangs up while player 2 is served. The client of player 0 is gone, but not yet its
`client_writer`, which was aborted. -/
def loginAndHangUp : List SystemAction :=
  loginAndForward ++ forwardSecond ++
    [.session 1 (.clientReadEnds 0), .session 1 (.clientFinish 0 0), .socket 0 .fail, .session 1 .handleReaderEnds]

theorem cleans_up_loginAndHangUp :
    ∃ s, Lts.run (step ServerPublicKey.sampleCrypto) init loginAndHangUp = some s ∧
      ((s.server.sockets 0).phase = .ended ∧ ((s.sessions 1).players 0).rxOpen = true) ∧
      ((s.sessions 1).players 2).phase = .handling 1 ∧
      s.server.register.getServer "3grfiewn7rkrpizi11dm.t.craftip.net" = some 1 ∧
      ∃ n, ∀ as s', Lts.run (step ServerPublicKey.sampleCrypto) s as = some s' →
        Lts.Meets (step ServerPublicKey.sampleCrypto) (Finishing 1) s as → as.length ≤ n ∧
          (Lts.Stuck (step ServerPublicKey.sampleCrypto) (Finishing 1) s' →
            s'.server.register.getServer "3grfiewn7rkrpizi11dm.t.craftip.net" = none ∧
            ∀ P, Session.PlayerOver ((s'.sessions 1).players P)) := by
  obtain ⟨s, hrun, ⟨hserving, hreader⟩, hfirst, hsecond, hget⟩ : ∃ s,
      Lts.run (step ServerPublicKey.sampleCrypto) init loginAndHangUp = some s ∧
      ((s.server.sockets 1).phase = .serving ⟨"3grfiewn7rkrpizi11dm.t.craftip.net", ⟨⟩⟩ ∧
        (s.sessions 1).reader = false) ∧
      ((s.server.sockets 0).phase = .ended ∧ ((s.sessions 1).players 0).rxOpen = true) ∧
      ((s.sessions 1).players 2).phase = .handling 1 ∧
      s.server.register.getServer "3grfiewn7rkrpizi11dm.t.craftip.net" = some 1 := by
    decide +kernel
  have hreach := Lts.Reach.of_run (C := fun _ a => ShortIn 1 a) hrun (by decide +kernel)
  obtain ⟨n, hn⟩ := cleans_up hreach hserving (.inl hreader)
  refine ⟨s, hrun, hfirst, hsecond, hget, n, fun as s' hr hm => ?_⟩
  obtain ⟨hle, hstuck⟩ := hn as s' hr hm
  exact ⟨hle, fun h => ⟨((hstuck h).1 _).trans (if_pos rfl), (hstuck h).2⟩⟩

end System
end CraftIP
