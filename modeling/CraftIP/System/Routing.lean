import CraftIP.Server.Authentication
import CraftIP.Session.Lossless
import CraftIP.System

/-!
# Where a player's bytes go

The server looks up the hostname of a player's hello packet once, and the player's bytes go into the session it
finds there. So every byte that a session has got from a player follows a hello packet that asks for the name
of a key which the session's peer has proved to have, and no other session gets any (`routing`). What the
session's client then writes to its backend is a beginning of these bytes, as long as this session loses
nothing, whatever the others do (`delivery`).
-/

namespace CraftIP
open Function (update)

/-- Where a Minecraft client is on its way to a session. -/
def SocketPhase.player? : SocketPhase → Option (String ⊕ SocketId)
  | .lookup hostname => some (.inl hostname)
  | .forwarding t => some (.inr t)
  | _ => none

/-! ### A socket -/

namespace Socket
variable {C : Crypto} {c : SocketId} {k k' : Socket} {r r' : Register SocketId} {a : SocketAction}

/-- What a step does to a Minecraft client's way: its hello packet is read, it is looked up, it ends, or it is
none. -/
inductive Way (k k' : Socket) (r : Register SocketId) : SocketAction → Prop
  | hello (packet : MinecraftHelloPacket) (h : k.phase = .minecraft)
    (h' : k'.phase = .lookup (cleanUpHostname packet.hostname)) : Way k k' r (.firstPacket packet)
  | found {hostname : String} {t : SocketId} (h : k.phase = .lookup hostname)
    (hr : r.getServer hostname = some t) (h' : k'.phase = .forwarding t) : Way k k' r .getServer
  | missed (h' : k'.phase = .ended) : Way k k' r .getServer
  | fails (h' : k'.phase = .ended) : Way k k' r .fail
  | none {a : SocketAction} (h : k.phase.player? = .none) (h' : k'.phase.player? = .none) : Way k k' r a

/-- A step that is not on a Minecraft client's way. -/
theorem Way.quiet {phase phase' : SocketPhase} {transcript : List Message} (hp : k.phase = phase)
    (h : phase.player? = .none ∧ phase ≠ .ended ∧ phase'.player? = .none)
    (ht : k.transcript <+: transcript) {added : Option String} {refused : Bool} :
    k.phase ≠ .ended ∧ k.transcript <+: transcript ∧
      Way k ⟨phase', transcript, added, refused⟩ r a := by
  subst hp
  exact ⟨h.2.1, ht, .none h.1 h.2.2⟩

theorem step_way (h : step C c k r a = some (k', r')) :
    k.phase ≠ .ended ∧ k.transcript <+: k'.transcript ∧ Way k k' r a := by
  have hlog : ∀ m, k.transcript <+: (k.log m).transcript := fun m => List.prefix_append _ _
  have hsame := List.prefix_rfl (l := k.transcript)
  cases a with
  | firstPacket packet =>
    simp only [step] at h
    split at h
    · next hp => cases h; exact ⟨by rw [hp]; simp, hsame, .hello packet hp rfl⟩
    · cases h
  | getServer =>
    simp only [step] at h
    split at h
    · next hostname hp =>
      have hne : k.phase ≠ .ended := by rw [hp]; simp
      split at h <;> cases h
      · next t ht => exact ⟨hne, hsame, .found hp ht rfl⟩
      · exact ⟨hne, hsame, .missed rfl⟩
    · cases h
  | fail =>
    simp only [step] at h
    split at h
    · next hf =>
      cases h
      refine ⟨?_, hsame, .fails rfl⟩
      intro hp
      rw [hp] at hf
      cases hf
    · cases h
  | detect firstBuf =>
    simp only [step] at h
    split at h
    · next hp =>
      split at h
      · cases h
        exact Way.quiet hp ⟨rfl, by simp, by split <;> rfl⟩ hsame
      · cases h
    · cases h
  | receive packet =>
    simp only [step] at h
    split at h
    · next hp =>
      split at h <;> cases h
      · exact Way.quiet hp ⟨rfl, by simp, rfl⟩ (hlog _)
      · exact Way.quiet hp ⟨rfl, by simp, rfl⟩ (hlog _)
      · exact Way.quiet hp ⟨rfl, by simp, rfl⟩ (hlog _)
    · cases h
  | answer packet =>
    simp only [step] at h
    split at h
    · next proxy challenge hp =>
      cases packet with
      | none =>
        split at h <;> cases h
        · exact Way.quiet hp ⟨rfl, by simp, rfl⟩ hsame
        · exact Way.quiet hp ⟨rfl, by simp, rfl⟩ hsame
      | some packet =>
        split at h <;> cases h
        · exact Way.quiet hp ⟨rfl, by simp, rfl⟩ (hlog _)
        · exact Way.quiet hp ⟨rfl, by simp, rfl⟩ (hlog _)
    · cases h
  | send =>
    simp only [step] at h
    split at h
    case h_1 hp => cases h; exact Way.quiet hp ⟨rfl, by simp, rfl⟩ (hlog _)
    case h_2 hp => cases h; exact Way.quiet hp ⟨rfl, by simp, rfl⟩ (hlog _)
    case h_3 hp => cases h; exact Way.quiet hp ⟨rfl, by simp, rfl⟩ (hlog _)
    case h_4 hp => cases h; exact Way.quiet hp ⟨rfl, by simp, rfl⟩ (hlog _)
    case h_5 hp => cases h; exact Way.quiet hp ⟨rfl, by simp, rfl⟩ (hlog _)
    case h_6 => cases h
  | addServer =>
    simp only [step] at h
    split at h
    · next proxy hp =>
      split at h <;> cases h
      · exact Way.quiet hp ⟨rfl, by simp, rfl⟩ hsame
      · exact Way.quiet hp ⟨rfl, by simp, rfl⟩ hsame
    · cases h
  | sendFails =>
    simp only [step] at h
    split at h
    · next hp => cases h; exact Way.quiet hp ⟨rfl, by simp, rfl⟩ hsame
    · next hp => cases h; exact Way.quiet hp ⟨rfl, by simp, rfl⟩ hsame
    · cases h
  | challenge =>
    simp only [step] at h
    split at h
    · next hp => cases h; exact Way.quiet hp ⟨rfl, by simp, rfl⟩ (hlog _)
    · cases h
  | accept | version | handleEnds | removeServer =>
    simp only [step] at h
    split at h
    · next hp => cases h; exact Way.quiet hp ⟨rfl, by simp, rfl⟩ hsame
    · cases h

end Socket

/-! ### A player in a session -/

/-- `MCClient::new` has sent its first message. -/
def ClientPhase.takesPart : ClientPhase → Bool
  | .absent => false
  | .failed => false
  | _ => true

namespace Session
variable {s s' : Session}

/-- A player goes on: what is read from its socket is only added to, and only by its own task. -/
structure PlayerKept (s : Session) (P : Player) (a : Action) (p : PlayerState) : Prop where
  read : (s.players P).bytesRead <+: p.bytesRead
  phase : p.phase.takesPart = true → (s.players P).phase.takesPart = true
  task : p.bytesRead ≠ (s.players P).bytesRead → a.task = .player P ∧ (s.players P).phase.takesPart = true

variable {P Q : Player} {a : Action}

theorem PlayerKept.refl : PlayerKept s P a (s.players P) := ⟨List.prefix_rfl, fun h => h, fun h => absurd rfl h⟩

/-- A player goes on from which nothing is read. -/
theorem PlayerKept.update {p : PlayerState} (hread : p.bytesRead = (s.players Q).bytesRead)
    (hphase : p.phase.takesPart = true → (s.players Q).phase.takesPart = true) :
    PlayerKept s P a (update s.players Q p P) := by
  rw [Function.update_apply]
  split
  · next he => subst he; exact ⟨hread ▸ List.prefix_rfl, hphase, fun hne => absurd hread hne⟩
  · exact .refl

/-- A player takes part from its `connect` on. -/
theorem player_step (hs : s.step a = some s') (P : Player) :
    (∃ startData, a = .connect P startData ∧ (s'.players P).bytesRead = startData) ∨
      PlayerKept s P a (s'.players P) := by
  obtain ⟨ha, rfl⟩ := step_eq_some hs
  cases a with
  | connect Q startData =>
    by_cases he : P = Q
    · subst he
      refine .inl ⟨startData, rfl, ?_⟩
      show (update s.players P _ P).bytesRead = startData
      rw [Function.update_self]
    · right
      show PlayerKept s P _ (update s.players Q _ P)
      rw [Function.update_of_ne he]
      exact .refl
  | clientRead Q id chunk =>
    right
    show PlayerKept s P _ (update s.players Q _ P)
    by_cases he : P = Q
    · subst he
      rw [Function.update_self]
      refine ⟨List.prefix_append _ _, fun h => h, fun _ => ⟨rfl, ?_⟩⟩
      have hid := (of_decide_eq_true ha).2.1
      cases hp : (s.players P).phase with
      | absent | failed => rw [hp] at hid; cases hid
      | _ => rfl
    · rw [Function.update_of_ne he]
      exact .refl
  | joinFails => exact .inr (.update rfl fun h => by cases h)
  | sendStart Q id startData => exact .inr (.update rfl fun _ => by rw [(of_decide_eq_true ha).1]; rfl)
  | clientFinish Q id => exact .inr (.update rfl fun _ => by rw [(of_decide_eq_true ha).1]; rfl)
  | clientReadEnds | clientWriterTake | clientWriterDrained | clientWriterWrite | clientWriterFlushed
  | clientWriterFlushFails | clientWriterClosed | clientWriterFails | clientWriterAborted =>
    exact .inr (.update rfl fun h => h)
  | handleWriter m =>
    right
    apply handleMessage_cases (motive := fun t => PlayerKept s P _ (t.players P))
      { s with queue := s.queue.tail } m
    case joined =>
      intro Q tx id d startData _ _ hphase
      exact .update rfl fun _ => by rw [show (s.players Q).phase = _ from hphase]; rfl
    all_goals intros; exact .refl
  | handleReader f =>
    right
    apply handleFrame_cases (motive := fun t => PlayerKept s P _ (t.players P)) { s with up := s.up.pop f } f
    case disconnect => intro id Q _ _; exact .update rfl fun h => h
    case data =>
      intro id pkg Q _ _
      exact .update (by rw [PlayerState.send]; split <;> rfl) (by rw [PlayerState.send]; split <;> exact fun h => h)
    all_goals intros; exact .refl
  | readerHandler f =>
    right
    apply readerFrame_cases (motive := fun t => PlayerKept s P _ (t.players P))
      { s with down := s.down.pop f } f <;> intros <;> exact .refl
  | writerHandler m =>
    right
    apply backendMessage_cases (motive := fun t => PlayerKept s P _ (t.players P))
      { s with toProxy := s.toProxy.tail } m <;> intros <;> exact .refl
  | _ => exact .inr .refl

end Session

/-! ### The system -/

namespace System
variable {C : Crypto} {s s' : System} {t : SocketId} {P : Player}

/-- What was read of the player when its hello packet was accepted asks for a hostname that the peer of socket
`t` has proved to own. -/
def AskedFor (C : Crypto) (s : System) (t : SocketId) (P : Player) (data : MinecraftDataPacket) : Prop :=
  s.firstPacket P = some data ∧ ∃ packet, MinecraftHelloPacket.new data.bytes = .ok (some packet) ∧
    Proved C (s.server.sockets t).transcript (cleanUpHostname packet.hostname)

/-- What a session has read from a player. -/
def read (s : System) (t : SocketId) (P : Player) : List UInt8 := ((s.sessions t).players P).bytesRead

/-- Where each Minecraft client is on its way, it is by its first packet, and only a client that was forwarded
to a session takes part in it. -/
structure Routed (C : Crypto) (s : System) : Prop where
  exclusive : s.server.Exclusive
  authentic : ∀ c, (s.server.sockets c).Authentic C
  lookup : ∀ c hostname, (s.server.sockets c).phase = .lookup hostname → ∃ data packet,
    s.firstPacket c = some data ∧ MinecraftHelloPacket.new data.bytes = .ok (some packet) ∧
      cleanUpHostname packet.hostname = hostname
  forwarding : ∀ c t, (s.server.sockets c).phase = .forwarding t → ∃ data, s.AskedFor C t c data
  asked : ∀ t P, s.read t P ≠ [] → ∃ data, s.AskedFor C t P data ∧ data.bytes <+: s.read t P
  phase : ∀ t P, s.read t P ≠ [] →
    (s.server.sockets P).phase = .forwarding t ∨ (s.server.sockets P).phase = .ended
  only : ∀ t t' P, s.read t P ≠ [] → s.read t' P ≠ [] → t = t'
  begun : ∀ t P, ((s.sessions t).players P).phase.takesPart = true → s.read t P ≠ []

theorem routed_init : Routed C init where
  exclusive := Server.exclusive_init
  authentic _ := Socket.authentic_initial
  lookup c hostname h := by cases h
  forwarding c t h := by cases h
  asked t P h := absurd rfl h
  phase t P h := absurd rfl h
  only t t' P h := absurd rfl h
  begun t P h := by cases h

theorem AskedFor.mono {data : MinecraftDataPacket} (h : s.AskedFor C t P data)
    (hfirst : s'.firstPacket P = s.firstPacket P)
    (ht : (s.server.sockets t).transcript <+: (s'.server.sockets t).transcript) : s'.AskedFor C t P data := by
  obtain ⟨hdata, packet, hnew, hproved⟩ := h
  obtain ⟨u, hu⟩ := ht
  exact ⟨hfirst.trans hdata, packet, hnew, hu ▸ hproved.append u⟩

/-- A hostname is looked up under which a socket is registered. -/
theorem Routed.proved (h : Routed C s) {hostname : String}
    (hget : s.server.register.getServer hostname = some t) :
    Proved C (s.server.sockets t).transcript hostname := by
  have hadded := (h.exclusive.register hostname t).1 hget
  rw [(h.exclusive.removes t).added] at hadded
  obtain ⟨proxy, hproxy, rfl⟩ := SocketPhase.authenticated?_of_removes? hadded
  exact (h.authentic t).phase.proved hproxy

/-- A socket goes on. -/
theorem Routed.socket (h : Routed C s) {c : SocketId} {a : SocketAction} {server : Server}
    (hs : s.server.step C (c, a) = some server) {first : SocketId → Option MinecraftDataPacket}
    (hother : ∀ d, d ≠ c → first d = s.firstPacket d)
    (hkeep : (∀ packet, a ≠ .firstPacket packet) → first = s.firstPacket)
    (hhello : ∀ packet, a = .firstPacket packet →
      ∃ data, first c = some data ∧ MinecraftHelloPacket.new data.bytes = .ok (some packet)) :
    Routed C { s with server, firstPacket := first } := by
  obtain ⟨k, hk, hsockets⟩ := Server.step_eq_some hs
  obtain ⟨hne, htranscript, hway⟩ := Socket.step_way hk
  have hsocket : server.sockets c = k := by rw [hsockets, Function.update_self]
  have hsockets' : ∀ d, d ≠ c → server.sockets d = s.server.sockets d := fun d hd => by
    rw [hsockets, Function.update_of_ne hd]
  have ht : ∀ d, (s.server.sockets d).transcript <+: (server.sockets d).transcript := by
    intro d
    by_cases hd : d = c
    · subst hd; rw [hsocket]; exact htranscript
    · rw [hsockets' d hd]
  -- a client that is forwarded has its first packet, and goes nowhere else
  have hfirst : ∀ {d : SocketId}, (s.server.sockets d).phase ≠ .minecraft → first d = s.firstPacket d := by
    intro d hd
    by_cases he : d = c
    · subst he
      refine congrFun (hkeep fun packet hp => ?_) d
      subst hp
      cases hway with
      | hello packet hp => exact hd hp
      | none hp hp' =>
        simp only [Socket.step] at hk
        cases hk
    · exact hother d he
  have hasked : ∀ {t P data}, (s.server.sockets P).phase ≠ .minecraft → s.AskedFor C t P data →
      AskedFor C { s with server, firstPacket := first } t P data := fun hP ha =>
    ha.mono (hfirst hP) (ht _)
  have hphase : ∀ {t P}, s.read t P ≠ [] → (s.server.sockets P).phase ≠ .minecraft := by
    intro t P hread hp
    rcases h.phase t P hread with he | he <;> rw [hp] at he <;> cases he
  refine
    { exclusive := h.exclusive.step hs
      authentic := fun d => ?_
      lookup := fun d hostname hd => ?_
      forwarding := fun d t hd => ?_
      asked := fun t P hread => ?_
      phase := fun t P hread => ?_
      only := h.only
      begun := h.begun }
  · by_cases hd : d = c
    · subst hd
      show (server.sockets d).Authentic C
      rw [hsocket]
      exact (h.authentic d).step hk
    · show (server.sockets d).Authentic C
      rw [hsockets' d hd]
      exact h.authentic d
  · change (server.sockets d).phase = _ at hd
    by_cases he : d = c
    · subst he
      rw [hsocket] at hd
      cases hway with
      | hello packet hp hp' =>
        rw [hp'] at hd
        obtain ⟨data, hdata, hnew⟩ := hhello packet rfl
        exact ⟨data, packet, hdata, hnew, SocketPhase.lookup.inj hd⟩
      | found hp hr hp' => rw [hp'] at hd; cases hd
      | missed hp' => rw [hp'] at hd; cases hd
      | fails hp' => rw [hp'] at hd; cases hd
      | none hp hp' => rw [hd] at hp'; cases hp'
    · rw [hsockets' d he] at hd
      obtain ⟨data, packet, hdata, hnew⟩ := h.lookup d hostname hd
      exact ⟨data, packet, (hother d he).trans hdata, hnew⟩
  · change (server.sockets d).phase = _ at hd
    by_cases he : d = c
    · subst he
      rw [hsocket] at hd
      cases hway with
      | hello packet hp hp' => rw [hp'] at hd; cases hd
      | found hp hr hp' =>
        rw [hp'] at hd
        cases hd
        obtain ⟨data, packet, hdata, hnew, hname⟩ := h.lookup d _ hp
        have hproved := h.proved hr
        rw [← hname] at hproved
        exact ⟨data, hasked (by rw [hp]; simp) ⟨hdata, packet, hnew, hproved⟩⟩
      | missed hp' => rw [hp'] at hd; cases hd
      | fails hp' => rw [hp'] at hd; cases hd
      | none hp hp' => rw [hd] at hp'; cases hp'
    · rw [hsockets' d he] at hd
      obtain ⟨data, ha⟩ := h.forwarding d t hd
      exact ⟨data, hasked (by rw [hd]; simp) ha⟩
  · obtain ⟨data, ha, hstarts⟩ := h.asked t P hread
    exact ⟨data, hasked (hphase hread) ha, hstarts⟩
  · show (server.sockets P).phase = _ ∨ (server.sockets P).phase = _
    by_cases he : P = c
    · subst he
      rw [hsocket]
      have hforwarding := (h.phase t P hread).resolve_right hne
      cases hway with
      | hello packet hp hp' => rw [hp] at hforwarding; cases hforwarding
      | found hp hr hp' => rw [hp] at hforwarding; cases hforwarding
      | missed hp' => exact .inr hp'
      | fails hp' => exact .inr hp'
      | none hp hp' => rw [hforwarding] at hp; cases hp
    · rw [hsockets' P he]
      exact h.phase t P hread

/-- A task goes on in a session. -/
theorem Routed.session (h : Routed C s) {a : Action} {session : Session} (hruns : s.Runs t a = true)
    (hforwards : s.Forwards a = true) (hs : (s.sessions t).step a = some session) :
    Routed C { s with sessions := update s.sessions t session } := by
  set s' : System := { s with sessions := update s.sessions t session } with hs'
  have hread : ∀ P, s'.read t P = (session.players P).bytesRead := fun P => by
    show ((update s.sessions t session t).players P).bytesRead = _
    rw [Function.update_self]
  have hother : ∀ t', t' ≠ t → ∀ P, s'.read t' P = s.read t' P := fun t' ht' P => by
    show ((update s.sessions t session t').players P).bytesRead = _
    rw [Function.update_of_ne ht']
    rfl
  -- what is read of a player was begun with its first packet
  have hcases : ∀ P, (∃ data, s.AskedFor C t P data ∧ (s.server.sockets P).phase = .forwarding t ∧
      s'.read t P = data.bytes ∧ data.bytes ≠ []) ∨
      s.read t P <+: s'.read t P ∧ (s'.read t P ≠ [] → s.read t P ≠ []) ∧
        ((session.players P).phase.takesPart = true → s.read t P ≠ []) := by
    intro P
    rw [hread]
    rcases Session.player_step hs P with ⟨startData, rfl, hstart⟩ | hkept
    · left
      have hphase : (s.server.sockets P).phase = .forwarding t := by
        refine (of_decide_eq_true hruns).resolve_right fun hf => ?_
        rw [(of_decide_eq_true (Session.step_eq_some hs).1).1] at hf
        cases hf
      have hfirst : s.firstPacket P = some ⟨startData⟩ := of_decide_eq_true hforwards
      obtain ⟨data, ha⟩ := h.forwarding P t hphase
      obtain rfl : data = ⟨startData⟩ := Option.some.inj (ha.1.symm.trans hfirst)
      obtain ⟨packet, hnew, -⟩ := ha.2
      refine ⟨_, ha, hphase, hstart, ?_⟩
      rintro rfl
      cases hnew
    · refine .inr ⟨hkept.read, fun hne hnil => ?_, fun hp => h.begun t P (hkept.phase hp)⟩
      have hbytes : ((s.sessions t).players P).bytesRead = [] := hnil
      exact h.begun t P (hkept.task (by rw [hbytes]; exact hne)).2 hnil
  have hold : ∀ t' P, s'.read t' P ≠ [] →
      s.read t' P ≠ [] ∨ t' = t ∧ (s.server.sockets P).phase = .forwarding t := by
    intro t' P hne
    by_cases he : t' = t
    · subst he
      rcases hcases P with ⟨data, -, hphase, -⟩ | ⟨-, hread', -⟩
      · exact .inr ⟨rfl, hphase⟩
      · exact .inl (hread' hne)
    · rw [hother t' he] at hne
      exact .inl hne
  refine
    { exclusive := h.exclusive
      authentic := h.authentic
      lookup := h.lookup
      forwarding := h.forwarding
      asked := fun t' P hne => ?_
      phase := fun t' P hne => ?_
      only := fun t₁ t₂ P h₁ h₂ => ?_
      begun := fun t' P hp => ?_ }
  · by_cases he : t' = t
    · subst he
      rcases hcases P with ⟨data, ha, -, hbytes, -⟩ | ⟨hstarts, hread', -⟩
      · exact ⟨data, ha, hbytes ▸ List.prefix_rfl⟩
      · obtain ⟨data, ha, hdata⟩ := h.asked t' P (hread' hne)
        exact ⟨data, ha, hdata.trans hstarts⟩
    · rw [hother t' he] at hne ⊢
      exact h.asked t' P hne
  · rcases hold t' P hne with hne | ⟨rfl, hphase⟩
    · exact h.phase t' P hne
    · exact .inl hphase
  · rcases hold t₁ P h₁ with hr₁ | ⟨rfl, hp₁⟩ <;> rcases hold t₂ P h₂ with hr₂ | ⟨rfl, hp₂⟩
    · exact h.only t₁ t₂ P hr₁ hr₂
    · rcases h.phase t₁ P hr₁ with hp | hp <;> rw [hp₂] at hp <;> cases hp
      rfl
    · rcases h.phase t₂ P hr₂ with hp | hp <;> rw [hp₁] at hp <;> cases hp
      rfl
    · rfl
  · by_cases he : t' = t
    · subst he
      have hp' : (session.players P).phase.takesPart = true := by
        change ((update s.sessions t' session t').players P).phase.takesPart = true at hp
        rwa [Function.update_self] at hp
      rcases hcases P with ⟨data, -, -, hbytes, hne⟩ | ⟨hstarts, -, hbegun⟩
      · rw [hbytes]; exact hne
      · intro hnil
        rw [hnil] at hstarts
        exact hbegun hp' (List.prefix_nil.1 hstarts)
    · rw [hother t' he]
      change ((update s.sessions t session t').players P).phase.takesPart = true at hp
      rw [Function.update_of_ne he] at hp
      exact h.begun t' P hp

theorem Routed.step {a : SystemAction} (h : Routed C s) (hs : s.step C a = some s') : Routed C s' := by
  cases a with
  | socket c a =>
    obtain ⟨hp, server, hserver, rfl⟩ := step_socket hs
    refine h.socket hserver (fun _ _ => rfl) (fun _ => rfl) fun packet he => ?_
    subst he
    cases hp
  | firstPacket c packet data =>
    obtain ⟨hnew, server, hserver, rfl⟩ := step_firstPacket hs
    refine h.socket hserver (fun d hd => Function.update_of_ne hd _ _) (fun hne => absurd rfl (hne packet))
      fun packet' he => ?_
    cases he
    exact ⟨data, Function.update_self _ _ _, hnew⟩
  | session t a =>
    obtain ⟨hruns, hforwards, session, hsession, rfl⟩ := step_session hs
    exact h.session hruns hforwards hsession

/-- In every run of the server, with any number of sockets and sessions: what a session reads from a player
begins with a hello packet, the packet asks for a hostname that the session's peer has proved to own, and no
other session reads anything from the player. -/
theorem routing (h : Lts.Reach (step C) (fun _ _ => True) init s) (hread : s.read t P ≠ []) :
    (∃ data, s.AskedFor C t P data ∧ data.bytes <+: s.read t P) ∧ ∀ t', s.read t' P ≠ [] → t' = t := by
  have hr : Routed C s := h.invariant (I := Routed C) routed_init fun _ hi _ hs => hi.step hs
  exact ⟨hr.asked t P hread, fun t' hne => hr.only t' t P hne hread⟩

/-- Session `t` gives no id twice, its first packets are short, and no socket operation of it fails. Whatever the
sockets and the other sessions do is left open. -/
def LosslessIn (t : SocketId) (s : System) : SystemAction → Prop
  | .session t' a => t' = t → (s.sessions t).Lossless a
  | _ => True

instance (t : SocketId) (s : System) (a : SystemAction) : Decidable (s.LosslessIn t a) :=
  match a with
  | .session t' a => inferInstanceAs (Decidable (t' = t → (s.sessions t).Lossless a))
  | .socket _ _ => .isTrue trivial
  | .firstPacket _ _ _ => .isTrue trivial

theorem pipeline_step {a : SystemAction} (h : (s.sessions t).Pipeline) (hc : s.LosslessIn t a)
    (hs : s.step C a = some s') : (s'.sessions t).Pipeline := by
  cases a with
  | socket c a =>
    obtain ⟨-, server, -, rfl⟩ := step_socket hs
    exact h
  | firstPacket c packet data =>
    obtain ⟨-, server, -, rfl⟩ := step_firstPacket hs
    exact h
  | session t' a =>
    obtain ⟨-, -, session, hsession, rfl⟩ := step_session hs
    show (update s.sessions t' session t).Pipeline
    by_cases he : t = t'
    · subst he
      rw [Function.update_self]
      exact h.step (hc rfl) hsession
    · rw [Function.update_of_ne he]
      exact h

/-- Where one session loses nothing, whatever the sockets and the other sessions do, each of its backends is
written a beginning of what was read from its player, this begins with the hello packet by which the player asked
for the session, and the player is written a beginning of what was read from the backend. -/
theorem delivery (h : Lts.Reach (step C) (fun s a => s.LosslessIn t a) init s) {c : Conn}
    (hc : ((s.sessions t).conns c).openedFor = some P) :
    ((s.sessions t).conns c).bytesWritten <+: s.read t P ∧
      ((s.sessions t).players P).bytesWritten <+: ((s.sessions t).conns c).bytesRead ∧
      (((s.sessions t).conns c).bytesWritten ≠ [] → ∃ data, s.AskedFor C t P data ∧
        (data.bytes <+: ((s.sessions t).conns c).bytesWritten ∨
          ((s.sessions t).conns c).bytesWritten <+: data.bytes)) := by
  obtain ⟨hp, hr⟩ : (s.sessions t).Pipeline ∧ Routed C s :=
    h.invariant (I := fun s => (s.sessions t).Pipeline ∧ Routed C s) ⟨Session.pipeline_init, routed_init⟩
      fun _ hi hc hs => ⟨pipeline_step hi.1 hc hs, hi.2.step hs⟩
  have hwritten : ((s.sessions t).conns c).bytesWritten <+: s.read t P := hp.toBackend hc
  refine ⟨hwritten, (hp.written (hp.owner hc)).trans (hp.answered.history c (hp.lt_opened hc)), fun hne => ?_⟩
  have hread : s.read t P ≠ [] := by
    intro hnil
    rw [hnil] at hwritten
    exact hne (List.prefix_nil.1 hwritten)
  obtain ⟨data, ha, hdata⟩ := hr.asked t P hread
  exact ⟨data, ha, List.prefix_or_prefix_of_prefix hdata hwritten⟩

/-- The peer of socket 1 logs in, and player 0 asks for it and sends its first packet to the backend. -/
def loginAndForward : List SystemAction :=
  (Server.login 1).map (fun x => .socket x.1 x.2) ++
    [.socket 1 .addServer, .socket 1 .send,
      .socket 0 .accept, .socket 0 (.detect (samplePacket.take 7)),
      .firstPacket 0 ⟨80, .legacy, 0, 74, sampleHostname, false, 25565⟩ ⟨samplePacket⟩,
      .socket 0 .getServer] ++
    Session.joinAndRead.map (.session 1 ·) ++
    [.session 1 (.backendRecv 0 ⟨samplePacket, some 0⟩), .session 1 (.backendWrite 0 samplePacket 40)]

theorem routing_loginAndForward :
    ∃ s, Lts.run (step ServerPublicKey.sampleCrypto) init loginAndForward = some s ∧
      s.read 1 0 = samplePacket ∧
      (∃ data, s.AskedFor ServerPublicKey.sampleCrypto 1 0 data ∧ data.bytes <+: s.read 1 0) ∧
      ∀ t', s.read t' 0 ≠ [] → t' = 1 := by
  obtain ⟨s, hrun, hread⟩ : ∃ s, Lts.run (step ServerPublicKey.sampleCrypto) init loginAndForward = some s ∧
      s.read 1 0 = samplePacket := by
    decide +kernel
  exact ⟨s, hrun, hread, routing (Lts.Reach.of_run hrun (Lts.Meets.of_forall (fun _ _ => trivial) _ _))
    (by rw [hread]; decide)⟩

theorem delivery_loginAndForward :
    ∃ s, Lts.run (step ServerPublicKey.sampleCrypto) init loginAndForward = some s ∧
      ((s.sessions 1).conns 0).bytesWritten = samplePacket.take 40 ∧
      ∃ data, s.AskedFor ServerPublicKey.sampleCrypto 1 0 data ∧
        (data.bytes <+: ((s.sessions 1).conns 0).bytesWritten ∨
          ((s.sessions 1).conns 0).bytesWritten <+: data.bytes) := by
  obtain ⟨s, hrun, hwritten, hfor⟩ : ∃ s, Lts.run (step ServerPublicKey.sampleCrypto) init loginAndForward = some s ∧
      ((s.sessions 1).conns 0).bytesWritten = samplePacket.take 40 ∧
      ((s.sessions 1).conns 0).openedFor = some 0 := by
    decide +kernel
  refine ⟨s, hrun, hwritten, ?_⟩
  exact (delivery (t := 1) (Lts.Reach.of_run hrun (by decide +kernel)) hfor).2.2 (by rw [hwritten]; decide)

end System
end CraftIP
