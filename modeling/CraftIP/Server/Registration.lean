import CraftIP.Server

/-!
# Who is registered

`remove_server` removes by hostname, whoever put it there. It only runs on the ways out of `handle` after
`add_server` has succeeded, so the register maps a hostname to the one socket that added it and has not
removed it yet (`register_exclusive`).
-/

namespace CraftIP
open Function (update)

/-- The hostname that a proxy client in this phase will take out of the register. -/
def SocketPhase.removes? : SocketPhase → Option String
  | .connected proxy => some proxy.hostname
  | .serving proxy => some proxy.hostname
  | .intoDisconnected proxy => some proxy.hostname
  | _ => none

/-- On the way out of `handle` after `add_server` has failed, or past it. -/
def SocketPhase.leaves : SocketPhase → Bool
  | .alreadyConnected _ => true
  | .disconnected => true
  | _ => false

namespace Socket

/-- A socket will remove exactly what it has added, and nothing after it was refused. -/
structure Removes (k : Socket) : Prop where
  added : k.added = k.phase.removes?
  refused : k.refused = true → k.phase.leaves = true

variable {C : Crypto} {c : SocketId} {k k' : Socket} {r r' : Register SocketId} {a : SocketAction}

theorem removes_initial : Removes .initial := ⟨rfl, fun h => by cases h⟩

/-- A step that neither adds nor removes, nor takes a socket back from the way out. -/
theorem Removes.quiet {phase phase' : SocketPhase} {transcript : List Message} {Q : Prop} (h : Removes k)
    (hp : k.phase = phase) (hremoves : phase'.removes? = phase.removes?)
    (hleaves : (!phase.leaves || phase'.leaves) = true) :
    Removes { k with phase := phase', transcript } ∧ (r = r ∧ k.added = k.added ∨ Q) := by
  refine ⟨⟨by rw [h.added, hp]; exact hremoves.symm, fun hr => ?_⟩, .inl ⟨rfl, rfl⟩⟩
  have hl := h.refused hr
  rw [hp] at hl
  simpa [hl] using hleaves

/-- What a step does to the register: nothing, or it adds the socket, or it removes what the socket has
added. The step of a socket that is refused, or was, does nothing. -/
theorem step_register (hk : Removes k) (h : step C c k r a = some (k', r')) :
    Removes k' ∧
      (r' = r ∧ k'.added = k.added ∨
      (∃ hostname, r.addServer hostname c = .ok r' ∧ k.added = none ∧ k'.added = some hostname ∧
        k'.refused = false) ∨
      ∃ hostname, r' = r.removeServer hostname ∧ k.added = some hostname ∧ k'.added = none ∧
        k'.refused = false) := by
  have hnot : ∀ {phase}, k.phase = phase → phase.leaves = false → k.refused = false := by
    intro phase hp hl
    refine Bool.eq_false_iff.2 fun hr => ?_
    have hleaves := hk.refused hr
    rw [hp, hl] at hleaves
    cases hleaves
  cases a with
  | addServer =>
    simp only [step] at h
    split at h
    · next proxy hp =>
      split at h
      · next r₁ hadd =>
        cases h
        have hnone : k.added = none := by rw [hk.added, hp]; rfl
        have hr := hnot hp rfl
        exact ⟨⟨rfl, fun hr' => absurd (hr.symm.trans hr') (by simp)⟩,
          .inr (.inl ⟨proxy.hostname, hadd, hnone, rfl, hr⟩)⟩
      · cases h
        exact ⟨⟨by rw [enter, hk.added, hp]; rfl, fun _ => rfl⟩, .inl ⟨rfl, rfl⟩⟩
    · cases h
  | removeServer =>
    simp only [step] at h
    split at h
    · next proxy hp =>
      cases h
      have hadded : k.added = some proxy.hostname := by rw [hk.added, hp]; rfl
      exact ⟨⟨rfl, fun _ => rfl⟩, .inr (.inr ⟨proxy.hostname, rfl, hadded, rfl, hnot hp rfl⟩)⟩
    · cases h
  | detect firstBuf =>
    simp only [step] at h
    split at h
    · next hp =>
      split at h
      · cases h
        exact hk.quiet hp (by split <;> rfl) rfl
      · cases h
    · cases h
  | getServer =>
    simp only [step] at h
    split at h
    · next hostname hp =>
      split at h <;> cases h
      · exact hk.quiet hp rfl rfl
      · exact hk.quiet hp rfl rfl
    · cases h
  | receive packet =>
    simp only [step] at h
    split at h
    · next hp =>
      split at h <;> cases h
      · exact hk.quiet hp rfl rfl
      · exact hk.quiet hp rfl rfl
      · exact hk.quiet hp rfl rfl
    · cases h
  | answer packet =>
    simp only [step] at h
    split at h
    · next proxy challenge hp =>
      cases packet with
      | none =>
        split at h <;> cases h
        · exact hk.quiet hp rfl rfl
        · exact hk.quiet hp rfl rfl
      | some packet =>
        split at h <;> cases h
        · exact hk.quiet hp rfl rfl
        · exact hk.quiet hp rfl rfl
    · cases h
  | send =>
    simp only [step] at h
    split at h
    case h_1 hp => cases h; exact hk.quiet hp rfl rfl
    case h_2 hp => cases h; exact hk.quiet hp rfl rfl
    case h_3 hp => cases h; exact hk.quiet hp rfl rfl
    case h_4 hp => cases h; exact hk.quiet hp rfl rfl
    case h_5 hp => cases h; exact hk.quiet hp rfl rfl
    case h_6 => cases h
  | sendFails =>
    simp only [step] at h
    split at h
    · next hp => cases h; exact hk.quiet hp rfl rfl
    · next hp => cases h; exact hk.quiet hp rfl rfl
    · cases h
  | fail =>
    simp only [step] at h
    split at h
    · next hf =>
      cases h
      have hquiet : k.phase.removes? = none ∧ k.phase.leaves = false := by
        cases hp : k.phase <;> simp_all [SocketPhase.fails, SocketPhase.removes?, SocketPhase.leaves]
      exact hk.quiet rfl hquiet.1.symm (by rw [hquiet.2]; rfl)
    · cases h
  | accept | firstPacket | version | challenge | handleEnds =>
    simp only [step] at h
    split at h
    · next hp => cases h; exact hk.quiet hp rfl rfl
    · cases h

end Socket

namespace Server

/-- The register maps a hostname to the socket that has added it. -/
structure Exclusive (s : Server) : Prop where
  removes : ∀ c, (s.sockets c).Removes
  register : ∀ hostname c, s.register.getServer hostname = some c ↔ (s.sockets c).added = some hostname

variable {C : Crypto} {s s' : Server}

theorem exclusive_init : Exclusive init where
  removes _ := Socket.removes_initial
  register hostname c := by simp [init, Register.getServer, Register.empty, Socket.initial]

theorem Exclusive.step {a : SocketId × SocketAction} (h : Exclusive s) (hs : s.step C a = some s') :
    Exclusive s' := by
  obtain ⟨c, a⟩ := a
  obtain ⟨k, hk, hsockets⟩ := step_eq_some hs
  obtain ⟨hremoves, hregister⟩ := Socket.step_register (h.removes c) hk
  refine ⟨fun d => ?_, fun hostname d => ?_⟩
  · rw [hsockets, Function.update_apply]
    split
    · exact hremoves
    · exact h.removes d
  rw [hsockets, Function.update_apply]
  obtain ⟨hr, hadded⟩ | ⟨hostname', hadd, hnone, hadded, -⟩ | ⟨hostname', hr, hsome, hadded, -⟩ :=
    hregister
  · rw [hr, h.register]
    split
    · next hd => rw [hadded, hd]
    · rfl
  · obtain ⟨hfree, hget⟩ := Register.addServer_eq_ok hadd
    rw [hget]
    split <;> split
    · next hh hd => simp [hadded, hh, hd]
    · next hh hd =>
      -- nobody had added what was free
      have hother := (h.register hostname' d).not.1 (by rw [hfree]; simp)
      simp [hh, hother, Ne.symm hd]
    · next hh hd =>
      have hother := (h.register hostname c).not.2 (by rw [hnone]; simp)
      simp [hadded, hd, hother, Ne.symm hh]
    · exact h.register hostname d
  · rw [hr, Register.getServer_removeServer]
    split <;> split
    · next hh hd => simp [hadded]
    · next hh hd =>
      -- the entry was the removing socket's own
      have hown := (h.register hostname' c).2 hsome
      have hother := (h.register hostname' d).not.1 (by rw [hown]; simp [Ne.symm hd])
      simp [hh, hother]
    · next hh hd =>
      have hother := (h.register hostname c).not.2 (by rw [hsome]; simp [Ne.symm hh])
      simp [hadded, hd, hother]
    · exact h.register hostname d

theorem exclusive_reach (h : Lts.Reach (step C) (fun _ _ => True) init s) : Exclusive s :=
  h.invariant (I := Exclusive) exclusive_init fun _ hi _ hs => hi.step hs

theorem Exclusive.refused {c : SocketId} {a : SocketAction} (h : Exclusive s)
    (hs : s.step C (c, a) = some s') (hrefused : (s'.sockets c).refused = true) :
    s'.register = s.register := by
  obtain ⟨k, hk, hsockets⟩ := step_eq_some hs
  rw [hsockets, Function.update_self] at hrefused
  obtain ⟨-, ⟨hr, -⟩ | ⟨_, -, -, -, hnot⟩ | ⟨_, -, -, -, hnot⟩⟩ := Socket.step_register (h.removes c) hk
  · exact hr
  · rw [hnot] at hrefused; cases hrefused
  · rw [hnot] at hrefused; cases hrefused

theorem getServer_forwarding {c tx : SocketId} {hostname : String}
    (hs : s.step C (c, .getServer) = some s') (hp : (s.sockets c).phase = .lookup hostname)
    (hp' : (s'.sockets c).phase = .forwarding tx) : s.register.getServer hostname = some tx := by
  obtain ⟨k, hk, hsockets⟩ := step_eq_some hs
  rw [hsockets, Function.update_self] at hp'
  simp only [Socket.step, hp] at hk
  split at hk
  · next tx' htx =>
    obtain ⟨rfl, -⟩ := Prod.mk.inj (Option.some.inj hk)
    cases hp'
    exact htx
  · obtain ⟨rfl, -⟩ := Prod.mk.inj (Option.some.inj hk)
    cases hp'

/-- In every run: a hostname is registered, to a socket's channel, exactly while that socket has added it
and not run its `remove_server` yet; no step in which a socket is refused, nor a later one of it, changes
the register; and a lookup returns the channel of the socket that holds the hostname. -/
theorem register_exclusive (h : Lts.Reach (step C) (fun _ _ => True) init s) :
    (∀ hostname c, s.register.getServer hostname = some c ↔ (s.sockets c).added = some hostname) ∧
    (∀ c a s', s.step C (c, a) = some s' → (s'.sockets c).refused = true → s'.register = s.register) ∧
    (∀ c hostname tx s', s.step C (c, .getServer) = some s' → (s.sockets c).phase = .lookup hostname →
      (s'.sockets c).phase = .forwarding tx → (s.sockets tx).added = some hostname) := by
  have hexclusive := exclusive_reach h
  refine ⟨hexclusive.register, fun c a s' hs hrefused => hexclusive.refused hs hrefused, ?_⟩
  intro c hostname tx s' hs hp hp'
  exact (hexclusive.register hostname tx).1 (getServer_forwarding hs hp hp')

/-- Two peers with one key, and a Minecraft client that asks for them. -/
def loginTwice : List (SocketId × SocketAction) :=
  login 0 ++ login 1 ++ [(0, .addServer), (1, .addServer)] ++
    [.accept, .detect (List.replicate 7 0),
      .firstPacket ⟨0, .connect, 0, 47, "random-a.3grfiewn7rkrpizi11dm.t.craftip.net.", false, 25565⟩].map (2, ·)

theorem register_exclusive_loginTwice :
    ∃ s s₁ s₂, Lts.run (step ServerPublicKey.sampleCrypto) init loginTwice = some s ∧
      s.step ServerPublicKey.sampleCrypto (1, .send) = some s₁ ∧
      s.step ServerPublicKey.sampleCrypto (2, .getServer) = some s₂ ∧
      s.register.getServer "3grfiewn7rkrpizi11dm.t.craftip.net" = some 0 ∧ s₁.register = s.register ∧
      (s₂.sockets 2).phase = .forwarding 0 ∧
      (s.sockets 0).added = some "3grfiewn7rkrpizi11dm.t.craftip.net" := by
  obtain ⟨s, hrun, hlookup, ⟨s₁, hs₁, hrefused⟩, s₂, hs₂, hforwarding⟩ : ∃ s,
      Lts.run (step ServerPublicKey.sampleCrypto) init loginTwice = some s ∧
      (s.sockets 2).phase = .lookup "3grfiewn7rkrpizi11dm.t.craftip.net" ∧
      (∃ s₁, s.step ServerPublicKey.sampleCrypto (1, .send) = some s₁ ∧ (s₁.sockets 1).refused = true) ∧
      ∃ s₂, s.step ServerPublicKey.sampleCrypto (2, .getServer) = some s₂ ∧ (s₂.sockets 2).phase = .forwarding 0 := by
    decide +kernel
  have hreach := Lts.Reach.of_run hrun (Lts.Meets.of_forall (fun _ _ => trivial) _ _)
  obtain ⟨hregister, hunchanged, hholder⟩ := register_exclusive hreach
  have hadded := hholder 2 _ 0 s₂ hs₂ hlookup hforwarding
  exact ⟨s, s₁, s₂, hrun, hs₁, hs₂, (hregister _ 0).2 hadded, hunchanged 1 _ s₁ hs₁ hrefused, hforwarding,
    hadded⟩

end Server
end CraftIP
