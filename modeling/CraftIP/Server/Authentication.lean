import CraftIP.Server.Registration

/-!
# Who is let in

A proxy client is registered under a hostname, answered with `ProxyHelloResponse` and served only after its
peer has proved, on the same socket, that it has the private key that the hostname is made from
(`registered_proved`).
-/

namespace CraftIP
open Function (update)

/-- A hello with the hostname and the key that it is made from, then a challenge, then a signature of this
challenge with this key have passed. -/
def Proved (C : Crypto) (t : List Message) (hostname : String) : Prop :=
  ∃ (hello : ProxyHelloPacket) (publicKey : ServerPublicKey) (challenge : ChallengeDataType)
    (signature : SignatureDataType),
    [.received (.proxyHello hello), .generated challenge, .received (.proxyAuthResponse signature)].Sublist t ∧
      hello.hostname = hostname ∧ hello.auth = .publicKey publicKey ∧
      publicKey.getHostname C = hostname ∧ publicKey.verify C challenge signature = true

namespace SocketPhase

/-- The proxy client of a socket that is about to call `add_server`, or past it. -/
def authenticated? : SocketPhase → Option (ProxyClient Authenticated)
  | .handle proxy => some proxy
  | .alreadyConnected proxy => some proxy
  | .connected proxy => some proxy
  | .serving proxy => some proxy
  | .intoDisconnected proxy => some proxy
  | _ => none

theorem authenticated?_of_removes? {phase : SocketPhase} {hostname : String}
    (h : phase.removes? = some hostname) :
    ∃ proxy, phase.authenticated? = some proxy ∧ proxy.hostname = hostname := by
  cases phase with
  | connected proxy | serving proxy | intoDisconnected proxy => exact ⟨proxy, rfl, Option.some.inj h⟩
  | _ => cases h

/-- What has passed once a socket is in this phase. -/
def Justified (C : Crypto) (t : List Message) : SocketPhase → Prop
  | .authenticate proxy =>
    proxy.state.hello.hostname = proxy.hostname ∧ [.received (.proxyHello proxy.state.hello)].Sublist t
  | .request proxy challenge =>
    proxy.state.hello.hostname = proxy.hostname ∧
      [.received (.proxyHello proxy.state.hello), .generated challenge].Sublist t
  | .response proxy challenge =>
    proxy.state.hello.hostname = proxy.hostname ∧
      [.received (.proxyHello proxy.state.hello), .generated challenge].Sublist t
  | phase => ∀ proxy, phase.authenticated? = some proxy → Proved C t proxy.hostname

end SocketPhase

variable {C : Crypto}

theorem Proved.append {t : List Message} {hostname : String} (h : Proved C t hostname) (u : List Message) :
    Proved C (t ++ u) hostname := by
  obtain ⟨hello, publicKey, challenge, signature, hsub, h⟩ := h
  exact ⟨hello, publicKey, challenge, signature, hsub.trans (List.sublist_append_left t u), h⟩

theorem SocketPhase.Justified.append {t : List Message} {phase : SocketPhase} (h : phase.Justified C t)
    (u : List Message) : phase.Justified C (t ++ u) := by
  have hsub : t.Sublist (t ++ u) := List.sublist_append_left t u
  cases phase with
  | authenticate proxy | request proxy challenge | response proxy challenge =>
    exact ⟨h.1, h.2.trans hsub⟩
  | _ => exact fun proxy hp => (h proxy hp).append u

theorem SocketPhase.Justified.proved {t : List Message} {phase : SocketPhase} (h : phase.Justified C t)
    {proxy : ProxyClient Authenticated} (hp : phase.authenticated? = some proxy) :
    Proved C t proxy.hostname := by
  cases phase with
  | authenticate _ | request _ _ | response _ _ => cases hp
  | _ => exact h proxy hp

theorem SocketPhase.Justified.of_proved {t : List Message} {phase : SocketPhase}
    {proxy : ProxyClient Authenticated} (hp : phase.authenticated? = some proxy)
    (h : Proved C t proxy.hostname) : phase.Justified C t := by
  cases phase with
  | authenticate _ | request _ _ | response _ _ => cases hp
  | _ =>
    intro proxy' hp'
    obtain rfl := Option.some.inj (hp.symm.trans hp')
    exact h

namespace Socket

/-- The phase of the socket is justified, and so was every `ProxyHelloResponse` when it was sent. -/
structure Authentic (C : Crypto) (k : Socket) : Prop where
  phase : k.phase.Justified C k.transcript
  responses : ∀ t response u, k.transcript = t ++ .sent (.proxyHelloResponse response) :: u →
    ∃ hostname, Proved C t hostname

variable {c : SocketId} {k k' : Socket} {r r' : Register SocketId} {a : SocketAction}

theorem authentic_initial : Authentic C .initial where
  phase := fun _ hp => by cases hp
  responses t response u h := by cases t <;> cases h

theorem Authentic.enter (h : Authentic C k) {phase : SocketPhase} (hp : phase.Justified C k.transcript) :
    Authentic C (k.enter phase) :=
  ⟨hp, h.responses⟩

theorem Authentic.log (h : Authentic C k) {m : Message}
    (hm : ∀ response, m = .sent (.proxyHelloResponse response) → ∃ hostname, Proved C k.transcript hostname) :
    Authentic C (k.log m) where
  phase := h.phase.append [m]
  responses t response u ht := by
    change k.transcript ++ [m] = t ++ .sent (.proxyHelloResponse response) :: u at ht
    rcases List.eq_nil_or_concat u with rfl | ⟨u', x, rfl⟩
    · obtain ⟨rfl, hm'⟩ := List.append_inj' ht rfl
      exact hm response (List.singleton_inj.1 hm')
    · rw [List.concat_eq_append, ← List.cons_append, ← List.append_assoc] at ht
      exact h.responses t response u' (List.append_inj' ht rfl).1

/-- A message that is no `ProxyHelloResponse` is read or sent. -/
theorem Authentic.quiet (h : Authentic C k) {m : Message}
    (hm : ∀ response, m ≠ .sent (.proxyHelloResponse response)) : Authentic C (k.log m) :=
  h.log fun response hr => absurd hr (hm response)

/-- An authenticated proxy client goes on. -/
theorem Authentic.pass (h : Authentic C k) {phase : SocketPhase} {proxy : ProxyClient Authenticated}
    (hk : k.phase.authenticated? = some proxy) (hp : phase.authenticated? = some proxy) :
    Authentic C (k.enter phase) :=
  h.enter (.of_proved hp (h.phase.proved hk))

theorem Authentic.receive (h : Authentic C k) {packet : SocketPacket}
    (hs : step C c k r (.receive packet) = some (k', r')) : Authentic C k' := by
  simp only [Socket.step] at hs
  split at hs
  · split at hs <;> cases hs
    · next hello => exact (h.quiet (by simp)).enter ⟨rfl, List.sublist_append_right _ _⟩
    · exact (h.quiet (by simp)).enter fun _ hp => by cases hp
    · exact (h.quiet (by simp)).enter fun _ hp => by cases hp
  · cases hs

theorem Authentic.answer (h : Authentic C k) {packet : Option SocketPacket}
    (hs : step C c k r (.answer packet) = some (k', r')) : Authentic C k' := by
  simp only [Socket.step] at hs
  split at hs
  · next proxy challenge hp =>
    obtain ⟨hname, hsub⟩ : (SocketPhase.response proxy challenge).Justified C k.transcript := hp ▸ h.phase
    split at hs <;> cases hs
    · next proxy' hok =>
      obtain ⟨publicKey, signature, hauth, rfl, hverify, hhost, hproxy⟩ :=
        ProxyClient.authenticate_eq_ok hok
      refine (h.quiet (by simp)).enter (.of_proved rfl ?_)
      exact ⟨proxy.state.hello, publicKey, challenge, signature, hsub.append (List.Sublist.refl [_]),
        hname.trans hproxy.symm, hauth, hhost.trans hproxy.symm, hverify⟩
    · cases packet with
      | none => exact h.enter fun _ hp' => by cases hp'
      | some packet => exact (h.quiet (by simp)).enter fun _ hp' => by cases hp'
  · cases hs

theorem Authentic.send (h : Authentic C k) (hs : step C c k r .send = some (k', r')) : Authentic C k' := by
  simp only [Socket.step] at hs
  split at hs
  case h_1 => cases hs; exact (h.quiet (by simp)).enter fun _ hp' => by cases hp'
  case h_2 proxy challenge hp =>
    cases hs
    obtain ⟨hname, hsub⟩ : (SocketPhase.request proxy challenge).Justified C k.transcript := hp ▸ h.phase
    exact (h.quiet (by simp)).enter ⟨hname, hsub.trans (List.sublist_append_left _ _)⟩
  case h_3 => cases hs; exact (h.quiet (by simp)).enter fun _ hp' => by cases hp'
  case h_4 => cases hs; exact (h.quiet (by simp)).enter fun _ hp' => by cases hp'
  case h_5 proxy hp =>
    cases hs
    have hk : k.phase.authenticated? = some proxy := by rw [hp]; rfl
    exact (h.log fun _ _ => ⟨_, h.phase.proved hk⟩).pass hk rfl
  case h_6 => cases hs

/-- A step keeps the justification of what is reached. -/
theorem Authentic.step (h : Authentic C k) (hs : step C c k r a = some (k', r')) : Authentic C k' := by
  cases a with
  | receive packet => exact h.receive hs
  | answer packet => exact h.answer hs
  | send => exact h.send hs
  | challenge challenge =>
    simp only [Socket.step] at hs
    split at hs
    · next proxy hp =>
      cases hs
      obtain ⟨hname, hsub⟩ : (SocketPhase.authenticate proxy).Justified C k.transcript := hp ▸ h.phase
      exact (h.quiet (by simp)).enter ⟨hname, hsub.append (List.Sublist.refl [_])⟩
    · cases hs
  | sendFails =>
    simp only [Socket.step] at hs
    split at hs
    · cases hs; exact h.enter fun _ hp' => by cases hp'
    · next hp => cases hs; exact h.pass (by rw [hp]; rfl) rfl
    · cases hs
  | addServer =>
    simp only [Socket.step] at hs
    split at hs
    · next proxy hp =>
      have hpass : Proved C k.transcript proxy.hostname := h.phase.proved (by rw [hp]; rfl)
      split at hs <;> cases hs
      · exact ⟨.of_proved rfl hpass, h.responses⟩
      · exact ⟨.of_proved rfl hpass, h.responses⟩
    · cases hs
  | handleEnds =>
    simp only [Socket.step] at hs
    split at hs
    · next hp => cases hs; exact h.pass (by rw [hp]; rfl) rfl
    · cases hs
  | removeServer =>
    simp only [Socket.step] at hs
    split at hs
    · cases hs; exact ⟨fun _ hp' => (by cases hp'), h.responses⟩
    · cases hs
  | detect firstBuf =>
    simp only [Socket.step] at hs
    split at hs
    · split at hs
      · cases hs
        refine h.enter ?_
        split <;> exact fun _ hp' => by cases hp'
      · cases hs
    · cases hs
  | getServer =>
    simp only [Socket.step] at hs
    split at hs
    · split at hs <;> cases hs
      · exact h.enter fun _ hp' => by cases hp'
      · exact h.enter fun _ hp' => by cases hp'
    · cases hs
  | fail =>
    simp only [Socket.step] at hs
    split at hs
    · cases hs; exact h.enter fun _ hp' => by cases hp'
    · cases hs
  | accept | firstPacket | version =>
    simp only [Socket.step] at hs
    split at hs
    · cases hs; exact h.enter fun _ hp' => by cases hp'
    · cases hs

end Socket

namespace Server
variable {s : Server}

/-- In every run: the peer of the socket that a hostname is registered for has proved itself for this
hostname; so has the peer of every socket that is about to call `add_server` or past it, and of every
socket before it was sent `ProxyHelloResponse`. -/
theorem registered_proved (h : Lts.Reach (step C) (fun _ _ => True) init s) :
    (∀ hostname c, s.register.getServer hostname = some c → Proved C (s.sockets c).transcript hostname) ∧
    (∀ c proxy, (s.sockets c).phase.authenticated? = some proxy →
      Proved C (s.sockets c).transcript proxy.hostname) ∧
    ∀ c t response u, (s.sockets c).transcript = t ++ .sent (.proxyHelloResponse response) :: u →
      ∃ hostname, Proved C t hostname := by
  have hexclusive := exclusive_reach h
  have hauthentic : ∀ c, (s.sockets c).Authentic C :=
    forall_sockets (I := Socket.Authentic C) Socket.authentic_initial (fun hk hs => hk.step hs) h
  refine ⟨fun hostname c hget => ?_, fun c proxy hp => (hauthentic c).phase.proved hp,
    fun c => (hauthentic c).responses⟩
  have hadded := (hexclusive.register hostname c).1 hget
  rw [(hexclusive.removes c).added] at hadded
  obtain ⟨proxy, hproxy, rfl⟩ := SocketPhase.authenticated?_of_removes? hadded
  exact (hauthentic c).phase.proved hproxy

theorem registered_proved_login :
    ∃ s, Lts.run (step ServerPublicKey.sampleCrypto) init (login 0 ++ [(0, .addServer), (0, .send)]) =
        some s ∧
      s.register.getServer "3grfiewn7rkrpizi11dm.t.craftip.net" = some 0 ∧
      Proved ServerPublicKey.sampleCrypto (s.sockets 0).transcript "3grfiewn7rkrpizi11dm.t.craftip.net" := by
  obtain ⟨s, hrun, hget⟩ : ∃ s, Lts.run (step ServerPublicKey.sampleCrypto) init
      (login 0 ++ [(0, .addServer), (0, .send)]) = some s ∧
      s.register.getServer "3grfiewn7rkrpizi11dm.t.craftip.net" = some 0 := by
    decide +kernel
  have hreach := Lts.Reach.of_run hrun (Lts.Meets.of_forall (fun _ _ => trivial) _ _)
  exact ⟨s, hrun, hget, (registered_proved hreach).1 _ _ hget⟩

end Server
end CraftIP
