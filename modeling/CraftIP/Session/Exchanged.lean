import CraftIP.Session.Lossless
import CraftIP.Session.Tables

/-!
# All is exchanged when the session rests

A run in which no id is given twice and no socket operation fails forwards in order (`forwarding`). When it
has come to rest, it has forwarded all: exactly the players that are served have a backend connection that
goes on, and each of the two sockets was written what was read from the other (`rest_exchanges`).
-/

namespace CraftIP

namespace Session

/-- The players that are served are those with a connection that goes on, and the two have all of each other. -/
structure Exchanged (s : Session) : Prop where
  served : ∀ P id, (s.players P).phase = .handling id ↔
    ∃ c, (s.conns c).live = true ∧ (s.conns c).openedFor = some P ∧ (s.conns c).clientId = id
  toBackend : ∀ c P, (s.conns c).live = true → (s.conns c).openedFor = some P →
    (s.conns c).bytesWritten = (s.players P).bytesRead
  toPlayer : ∀ c P, (s.conns c).live = true → (s.conns c).openedFor = some P →
    (s.players P).bytesWritten = (s.conns c).bytesRead

variable {s : Session} {P : Player} {id : ClientID} {c : Conn}

/-- The backend was written all that was read from the player. -/
theorem Pipeline.all_toBackend (h : Pipeline s) (hr : AtRest s) (hlive : (s.conns c).live = true)
    (hslot : s.client.connection (s.conns c).clientId = some c) (hfor : (s.conns c).openedFor = some P)
    (hphase : (s.players P).phase = .handling (s.conns c).clientId) :
    (s.conns c).bytesWritten = (s.players P).bytesRead := by
  obtain ⟨hlt, -, hchunks, -⟩ := h.arrived.slot _ c hslot
  have hrests := hr.conn c
  have hne : s.writer ≠ .ended := by rw [hr.writer]; simp
  have hsent := h.sent.sent hne P _ (h.owner hfor)
  rw [hr.made, hr.queue, hphase, queuedFor_nil, List.append_nil] at hsent
  change _ ++ [] = _ at hsent
  rw [List.append_nil] at hsent
  unfold ConnRests at hrests
  cases htask : (s.conns c).task with
  | select =>
    rw [htask] at hrests
    have hwritten := (h.arrived.conn c hlt).written
    rw [htask, show HandleClient.select.rest = [] from rfl, List.append_nil] at hwritten
    rw [Channel.history, hrests.1, List.append_nil] at hchunks
    rw [hwritten, hchunks, hsent]
  | ended => rw [ClientConnection.live, htask] at hlive; simp at hlive
  | connecting | writing | dropping => rw [htask] at hrests; exact hrests.elim

/-- The player was written all that was read from the backend. -/
theorem Pipeline.all_toPlayer (h : Pipeline s) (hr : AtRest s) (hfor : (s.conns c).openedFor = some P)
    (hslot : s.distributor.getById (s.conns c).clientId = some P)
    (hphase : (s.players P).phase = .handling (s.conns c).clientId) :
    (s.players P).bytesWritten = (s.conns c).bytesRead := by
  have hplayer := h.delivered.player P
  have hrests := hr.player P
  rw [PlayerRests, hphase] at hrests
  obtain ⟨-, hw, hpending, hbuf, -⟩ := hrests
  have hopen : (s.players P).rxOpen = true := by simp [PlayerState.rxOpen, hw]
  have hchunks := hplayer.slot _ hslot hopen
  have hne : s.clientWriter ≠ .ended := by rw [hr.clientWriter]; simp
  have hsent := h.answered.sent hne c (h.lt_opened hfor)
  rw [hr.answers, hr.toProxy, backendFor_nil, List.append_nil] at hsent
  have hwritten := hplayer.written
  rw [hbuf, List.append_nil] at hwritten
  rw [Channel.history, hpending, List.append_nil] at hchunks
  rw [hwritten, hchunks, hsent]

end Session

namespace Requested
open Session
variable {t t' : Requested}

theorem joinedId_eq_some {a : Action} {id : ClientID} (h : joinedId a = some id) :
    ∃ f, a = .readerHandler f ∧ f.val = .proxyJoin id := by
  unfold joinedId at h
  obtain ⟨f, hf, hv⟩ := Option.bind_eq_some_iff.1 h
  refine ⟨f, ?_, ?_⟩
  · cases a with
    | readerHandler g => cases hf; rfl
    | _ => cases hf
  · split at hv
    · next he => cases hv; exact he
    · cases hv

/-- Where no id is given twice, nothing is left that could close a connection for a later one. -/
theorem Lossless.connectionFree {a : Action} (h : Pipeline t.session) (ha : Asked t)
    (hc : t.session.Lossless a) {s' : Session} (hs : t.session.step a = some s') :
    t.session.ConnectionFree a := by
  refine ⟨hc.1, fun id hid => ⟨fun m hm hv => ?_, fun P hP => ?_⟩, fun id hid => ?_⟩
  · exact h.sent.queue m hm id (by rw [hv]; exact decide_eq_true rfl) (hc.2.1 id hid)
  · rw [hc.2.1 id hid] at hP
    cases hP
  · obtain ⟨f, rfl, hv⟩ : ∃ f, a = .readerHandler f ∧ f.val = .proxyJoin id := by
      exact joinedId_eq_some hid
    have hg := (of_decide_eq_true (Session.step_eq_some hs).1).2
    have hin := (Link.pop_of_gives h.clean.down hg).2.1
    have hno := h.arrived.clientId_ne (h.sent.not_taken hin hv)
    refine ⟨fun c hlt he => absurd he (hno c hlt), fun m hm he => ?_, fun hmem => ?_⟩
    · obtain ⟨c, hlt, hid⟩ := h.answered.toProxy m hm id (by rw [he]; exact decide_eq_true rfl)
      exact hno c hlt hid
    · rw [← ha.requests] at hmem
      obtain ⟨x, hx, rfl⟩ := List.mem_map.1 hmem
      obtain ⟨c, -, hn⟩ := ha.newest x hx
      exact hno c hn.lt_opened hn.clientId

end Requested

namespace Session
variable {s : Session}

/-- When a session in which no id was given twice and no socket operation failed has come to rest while its
four loops run, the players that are served are those with a backend connection that goes on, and each
socket was written exactly what was read from the other. -/
theorem rest_exchanges (h : Lts.Reach step Lossless init s) (hgoing : Going s) (hrest : Resting s) :
    Exchanged s := by
  obtain ⟨t, rfl, hreach⟩ := Lts.Reach.lift Requested.init Requested.step_session h
  obtain ⟨hpipe, hp⟩ : Pipeline t.session ∧ Requested.Paired t :=
    hreach.invariant (I := fun t => Pipeline t.session ∧ Requested.Paired t)
      ⟨pipeline_init, Requested.paired_init⟩ fun _ hi hc hs => by
        have hsession := (Requested.step_eq_some hs).1
        exact ⟨hi.1.step hc hsession,
          hi.2.step (Requested.Lossless.connectionFree hi.1 hi.2.attributed.asked hc hsession) hs⟩
  have ht := hp.tabled
  have hr := hrest.atRest hgoing ht.waiting
  have hserver : ∀ id P, t.session.distributor.getById id = some P ↔ (t.session.players P).phase = .handling id :=
    fun id P => hr.server ht.occupied
  -- a connection that goes on is in the slot of its player
  have hpair : ∀ {c P}, (t.session.conns c).live = true → (t.session.conns c).openedFor = some P →
      t.session.client.connection (t.session.conns c).clientId = some c ∧
        t.session.distributor.getById (t.session.conns c).clientId = some P := by
    intro c P hlive hfor
    have hc := (hr.client ht.guested ht.listed c).1 hlive
    refine ⟨hc, ?_⟩
    rw [hp.same_tables hr, hc, Option.bind_some]
    exact hfor
  refine ⟨fun P id => ⟨fun hphase => ?_, ?_⟩, fun c P hlive hfor => ?_, fun c P hlive hfor => ?_⟩
  · have hslot := (hserver id P).2 hphase
    rw [hp.same_tables hr] at hslot
    obtain ⟨c, hc, hfor⟩ := Option.bind_eq_some_iff.1 hslot
    obtain ⟨-, hid, -⟩ := ht.guested.slot id c hc
    exact ⟨c, (hr.client ht.guested ht.listed c).2 (by rw [hid]; exact hc), hfor, hid⟩
  · rintro ⟨c, hlive, hfor, rfl⟩
    exact (hserver _ P).1 (hpair hlive hfor).2
  · obtain ⟨hc, hslot⟩ := hpair hlive hfor
    exact hpipe.all_toBackend hr hlive hc hfor ((hserver _ P).1 hslot)
  · obtain ⟨-, hslot⟩ := hpair hlive hfor
    exact hpipe.all_toPlayer hr hfor hslot ((hserver _ P).1 hslot)

theorem rest_exchanges_joinBoth :
    ∃ s, Lts.run step init joinBoth = some s ∧ Exchanged s ∧
      ((s.players 0).phase = .handling 0 ∧ (s.players 0).bytesWritten = [1]) ∧
      (s.players 1).phase = .handling 1 ∧ (s.conns 1).bytesWritten = samplePacket := by
  obtain ⟨s, hrun, hrests, hphases⟩ : ∃ s, Lts.run step init joinBoth = some s ∧ RestsBelow 2 s ∧
      ((s.players 0).phase = .handling 0 ∧ (s.players 0).bytesWritten = [1]) ∧
      (s.players 1).phase = .handling 1 ∧ (s.conns 1).bytesWritten = samplePacket := by
    decide +kernel
  obtain ⟨hgoing, hresting⟩ := hrests.resting hrun (by decide +kernel)
  exact ⟨s, hrun, rest_exchanges (Lts.Reach.of_run hrun (by decide +kernel)) hgoing hresting, hphases⟩

end Session
end CraftIP
