import Mathlib.Data.Finset.Card
import CraftIP.Gui.Active
import CraftIP.Session.Tables

/-!
# The number of players that is shown

The client counts its connections and reports the number whenever it changes; the controller writes it into the
active panel. The number is right as long as a `ProxyJoin` finds its slot empty (`Counting`), and when the session
rests with its tables in agreement it is the number of players that the server serves (`rest_shows_players`).
-/

namespace CraftIP
open Function (update)

/-- The number of connections, where it is one that is reported. -/
def Stats.clients? : Stats → Option Nat
  | .clientsConnected n => some n
  | _ => none

/-- The number that was reported last, and that of no connection before. -/
def lastReported (stats : List Stats) : Nat := (stats.filterMap Stats.clients?).getLastD 0

theorem lastReported_concat (stats : List Stats) (n : Nat) : lastReported (stats ++ [.clientsConnected n]) = n := by
  simp [lastReported, Stats.clients?]

/-! ### What the client reports -/

namespace Client
variable {Tx : Type} {c : Client Tx}

/-- The counter is what was reported last. -/
def Reported (c : Client Tx) : Prop := lastReported c.stats = c.connectionsLen

theorem reported_new : Reported (new : Client Tx) := rfl

theorem reported_addConnection (c : Client Tx) (id : ClientID) (tx : Tx) : Reported (c.addConnection id tx) :=
  lastReported_concat _ _

theorem Reported.removeConnection (h : Reported c) (id : ClientID) : Reported (c.removeConnection id) := by
  rw [Client.removeConnection]
  split
  · exact h
  · exact lastReported_concat _ _

end Client

namespace Session
variable {s s' : Session} {id : ClientID}

/-- A `ProxyJoin` comes when the earlier connection with its id has gone and no removal of the id is left; first
packets are short. -/
def JoinFree (s : Session) (a : Action) : Prop := ShortStart a ∧ ∀ id ∈ joinedId a, s.ConnectionGone id

/-- While `writer_handler` runs, the counter is the number of connections, and it was reported. -/
def Counting (s : Session) : Prop := s.clientWriter ≠ .ended → s.client.Counted ∧ s.client.Reported

theorem counting_init : Counting init := fun _ => ⟨Client.counted_new, Client.reported_new⟩

/-- The connection in a slot goes on, or its removal is on its way. -/
theorem connection_of_connectionGone (hg : Guested s) (hl : Listed s) (hw : s.clientWriter ≠ .ended)
    (h : s.ConnectionGone id) : s.client.connection id = none := by
  obtain ⟨hlive, htoProxy, hrx⟩ := h
  cases hc : s.client.connection id with
  | none => rfl
  | some c =>
    obtain ⟨hlt, hid, -⟩ := hg.slot id c hc
    rcases hl hw id c hc with hgoes | ⟨m, hm, hv⟩ | hmem
    · rw [hlive c hlt hid] at hgoes
      cases hgoes
    · exact absurd hv (htoProxy m hm)
    · exact absurd hmem hrx

theorem Counting.readerHandler (h : Counting s) (hg : Guested s) (hl : Listed s) {f : Marked Player SocketPacket}
    (hgone : ∀ id, f.val = .proxyJoin id → s.ConnectionGone id) :
    Counting ({ s with down := s.down.pop f }.readerFrame f) := by
  apply readerFrame_cases (motive := Counting) { s with down := s.down.pop f } f
  case join =>
    intro id hv hw
    obtain ⟨hcounted, -⟩ := h hw
    have hfree := connection_of_connectionGone hg hl hw (hgone id hv)
    exact ⟨(Client.counted_addConnection_iff hcounted id s.opened).2 hfree, Client.reported_addConnection _ _ _⟩
  case dataLost =>
    intro id pkg c _ _ _ hw
    exact ⟨((h hw).1.removeConnection id).1, (h hw).2.removeConnection id⟩
  case disconnect =>
    intro id c _ _ hw
    exact ⟨((h hw).1.removeConnection id).1, (h hw).2.removeConnection id⟩
  case disconnectNone =>
    intro id _ _ hw
    exact ⟨((h hw).1.removeConnection id).1, (h hw).2.removeConnection id⟩
  case data => intros; exact h
  case dataNone => intros; exact h
  case pong => intros; exact h
  case unexpected => intros; exact h

theorem Counting.step {a : Action} (h : Counting s) (ht : Tabled s) (hc : s.JoinFree a) (hs : s.step a = some s') :
    Counting s' := by
  by_cases hread : ∃ f, a = .readerHandler f
  · obtain ⟨f, rfl⟩ := hread
    obtain ⟨-, rfl⟩ := step_eq_some hs
    refine h.readerHandler ht.guested ht.listed fun id hv => hc.2 id ?_
    simp [joinedId, clientReceives, hv]
  · by_cases hdis : ∃ id, a = .readerDisconnect id
    · obtain ⟨id, rfl⟩ := hdis
      obtain ⟨-, rfl⟩ := step_eq_some hs
      exact fun hw => ⟨((h hw).1.removeConnection id).1, (h hw).2.removeConnection id⟩
    · obtain ⟨-, hclient, -⟩ := client_step hs (fun f he => hread ⟨f, he⟩) fun id he => hdis ⟨id, he⟩
      intro hw
      rw [hclient]
      exact h (clientWriter_step hs hw)

end Session

/-! ### What the panel shows -/

namespace Controller
variable {Key Tx : Type} {c : Controller Key Tx} {n : Nat} {error : Option PanelError}
  {rest : List (ServerState × Option PanelError)}

theorem shown_handleStats (h : c.panels.shown = (.connected n, error) :: rest) (stat : Stats) :
    (c.handleStats stat).panels.shown = (.connected (stat.clients?.getD n), error) :: rest := by
  have hset : ∀ {closure : ServerPanel Key → ServerPanel Key} {m : Nat}
      (k : ServerState × Option PanelError → ServerState × Option PanelError),
      (∀ p, (closure p).shown = k p.shown) → k (.connected n, error) = (.connected m, error) →
      (c.setActiveServer closure).panels.shown = (.connected m, error) :: rest := by
    intro closure m k hk hm
    cases hs : c.panels.setActiveServer closure with
    | none =>
      rw [GuiState.setActiveServer_eq_none_iff, h] at hs
      cases hs
    | some panels =>
      obtain ⟨x, rest', hx, hx'⟩ := GuiState.shown_setActiveServer hk hs
      rw [h] at hx
      obtain ⟨rfl, rfl⟩ := List.cons.inj hx
      rw [setActiveServer, hs]
      show panels.shown = _
      rw [hx', hm]
      exact if_pos (by simp)
  cases stat with
  | connected => exact h
  | clientsConnected m => exact hset (fun x => (.connected m, x.2)) (fun _ => rfl) rfl
  | ping ping => exact hset (fun x => x) (fun _ => rfl) rfl

/-- The controller takes the stats one after another. -/
theorem shown_foldl_handleStats (h : c.panels.shown = (.connected n, error) :: rest) (stats : List Stats) :
    (stats.foldl handleStats c).panels.shown =
      (.connected ((stats.filterMap Stats.clients?).getLastD n), error) :: rest := by
  induction stats generalizing c n with
  | nil => exact h
  | cons stat stats ih =>
    rw [List.foldl_cons, ih (shown_handleStats h stat)]
    cases hstat : stat.clients? with
    | none => rw [List.filterMap_cons_none hstat, Option.getD_none]
    | some m => rw [List.filterMap_cons_some hstat, Option.getD_some, List.getLastD_cons]

end Controller

/-! ### At rest -/

namespace Session
variable {s : Session}

/-- The players in the slots. -/
theorem exists_served (h : Agrees s) : ∃ served : Finset Player,
    (∀ P, P ∈ served ↔ ∃ id, (s.players P).phase = .handling id) ∧
      served.card = s.distributor.clientsId.count := by
  have hslot : ∀ {i : Nat} {P : Player}, s.distributor.clientsId.get i = some P →
      ∃ id : ClientID, id.toNat = i ∧ (s.players P).phase = .handling id := by
    intro i P hi
    obtain ⟨id, rfl⟩ := exists_id (Slots.lt_of_get hi)
    exact ⟨id, rfl, (h.server id P).1 hi⟩
  have hnodup : s.distributor.clientsId.taken.Nodup := by
    refine Slots.nodup_taken fun i j P hi hj => ?_
    obtain ⟨id, rfl, hphase⟩ := hslot hi
    obtain ⟨id', rfl, hphase'⟩ := hslot hj
    rw [hphase] at hphase'
    cases hphase'
    rfl
  refine ⟨s.distributor.clientsId.taken.toFinset, fun P => ?_, ?_⟩
  · rw [List.mem_toFinset, Slots.mem_taken]
    constructor
    · rintro ⟨i, hi⟩
      obtain ⟨id, -, hphase⟩ := hslot hi
      exact ⟨id, hphase⟩
    · rintro ⟨id, hphase⟩
      exact ⟨id.toNat, (h.server id P).2 hphase⟩
  · rw [List.toFinset_card_of_nodup hnodup, Slots.length_taken]

end Session

namespace Requested
open Session
variable {t : Requested}

/-- The client has as many connections as the server has players in its slots. -/
theorem count_connections {t : Requested} (hg : Guested t.session)
    (h : ∀ id, t.session.distributor.getById id =
      (t.session.client.connection id).bind fun c => (t.session.conns c).openedFor) :
    t.session.client.connections.count = t.session.distributor.clientsId.count := by
  refine Slots.count_congr fun i hi => ?_
  obtain ⟨id, rfl⟩ := exists_id hi
  change (t.session.client.connection id).isSome = (t.session.distributor.getById id).isSome
  rw [h id]
  cases hc : t.session.client.connection id with
  | none => rfl
  | some c =>
    obtain ⟨-, -, P, hP, -⟩ := hg.slot id c hc
    rw [Option.bind_some, hP]
    rfl

/-- In a run in which ids are given and joins come only when nothing is left that closes an earlier connection:
when the session rests and the controller has taken what the client reported, with whatever pings between, the
active panel shows the number of players that the server serves. -/
theorem rest_shows_players {Key Tx : Type}
    (h : Lts.Reach Requested.step (fun t a => t.session.ConnectionFree a) Requested.init t)
    (hgoing : Going t.session) (hrest : Resting t.session) {stats : List Stats}
    (hstats : stats.filterMap Stats.clients? = t.session.client.stats.filterMap Stats.clients?)
    {c : Controller Key Tx} {error : Option PanelError} {rest : List (ServerState × Option PanelError)}
    (hc : c.panels.shown = (.connected 0, error) :: rest) :
    ∃ served : Finset Player, (∀ P, P ∈ served ↔ ∃ id, (t.session.players P).phase = .handling id) ∧
      (stats.foldl Controller.handleStats c).panels.shown = (.connected served.card, error) :: rest := by
  obtain ⟨hp, hcounting⟩ : Paired t ∧ Counting t.session :=
    h.invariant (I := fun t => Paired t ∧ Counting t.session) ⟨paired_init, counting_init⟩ fun _ hi hc hs =>
      ⟨hi.1.step hc hs, hi.2.step hi.1.tabled ⟨hc.1, hc.2.2⟩ (Requested.step_eq_some hs).1⟩
  have hr := hrest.atRest hgoing hp.tabled.waiting
  obtain ⟨hcounted, hreported⟩ := hcounting hgoing.clientWriter
  have hcount := count_connections hp.tabled.guested (hp.same_tables hr)
  have hagrees : Agrees t.session := hr.agrees hp.tabled
  obtain ⟨served, hserved, hcard⟩ := exists_served hagrees
  refine ⟨served, hserved, ?_⟩
  rw [Controller.shown_foldl_handleStats hc, hstats]
  have hlast : lastReported t.session.client.stats = served.card :=
    calc lastReported t.session.client.stats
      _ = t.session.client.connectionsLen := hreported
      _ = t.session.client.connections.count := hcounted
      _ = served.card := hcount.trans hcard.symm
  rw [← hlast]
  rfl

/-- A controller whose panel has just been connected. -/
def connectedPanel : Controller Unit Unit :=
  { Controller.init [] with
    panels := ⟨some [{ ServerPanel.ofServer Controller.sampleServer with state := .connected 0 }]⟩ }

theorem rest_shows_players_leaveAndRejoin :
    ∃ t, Lts.run Requested.step Requested.init leaveAndRejoin = some t ∧ ∃ served : Finset Player,
      (∀ P, P ∈ served ↔ ∃ id, (t.session.players P).phase = .handling id) ∧ 0 ∉ served ∧ 1 ∈ served ∧ 2 ∈ served ∧
      ((.ping 7 :: t.session.client.stats).foldl Controller.handleStats connectedPanel).panels.shown =
        [(.connected served.card, none)] := by
  obtain ⟨s, hrun, hgoing, hrest, hfirst, hsecond, hthird⟩ := leaveAndRejoin_rests
  rw [← run_session] at hrun
  obtain ⟨t, ht, rfl⟩ := Option.map_eq_some_iff.1 hrun
  have hstats : (.ping 7 :: t.session.client.stats : List Stats).filterMap Stats.clients? =
      t.session.client.stats.filterMap Stats.clients? := rfl
  have hpanel : connectedPanel.panels.shown = [(.connected 0, none)] := rfl
  obtain ⟨served, hserved, hshown⟩ := rest_shows_players (Lts.Reach.of_run ht (by decide +kernel)) hgoing hrest
    hstats hpanel
  refine ⟨t, ht, served, hserved, fun hmem => ?_, (hserved 1).2 ⟨1, hsecond⟩, (hserved 2).2 ⟨0, hthird⟩, hshown⟩
  obtain ⟨id, hid⟩ := (hserved 0).1 hmem
  rw [hfirst] at hid
  cases hid

end Requested
end CraftIP
