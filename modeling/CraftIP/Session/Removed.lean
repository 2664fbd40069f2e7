import CraftIP.ProxyHandler.Distributor
import CraftIP.Session.Removal

/-!
# Who is sent a disconnect

In a session the distributor is the map of the calls that were made (`exists_calls`).
`remove_by_id` says whether the table has the number, not whether a player held it, so a disconnect that
the client started is answered with one more (`not_acknowledged_left`).
-/

namespace CraftIP
open Function (update)

namespace Session

/-- A player is registered under the id. -/
def Registered (s : Session) (id : ClientID) : Prop := (s.distributor.getById id).isSome = true

/-- "Returns true if existed": `remove_by_id` tells whether a player was registered, and only then
`handle_writer` sends a `ProxyDisconnect` for a `RemoveMinecraftClient`. -/
def Acknowledged (s : Session) : Action → Prop
  | .handleWriter m =>
    match m.val with
    | .removeMinecraftClient id =>
      ((s.distributor.removeById id).1 = true ↔ s.Registered id) ∧
        ((s.next (.handleWriter m)).writer = .feed ⟨.proxyDisconnect id, m.of⟩ ↔ s.Registered id)
    | _ => True
  | _ => True

/-- A `RemoveMinecraftClient` finds its slot still taken, or has a number that the table does not have. -/
def StillRegistered (s : Session) : Action → Prop
  | .handleWriter m =>
    match m.val with
    | .removeMinecraftClient id => s.Registered id ∨ MAXIMUM_CLIENTS ≤ id.toNat
    | _ => True
  | _ => True

variable {s s' : Session}

/-! ### The distributor of a session -/

/-- What a step does to the distributor is a call of it, if anything. -/
def Called (s s' : Session) : Prop :=
  s'.distributor = s.distributor ∨ ∃ c, s'.distributor = (s.distributor.call c).2

theorem called_insert {tx : Player} {id : ClientID} {d : Distributor Player}
    (hins : s.distributor.insert tx = .ok (id, d)) (hd : s'.distributor = d) : Called s s' :=
  .inr ⟨.insert tx, by rw [Distributor.call, hins, hd]⟩

theorem called_handleMessage (m : Marked Player (ClientToProxy Player Player)) :
    Called s (s.handleMessage m) := by
  apply handleMessage_cases (motive := Called s) s m
  case full => intros; exact .inl rfl
  case joined => intro _ _ _ _ _ _ hins _; exact called_insert hins rfl
  case gone => intro _ _ _ _ _ hins _; exact called_insert hins rfl
  case packet => intros; exact .inl rfl
  case ping => intros; exact .inl rfl
  case removed => intro id _ _; exact .inr ⟨.removeById id, rfl⟩
  case unknown => intro id _ _; exact .inr ⟨.removeById id, rfl⟩

theorem called_handleFrame (f : Marked Conn SocketPacket) : Called s (s.handleFrame f) := by
  apply handleFrame_cases (motive := Called s) s f
  case disconnect => intro id _ _ _; exact .inr ⟨.removeById id, rfl⟩
  case disconnectNone => intro id _ _; exact .inr ⟨.removeById id, rfl⟩
  case data => intros; exact .inl rfl
  case dataNone => intros; exact .inl rfl
  case ping => intros; exact .inl rfl
  case other => intros; exact .inl rfl

theorem called_step {a : Action} (hs : s.step a = some s') : Called s s' := by
  obtain ⟨-, rfl⟩ := step_eq_some hs
  cases a with
  | handleWriter m => exact called_handleMessage (s := { s with queue := s.queue.tail }) m
  | handleReader f => exact called_handleFrame (s := { s with up := s.up.pop f }) f
  | readerHandler f => exact .inl (readerFrame_distributor (s := { s with down := s.down.pop f }) f)
  | writerHandler m => exact .inl (backendMessage_distributor (s := { s with toProxy := s.toProxy.tail }) m)
  | _ => exact .inl rfl

/-- In every state reached, the distributor is what some calls made of the empty one. -/
theorem exists_calls {C : Session → Action → Prop} (h : Lts.Reach step C init s) :
    ∃ cs, s.distributor = ((Distributor.default : Distributor Player).calls cs).2 := by
  refine h.invariant (I := fun s => ∃ cs, s.distributor = ((Distributor.default).calls cs).2) ⟨[], rfl⟩ ?_
  rintro s a s' - ⟨cs, hcs⟩ - hs
  rcases called_step hs with hd | ⟨c, hd⟩
  · exact ⟨cs, hd.trans hcs⟩
  · exact ⟨cs ++ [c], by rw [Distributor.calls_concat, hd, hcs]⟩

/-- A registered player was inserted by the one call that gave out its id and was not undone since. -/
theorem registered_iff_held {C : Session → Action → Prop} (h : Lts.Reach step C init s) :
    ∃ history, IdMap.Path MAXIMUM_CLIENTS history s.distributor.toMap ∧
      ∀ id, s.Registered id ↔ ∃ P k, IdMap.Held history k id.toNat P := by
  obtain ⟨cs, hcs⟩ := exists_calls h
  have hpath := @Distributor.calls_path Player cs
  refine ⟨_, hcs ▸ hpath, fun id => ?_⟩
  rw [Registered, Option.isSome_iff_exists]
  exact exists_congr fun P => (hcs ▸ hpath).get_iff _ _

/-! ### `RemoveMinecraftClient` -/

theorem Registered.lt {id : ClientID} (h : s.Registered id) : id.toNat < MAXIMUM_CLIENTS := by
  obtain ⟨P, hP⟩ := Option.isSome_iff_exists.1 h
  exact Slots.lt_of_get hP

/-- `handle_writer` sends a `ProxyDisconnect` for every number that the table has. -/
theorem writer_handleMessage_remove {m : Marked Player (ClientToProxy Player Player)} {id : ClientID}
    (hv : m.val = .removeMinecraftClient id) :
    (s.handleMessage m).writer = .feed ⟨.proxyDisconnect id, m.of⟩ ↔ id.toNat < MAXIMUM_CLIENTS := by
  rw [← Distributor.removeById_fst s.distributor]
  simp only [handleMessage, hv]
  split
  · next h => exact iff_of_true rfl h
  · next h => exact iff_of_false (by simp) h

theorem acknowledged_iff (s : Session) (a : Action) : s.Acknowledged a ↔ s.StillRegistered a := by
  cases a with
  | handleWriter m =>
    rw [Acknowledged, StillRegistered]
    split
    · next id hv =>
      have hw : (s.next (.handleWriter m)).writer = .feed ⟨.proxyDisconnect id, m.of⟩ ↔
          id.toNat < MAXIMUM_CLIENTS :=
        writer_handleMessage_remove (s := { s with queue := s.queue.tail }) hv
      rw [Distributor.removeById_fst, hw, and_self]
      constructor
      · intro h
        exact (Nat.lt_or_ge id.toNat MAXIMUM_CLIENTS).imp h.1 fun hle => hle
      · rintro (h | h)
        · exact iff_of_true h.lt h
        · exact iff_of_false (Nat.not_lt_of_le h) fun hr => Nat.not_lt_of_le h hr.lt
    · rfl
  | _ => rfl

/-- In every run, whatever was done before, the removals are answered as they should be if and only if each
of them finds its slot still taken (or has a number that the table does not have). -/
theorem acknowledged_run_iff (as : List Action) :
    Lts.Meets step Acknowledged init as ↔ Lts.Meets step StillRegistered init as :=
  Lts.Meets.congr acknowledged_iff as init

/-- The backend closes, the client's disconnect empties the slot of player 0, and nobody takes it before
the last message of player 0 is handled. -/
def closeBackendAndLeave : List Action :=
  [.backendReadEnds 0, .writerHandlerFlushed, .writerHandler ⟨.removeMinecraftClient 0, some 0⟩,
    .writerHandlerFeed ⟨.proxyDisconnect 0, some 0⟩, .writerHandlerEmpty, .upWrite 1,
    .handleReader ⟨.proxyData ⟨0, ⟨[1]⟩⟩, some 0⟩, .handleReader ⟨.proxyDisconnect 0, some 0⟩,
    .clientReadEnds 0, .clientFinish 0 0]

theorem not_acknowledged_left :
    ¬ ∀ s, Lts.Reach step (fun _ _ => True) init s → ∀ a, s.Acknowledged a := by
  obtain ⟨s, hrun, hslot, s', hs', hsent⟩ : ∃ s, Lts.run step init (joinAndRead ++ closeBackendAndLeave) = some s ∧
      s.distributor.getById 0 = none ∧
      ∃ s', s.step (.handleWriter ⟨.removeMinecraftClient 0, some 0⟩) = some s' ∧
        s'.writer = .feed ⟨.proxyDisconnect 0, some 0⟩ := by
    decide +kernel
  intro hall
  have hacked := hall s (Lts.Reach.of_run hrun (.of_forall (fun _ _ => trivial) _ _))
    (.handleWriter ⟨.removeMinecraftClient 0, some 0⟩)
  have hreg : s.Registered 0 := hacked.2.1 (by rw [← (step_eq_some hs').2]; exact hsent)
  rw [Registered, hslot] at hreg
  cases hreg

end Session
end CraftIP
