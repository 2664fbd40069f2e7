import CraftIP.Session

/-!
# A session with no free slot

`handle_writer` returns when no id is left for a player that joins: the player is refused, and with it
every other player of the session (`refusal_ends_session`).
-/

namespace CraftIP
open Function (update)

namespace Session

/-- Every slot is taken. -/
def IsFull (s : Session) : Prop := ∀ i < MAXIMUM_CLIENTS, ∃ P, s.distributor.clientsId.get i = some P

/-- The message was refused and nothing else happened: the slots are as before, the other messages still
wait, and `handle_writer` is about to take the next one. -/
structure RefusedAlone (s s' : Session) : Prop where
  slots : ∀ id, s'.distributor.getById id = s.distributor.getById id
  queue : s'.queue = s.queue.tail
  writer : s'.writer = .recv ∨ s'.writer = .tryRecv

variable {s s' : Session}

theorem handleMessage_full {m : Marked Player (ClientToProxy Player Player)} {idSender tx : Player}
    (hfull : s.IsFull) (hm : m.val = .addMinecraftClient idSender tx) :
    s.handleMessage m = s.endWriter := by
  obtain ⟨e, he⟩ : ∃ e, s.distributor.insert tx = .error e := Distributor.insert_eq_error_iff.2 hfull
  simp only [handleMessage, hm, he]

theorem step_full {m : Marked Player (ClientToProxy Player Player)} {idSender tx : Player}
    (hfull : s.IsFull) (hm : m.val = .addMinecraftClient idSender tx)
    (hs : s.step (.handleWriter m) = some s') : s'.writer = .ended := by
  obtain ⟨-, rfl⟩ := step_eq_some hs
  exact congrArg Session.writer (handleMessage_full (s := { s with queue := s.queue.tail }) hfull hm)

/-- In no reachable full session is a player refused without an end of `handle_writer`. -/
theorem refusal_ends_session (_ : Lts.Reach step (fun _ _ => True) init s) (hfull : s.IsFull)
    {m : Marked Player (ClientToProxy Player Player)} {idSender tx : Player}
    (hm : m.val = .addMinecraftClient idSender tx) (hs : s.step (.handleWriter m) = some s') :
    ¬ s.RefusedAlone s' := by
  rintro ⟨-, -, hw⟩
  rw [step_full hfull hm hs] at hw
  rcases hw with hw | hw <;> cases hw

/-! ### Filling a session -/

/-- The players 0 to `n - 1` have joined, and `handle_writer` waits for the next. -/
structure Joined (n : Nat) (s : Session) : Prop where
  reach : Lts.Reach step (fun _ _ => True) init s
  slots : ∀ i, s.distributor.clientsId.get i = if i < n then some i else none
  writer : s.writer = .recv ∨ s.writer = .tryRecv
  queue : s.queue = []
  absent : ∀ P, n ≤ P → (s.players P).phase = .absent

theorem joined_init : Joined 0 init where
  reach := .init
  slots i := Slots.get_empty i
  writer := .inl rfl
  queue := rfl
  absent _ _ := rfl

theorem Joined.insert {n : Nat} (h : Joined n s) (hn : n < MAXIMUM_CLIENTS) :
    s.distributor.insert n = .ok (UInt64.ofNat n, ⟨s.distributor.clientsId.put n n⟩) := by
  have hfree : s.distributor.clientsId.firstFree = some n := by
    cases hf : s.distributor.clientsId.firstFree with
    | none =>
      obtain ⟨x, hx⟩ := Slots.firstFree_eq_none_iff.1 hf n hn
      rw [h.slots, if_neg (Nat.lt_irrefl n)] at hx
      cases hx
    | some i =>
      obtain ⟨-, hnone, hmin⟩ := Slots.firstFree_eq_some hf
      rw [h.slots] at hnone
      have hi : n ≤ i := by
        by_contra hlt
        rw [if_pos (Nat.lt_of_not_le hlt)] at hnone
        cases hnone
      have hi' : i ≤ n := by
        by_contra hlt
        obtain ⟨x, hx⟩ := hmin n (Nat.lt_of_not_le hlt)
        rw [h.slots, if_neg (Nat.lt_irrefl n)] at hx
        cases hx
      rw [Nat.le_antisymm hi' hi]
  simp only [Distributor.insert, hfree]

/-- The message of the next player that joins. -/
def addMessage (n : Nat) : Marked Player (ClientToProxy Player Player) :=
  ⟨.addMinecraftClient n n, some n⟩

theorem Joined.connect {n : Nat} (h : Joined n s) :
    s.step (.connect n samplePacket) = some (s.next (.connect n samplePacket)) ∧
      (s.next (.connect n samplePacket)).queue = [addMessage n] := by
  refine ⟨if_pos ?_, ?_⟩
  · rcases h.writer with hw | hw <;> simp [enabled, h.absent n (Nat.le_refl n), hw]
  · show s.queue ++ [addMessage n] = _
    rw [h.queue]; rfl

/-- One more player joins. -/
theorem Joined.next {n : Nat} (h : Joined n s) (hn : n < MAXIMUM_CLIENTS) : ∃ s', Joined (n + 1) s' := by
  obtain ⟨hconnect, hqueue⟩ := h.connect
  set t := s.next (.connect n samplePacket) with ht
  have hphase : (t.players n).phase = .awaitId samplePacket := by
    show (update s.players n _ n).phase = _
    rw [Function.update_self]
  have hinsert : t.distributor.insert n = .ok (UInt64.ofNat n, ⟨s.distributor.clientsId.put n n⟩) :=
    h.insert hn
  have hadd : t.step (.handleWriter (addMessage n)) = some
      { t with
        queue := []
        distributor := ⟨s.distributor.clientsId.put n n⟩
        players := update t.players n { t.players n with phase := .hasId (UInt64.ofNat n) samplePacket }
        owner := update t.owner (UInt64.ofNat n) (some n)
        writer := .feed ⟨.proxyJoin (UInt64.ofNat n), some n⟩ } := by
    have henabled : t.enabled (.handleWriter (addMessage n)) = true :=
      decide_eq_true ⟨h.writer, by rw [hqueue]; rfl⟩
    rw [step, if_pos henabled]
    show some (handleMessage { t with queue := t.queue.tail } (addMessage n)) = _
    simp only [handleMessage, addMessage, hinsert, hphase, hqueue, List.tail_cons]
  have hreach := (h.reach.step trivial hconnect).step trivial hadd
  refine ⟨_, hreach.step (a := .handleWriterFeed _) trivial (if_pos (decide_eq_true rfl)), fun i => ?_,
    .inr rfl, rfl, fun P hP => ?_⟩
  · show (s.distributor.clientsId.put n n).get i = _
    rw [Slots.get_put, h.slots]
    grind
  · show (update t.players n _ P).phase = _
    rw [Function.update_of_ne (by rintro rfl; exact absurd hP (Nat.not_succ_le_self _))]
    show (update s.players n _ P).phase = _
    rw [Function.update_of_ne (by rintro rfl; exact absurd hP (Nat.not_succ_le_self _))]
    exact h.absent P (Nat.le_of_succ_le hP)

theorem exists_joined {n : Nat} (hn : n ≤ MAXIMUM_CLIENTS) : ∃ s, Joined n s := by
  induction n with
  | zero => exact ⟨init, joined_init⟩
  | succ n ih =>
    obtain ⟨s, hs⟩ := ih (Nat.le_of_succ_le hn)
    exact hs.next hn

/-- A full session in which the message of one more player comes next. -/
theorem exists_full : ∃ s s', Lts.Reach step (fun _ _ => True) init s ∧ s.IsFull ∧
    s.step (.handleWriter (addMessage MAXIMUM_CLIENTS)) = some s' := by
  obtain ⟨s, hs⟩ := exists_joined (Nat.le_refl MAXIMUM_CLIENTS)
  obtain ⟨hconnect, hqueue⟩ := hs.connect
  refine ⟨_, _, hs.reach.step trivial hconnect, fun i hi => ⟨i, ?_⟩,
    if_pos (decide_eq_true ⟨hs.writer, by rw [hqueue]; rfl⟩)⟩
  exact (hs.slots i).trans (if_pos hi)

theorem refusal_not_alone :
    ∃ (s s' : Session) (m : Marked Player (ClientToProxy Player Player)) (idSender tx : Player),
      Lts.Reach step (fun _ _ => True) init s ∧ s.IsFull ∧ m.val = .addMinecraftClient idSender tx ∧
        s.step (.handleWriter m) = some s' ∧
      ¬ s.RefusedAlone s' := by
  obtain ⟨s, s', hreach, hfull, hs⟩ := exists_full
  refine ⟨s, s', _, _, _, hreach, hfull, rfl, hs, fun h => ?_⟩
  have hw := h.writer
  rw [step_full hfull rfl hs] at hw
  rcases hw with hw | hw <;> cases hw

/-- The 256th player of a session. -/
theorem refusal_ends_session_256 :
    ∃ s s' : Session, s.IsFull ∧ s.step (.handleWriter (addMessage MAXIMUM_CLIENTS)) = some s' ∧
      ¬ s.RefusedAlone s' := by
  obtain ⟨s, s', hreach, hfull, hs⟩ := exists_full
  exact ⟨s, s', hfull, hs, refusal_ends_session hreach hfull rfl hs⟩

end Session
end CraftIP
