import CraftIP.Lib.IdMap
import CraftIP.ProxyHandler

/-!
# The distributor as a map

The table of slots refines a partial map that gives out its smallest free number (`call_step`,
`calls_path`), so what it answers can be read off the history of the calls.
-/

namespace CraftIP

namespace Distributor
open Function (update)
variable {Tx : Type}

inductive Call (Tx : Type) where
  | insert (tx : Tx)
  | removeById (id : ClientID)
  | getById (id : ClientID)
deriving DecidableEq, Repr

/-- The call with its answer, and the distributor after it. -/
def call (d : Distributor Tx) : Call Tx → IdMap.Event Tx × Distributor Tx
  | .insert tx =>
    match d.insert tx with
    | .ok (id, d') => (.inserted id.toNat tx, d')
    | .error _ => (.refused tx, d)
  | .removeById id => (.removed id.toNat, (d.removeById id).2)
  | .getById id => (.looked id.toNat (d.getById id), d)

/-- A sequence of calls: their history, and the distributor after them. -/
def calls (d : Distributor Tx) : List (Call Tx) → List (IdMap.Event Tx) × Distributor Tx
  | [] => ([], d)
  | c :: cs => ((d.call c).1 :: (calls (d.call c).2 cs).1, (calls (d.call c).2 cs).2)

/-- The map that the table is. -/
def toMap (d : Distributor Tx) : ℕ → Option Tx := d.clientsId.get

theorem getById_eq (d : Distributor Tx) (id : ClientID) : d.getById id = d.toMap id.toNat := rfl

theorem toMap_default : (default : Distributor Tx).toMap = fun _ => none :=
  funext fun _ => Slots.get_empty _

theorem live_toMap (d : Distributor Tx) : IdMap.live d.toMap ⊆ Set.Iio MAXIMUM_CLIENTS := by
  intro i hi
  obtain ⟨x, hx⟩ := IdMap.mem_live.1 hi
  exact Slots.lt_of_get hx

/-- `insert` takes the least free number. -/
theorem insert_eq_ok_iff {d d' : Distributor Tx} {tx : Tx} {id : ClientID}
    (h : d.insert tx = .ok (id, d')) :
    IsLeast {i | i < MAXIMUM_CLIENTS ∧ i ∉ IdMap.live d.toMap} id.toNat ∧
      d'.toMap = update d.toMap id.toNat (some tx) := by
  rw [insert] at h
  split at h
  · next i hi =>
    obtain ⟨hlt, hnone, hmin⟩ := Slots.firstFree_eq_some hi
    have hn : (UInt64.ofNat i).toNat = i := by
      rw [UInt64.toNat_ofNat']
      rw [MAXIMUM_CLIENTS] at hlt
      omega
    cases h
    rw [hn]
    refine ⟨⟨⟨hlt, IdMap.not_mem_live.2 hnone⟩, fun j hj => ?_⟩, ?_⟩
    · by_contra hji
      obtain ⟨x, hx⟩ := hmin j (Nat.lt_of_not_le hji)
      exact hj.2 (IdMap.mem_live.2 ⟨x, hx⟩)
    · funext j
      rw [Function.update_apply, toMap, Slots.get_put]
      by_cases hji : j = i
      · rw [if_pos hji, if_pos ⟨hji.symm, hlt⟩]
      · rw [if_neg hji, if_neg fun he => hji he.1.symm]
        rfl
  · cases h

theorem toMap_removeById (d : Distributor Tx) (id : ClientID) :
    (d.removeById id).2.toMap = update d.toMap id.toNat none := by
  funext j
  rw [Function.update_apply, removeById]
  split
  · next hlt =>
    rw [toMap, Slots.get_clear]
    by_cases hj : j = id.toNat
    · rw [if_pos hj, if_pos hj.symm]
    · rw [if_neg hj, if_neg fun he => hj he.symm]
      rfl
  · next hlt =>
    by_cases hj : j = id.toNat
    · rw [if_pos hj, hj]
      exact Slots.get_eq_none_of_le (by omega)
    · rw [if_neg hj]

/-- `insert` succeeds while some slot is free. -/
theorem exists_insert_iff (d : Distributor Tx) (tx : Tx) :
    (∃ id d', d.insert tx = .ok (id, d')) ↔ (IdMap.live d.toMap).ncard < MAXIMUM_CLIENTS := by
  rw [← IdMap.exists_free_iff d.live_toMap]
  constructor
  · rintro ⟨id, d', h⟩
    exact ⟨_, (insert_eq_ok_iff h).1.1⟩
  · rintro ⟨i, hi, hfree⟩
    rcases h : d.insert tx with e | ⟨id, d'⟩
    · obtain ⟨x, hx⟩ := insert_eq_error_iff.1 ⟨e, h⟩ i hi
      exact absurd (IdMap.mem_live.2 ⟨x, hx⟩) hfree
    · exact ⟨id, d', rfl⟩

/-- Every call does to the map what its answer says. -/
theorem call_step (d : Distributor Tx) (c : Call Tx) :
    IdMap.Step MAXIMUM_CLIENTS d.toMap (d.call c).1 (d.call c).2.toMap := by
  cases c with
  | insert tx =>
    rw [call]
    rcases h : d.insert tx with e | ⟨id, d'⟩
    · have hfull : ¬ (IdMap.live d.toMap).ncard < MAXIMUM_CLIENTS := fun hlt => by
        obtain ⟨id, d', hok⟩ := (d.exists_insert_iff tx).2 hlt
        rw [h] at hok
        cases hok
      exact .refused (Nat.le_of_not_lt hfull)
    · obtain ⟨hleast, hmap⟩ := insert_eq_ok_iff h
      simp only [hmap]
      exact .inserted hleast
  | removeById id =>
    simp only [call, toMap_removeById]
    exact .removed
  | getById id => exact .looked

theorem calls_concat (d : Distributor Tx) (cs : List (Call Tx)) (c : Call Tx) :
    d.calls (cs ++ [c]) =
      ((d.calls cs).1 ++ [((d.calls cs).2.call c).1], ((d.calls cs).2.call c).2) := by
  induction cs generalizing d with
  | nil => rfl
  | cons c' cs ih => rw [List.cons_append, calls, ih, calls, List.cons_append]

theorem calls_path (cs : List (Call Tx)) :
    IdMap.Path MAXIMUM_CLIENTS ((default : Distributor Tx).calls cs).1
      ((default : Distributor Tx).calls cs).2.toMap := by
  induction cs using List.reverseRecOn with
  | nil =>
    rw [calls, toMap_default]
    exact .nil
  | append_singleton cs c ih =>
    rw [calls_concat]
    exact .concat ih (call_step _ c)

/-- After any calls the distributor is the map of its history: an id is looked up to the sender of the one
insertion that gave it and was not removed since, an insertion succeeds while fewer than
`MAXIMUM_CLIENTS` ids are live and gives the smallest that is not, no operation touches another id, and
every live id is written to the wire as it is. -/
theorem refines_map (cs : List (Call Tx)) {history : List (IdMap.Event Tx)} {d : Distributor Tx}
    (h : (default : Distributor Tx).calls cs = (history, d)) :
    IdMap.Path MAXIMUM_CLIENTS history d.toMap ∧
      (∀ id tx, d.getById id = some tx ↔ ∃ k, IdMap.Held history k id.toNat tx) ∧
      (∀ k k' i tx tx', IdMap.Held history k i tx → IdMap.Held history k' i tx' → k = k') ∧
      (∀ tx, (∃ id d', d.insert tx = .ok (id, d')) ↔
        (IdMap.live d.toMap).ncard < MAXIMUM_CLIENTS) ∧
      (∀ tx id d', d.insert tx = .ok (id, d') →
        IsLeast {i | i < MAXIMUM_CLIENTS ∧ i ∉ IdMap.live d.toMap} id.toNat ∧
          ∀ id', d'.getById id' = if id' = id then some tx else d.getById id') ∧
      (∀ tx e, d.insert tx = .error e → (d.call (.insert tx)).2 = d) ∧
      (∀ id id', (d.removeById id).2.getById id' = if id' = id then none else d.getById id') ∧
      ∀ id tx, d.getById id = some tx → id.toUInt16.toUInt64 = id := by
  have hpath := calls_path cs
  rw [h] at hpath
  refine ⟨hpath, fun id tx => hpath.get_iff _ _, fun k k' i tx tx' => hpath.held_unique,
    d.exists_insert_iff, fun tx id d' hins => ?_, fun tx e hins => ?_, fun id id' => ?_, fun id tx hg => ?_⟩
  · obtain ⟨hleast, hmap⟩ := insert_eq_ok_iff hins
    refine ⟨hleast, fun id' => ?_⟩
    rw [getById_eq, hmap, Function.update_apply]
    simp only [UInt64.toNat_inj]
    rfl
  · rw [call, hins]
  · rw [getById_eq, toMap_removeById, Function.update_apply]
    simp only [UInt64.toNat_inj]
    rfl
  · have hlt : id.toNat < MAXIMUM_CLIENTS := d.live_toMap (IdMap.mem_live.2 ⟨tx, hg⟩)
    rw [MAXIMUM_CLIENTS] at hlt
    apply UInt64.toNat_inj.1
    rw [UInt16.toNat_toUInt64, UInt64.toNat_toUInt16]
    omega

/-- A removed number is given out again. -/
theorem refines_map_reused :
    ∃ history d, (default : Distributor ℕ).calls [.insert 7, .insert 8, .removeById 0, .insert 9] = (history, d) ∧
      (d.getById 0 = some 9 ↔ ∃ k, IdMap.Held history k 0 9) ∧ d.getById 0 = some 9 :=
  ⟨_, _, rfl, (refines_map [.insert 7, .insert 8, .removeById 0, .insert 9] rfl).2.1 0 9, by decide +kernel⟩

end Distributor
end CraftIP
