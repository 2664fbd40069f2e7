import Mathlib.Data.List.Basic
import Mathlib.Data.List.Infix

/-!
# Decoders over a byte stream

A decoder looks at a buffer and either waits for more, stops for good, or takes one item off the
front. `drain` calls it until it waits or stops, `feedAll` does so after every chunk that arrives.
For a `Stable` decoder the cuts between the chunks do not matter (`feedAll_eq_drain`), and a decoder
that undoes an encoder (`Frames`) reads back a concatenation of frames (`drain_frames`) and, of a
cut concatenation, the frames that lie wholly before the cut (`drain_cut`).
-/

namespace StreamDecoder

/-- What a decoder says about a buffer, with the buffer it leaves. -/
inductive Verdict (ι β : Type) where
  | wait (rest : List β)
  | stop
  | item (i : ι) (rest : List β)

abbrev Decoder (ι β : Type) := List β → Verdict ι β

variable {ι β : Type}

/-- Waiting leaves the buffer alone, what is decided about a buffer stays decided when more bytes
arrive, and every item takes at least one byte. -/
structure Stable (d : Decoder ι β) : Prop where
  nil : d [] = .wait []
  wait_rest : ∀ {b r}, d b = .wait r → r = b
  item_append : ∀ {b i r}, d b = .item i r → ∀ s, d (b ++ s) = .item i (r ++ s)
  stop_append : ∀ {b}, d b = .stop → ∀ s, d (b ++ s) = .stop
  item_lt : ∀ {b i r}, d b = .item i r → r.length < b.length

def drainFuel (d : Decoder ι β) : Nat → List β → List ι × Option (List β)
  | 0, b => ([], some b)
  | n + 1, b =>
    match d b with
    | .wait r => ([], some r)
    | .stop => ([], none)
    | .item i r => (i :: (drainFuel d n r).1, (drainFuel d n r).2)

/-- Decode until the decoder waits (the leftover is returned) or stops (`none`). -/
def drain (d : Decoder ι β) (b : List β) : List ι × Option (List β) := drainFuel d (b.length + 1) b

/-- One chunk arrives: it is appended to the leftover, unless the decoder has stopped. -/
def feed (d : Decoder ι β) (st : Option (List β)) (c : List β) : List ι × Option (List β) :=
  match st with
  | none => ([], none)
  | some b => drain d (b ++ c)

def feedAll (d : Decoder ι β) : Option (List β) → List (List β) → List ι × Option (List β)
  | st, [] => ([], st)
  | st, c :: cs => ((feed d st c).1 ++ (feedAll d (feed d st c).2 cs).1, (feedAll d (feed d st c).2 cs).2)

theorem drainFuel_eq_of_lt {d : Decoder ι β} (hd : Stable d) (n m : Nat) (b : List β)
    (hn : b.length < n) (hm : b.length < m) : drainFuel d n b = drainFuel d m b := by
  induction n generalizing m b with
  | zero => omega
  | succ n ih =>
    obtain ⟨m, rfl⟩ : ∃ k, m = k + 1 := ⟨m - 1, by omega⟩
    simp only [drainFuel]
    cases h : d b with
    | wait r => rfl
    | stop => rfl
    | item i r =>
      have hr := hd.item_lt h
      simp only [ih m r (by omega) (by omega)]

theorem drain_wait {d : Decoder ι β} {b r : List β} (h : d b = .wait r) : drain d b = ([], some r) := by
  simp [drain, drainFuel, h]

theorem drain_stop {d : Decoder ι β} {b : List β} (h : d b = .stop) : drain d b = ([], none) := by
  simp [drain, drainFuel, h]

theorem drain_item {d : Decoder ι β} (hd : Stable d) {b : List β} {i : ι} {r : List β}
    (h : d b = .item i r) : drain d b = (i :: (drain d r).1, (drain d r).2) := by
  have hr := hd.item_lt h
  simp only [drain]
  rw [drainFuel, h]
  simp only [drainFuel_eq_of_lt hd b.length (r.length + 1) r hr (by omega)]

/-- A buffer on which the decoder has come to rest only waits. -/
theorem drain_leftover_waits {d : Decoder ι β} (hd : Stable d) (b : List β) {l : List β}
    (h : (drain d b).2 = some l) : d l = .wait l := by
  induction hn : b.length using Nat.strongRecOn generalizing b with
  | ind n ih =>
    cases hb : d b with
    | wait r =>
      obtain rfl := hd.wait_rest hb
      rw [drain_wait hb] at h; cases h; exact hb
    | stop => rw [drain_stop hb] at h; cases h
    | item i r =>
      rw [drain_item hd hb] at h
      exact ih r.length (hn ▸ hd.item_lt hb) r h rfl

/-- Draining in two steps is draining at once. -/
theorem drain_append {d : Decoder ι β} (hd : Stable d) (b c : List β) :
    drain d (b ++ c) = ((drain d b).1 ++ (feed d (drain d b).2 c).1, (feed d (drain d b).2 c).2) := by
  induction hn : b.length using Nat.strongRecOn generalizing b with
  | ind n ih =>
    cases hb : d b with
    | wait r => obtain rfl := hd.wait_rest hb; simp [drain_wait hb, feed]
    | stop => rw [drain_stop hb, drain_stop (hd.stop_append hb c)]; simp [feed]
    | item i r =>
      rw [drain_item hd hb, drain_item hd (hd.item_append hb c),
        ih r.length (hn ▸ hd.item_lt hb) r rfl]
      rfl

theorem feedAll_none (d : Decoder ι β) (cs : List (List β)) : feedAll d none cs = ([], none) := by
  induction cs with
  | nil => rfl
  | cons c cs ih => simp [feedAll, feed, ih]

/-- However the stream is cut into chunks, the items and the outcome are those of the whole. -/
theorem feedAll_eq_drain {d : Decoder ι β} (hd : Stable d) (b : List β) (hb : d b = .wait b)
    (cs : List (List β)) : feedAll d (some b) cs = drain d (b ++ cs.flatten) := by
  induction cs generalizing b with
  | nil => simp [feedAll, drain_wait hb]
  | cons c cs ih =>
    rw [List.flatten_cons, ← List.append_assoc, drain_append hd (b ++ c)]
    simp only [feedAll, feed]
    cases h : (drain d (b ++ c)).2 with
    | none => rw [feedAll_none]
    | some l => rw [ih l (drain_leftover_waits hd _ h)]

/-! ### Frames -/

/-- `enc` writes frames that `d` reads back: a whole frame gives its item whatever follows, a part
of one makes `d` wait. -/
structure Frames (d : Decoder ι β) (enc : ι → List β) (P : ι → Prop) : Prop where
  whole : ∀ {i}, P i → ∀ rest, d (enc i ++ rest) = .item i rest
  part : ∀ {i}, P i → ∀ {p}, p <+: enc i → p ≠ enc i → d p = .wait p

/-- The leading items of `is` whose frames fit into `n` bytes together. -/
def fitting (enc : ι → List β) : List ι → Nat → List ι
  | [], _ => []
  | i :: is, n => if (enc i).length ≤ n then i :: fitting enc is (n - (enc i).length) else []

theorem append_cases_of_isPrefix {p a b : List β} (h : p <+: a ++ b) :
    p <+: a ∨ ∃ q, p = a ++ q ∧ q <+: b := by
  obtain ⟨t, ht⟩ := h
  rcases List.append_eq_append_iff.1 ht with ⟨u, ha, -⟩ | ⟨u, hp, hb⟩
  · exact .inl ⟨u, ha.symm⟩
  · exact .inr ⟨u, hp, ⟨t, hb.symm⟩⟩

theorem drain_frames {d : Decoder ι β} (hd : Stable d) {enc : ι → List β} {P : ι → Prop}
    (hf : Frames d enc P) (is : List ι) (hP : ∀ i ∈ is, P i) :
    drain d (is.map enc).flatten = (is, some []) := by
  induction is with
  | nil => exact drain_wait hd.nil
  | cons i is ih =>
    rw [List.map_cons, List.flatten_cons, drain_item hd (hf.whole (hP i (by simp)) _),
      ih fun j hj => hP j (by simp [hj])]

/-- Of a concatenation cut anywhere, the frames that lie wholly before the cut are read, and the
decoder waits for the rest. -/
theorem drain_cut {d : Decoder ι β} (hd : Stable d) {enc : ι → List β} {P : ι → Prop}
    (hf : Frames d enc P) (is : List ι) (hP : ∀ i ∈ is, P i) {p : List β}
    (hp : p <+: (is.map enc).flatten) :
    (drain d p).1 = fitting enc is p.length ∧ ∃ l, (drain d p).2 = some l := by
  induction is generalizing p with
  | nil =>
    obtain rfl : p = [] := by simpa using hp
    rw [drain_wait hd.nil]
    exact ⟨rfl, _, rfl⟩
  | cons i is ih =>
    rw [List.map_cons, List.flatten_cons] at hp
    have hi := hP i (by simp)
    rcases append_cases_of_isPrefix hp with hpi | ⟨q, rfl, hq⟩
    · by_cases he : p = enc i
      · have hw := hf.whole hi []
        rw [List.append_nil] at hw
        subst he
        obtain ⟨h1, h2⟩ := ih (fun j hj => hP j (by simp [hj])) (p := []) (List.nil_prefix)
        rw [drain_item hd hw, h1, fitting, if_pos (Nat.le_refl _), Nat.sub_self]
        exact ⟨rfl, h2⟩
      · have hlt : p.length < (enc i).length :=
          Nat.lt_of_le_of_ne hpi.length_le fun h => he (hpi.eq_of_length h)
        rw [drain_wait (hf.part hi hpi he), fitting, if_neg (by omega)]
        exact ⟨rfl, _, rfl⟩
    · obtain ⟨h1, h2⟩ := ih (fun j hj => hP j (by simp [hj])) hq
      rw [drain_item hd (hf.whole hi q), h1, fitting, List.length_append,
        if_pos (Nat.le_add_right _ _), Nat.add_sub_cancel_left]
      exact ⟨rfl, h2⟩

end StreamDecoder
