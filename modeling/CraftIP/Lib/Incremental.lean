import CraftIP.Lib.ByteBuf

/-!
# Incremental parsers

A parser reads off the front of a buffer that may still grow. It ends with a value and the cursor
behind it, with an error, with a panic, or it waits for more input (`ok none`). `Runs W X p c` says of
the run of `p` from `c` that whatever it decides stays decided when more input arrives, that it waits
only where `W` holds and panics only where `X` holds; there is a rule for each way to build a parser.
-/

namespace Incremental

/-- The position in the buffer and the input from there on. -/
structure Cursor (β : Type) where
  position : Nat
  rest : List β
deriving DecidableEq, Repr

def Parser (β ε α : Type) : Type := Cursor β → Outcome ε (Option (α × Cursor β))

variable {β ε α γ : Type}

def Cursor.new (buf : List β) : Cursor β := ⟨0, buf⟩

/-- The cursor when `s` has arrived behind the buffer. -/
def Cursor.append (c : Cursor β) (s : List β) : Cursor β := ⟨c.position, c.rest ++ s⟩

namespace Parser

instance : Monad (Parser β ε) where
  pure a := fun c => .ok (some (a, c))
  bind p f := fun c =>
    match p c with
    | .ok (some (a, c)) => f a c
    | .ok none => .ok none
    | .err e => .err e
    | .panic => .panic

def incomplete : Parser β ε α := fun _ => .ok none
def fail (e : ε) : Parser β ε α := fun _ => .err e

/-- The value of a checked operation. -/
def checked (o : Option α) : Parser β ε α := fun c =>
  match o with
  | some a => .ok (some (a, c))
  | none => .panic

def remaining : Parser β ε Nat := fun c => .ok (some (c.rest.length, c))
def position : Parser β ε Nat := fun c => .ok (some (c.position, c))

/-- Waits unless `n` more are there. -/
def need (n : Nat) : Parser β ε Unit := do
  if (← remaining) < n then incomplete

/-- Skips `n`; panics when there are fewer. -/
def skip (n : Nat) : Parser β ε Unit := fun c =>
  if n ≤ c.rest.length then .ok (some ((), ⟨c.position + n, c.rest.drop n⟩)) else .panic

/-- The buffer from the position up to `stop`, without a move; panics when that is out of bounds. -/
def slice (stop : Nat) : Parser β ε (List β) := fun c =>
  if c.position ≤ stop ∧ stop ≤ c.position + c.rest.length then
    .ok (some (c.rest.take (stop - c.position), c))
  else .panic

/-- What stands at `i` in the buffer, at the position or behind it; panics when that is out of bounds. -/
def index (i : Nat) : Parser β ε β := fun c =>
  match c.rest[i - c.position]? with
  | some b => .ok (some (b, c))
  | none => .panic

end Parser

/-- From `c` to `c'` the input `w` was read. -/
structure Reads (c : Cursor β) (w : List β) (c' : Cursor β) : Prop where
  rest : c.rest = w ++ c'.rest
  position : c'.position = c.position + w.length

namespace Reads
variable {c c' c'' : Cursor β} {v w : List β}

theorem refl (c : Cursor β) : Reads c [] c := ⟨rfl, rfl⟩

theorem trans (h : Reads c v c') (h' : Reads c' w c'') : Reads c (v ++ w) c'' where
  rest := by rw [h.rest, h'.rest, List.append_assoc]
  position := by rw [h'.position, h.position, List.length_append, Nat.add_assoc]

theorem cons {i : Nat} {b : β} {s : List β} (h : Reads ⟨i + 1, s⟩ w c') :
    Reads ⟨i, b :: s⟩ (b :: w) c' where
  rest := congrArg (b :: ·) h.rest
  position := by rw [h.position, List.length_cons, Nat.add_assoc, Nat.add_comm 1]

theorem length_rest (h : Reads c w c') : c.rest.length = w.length + c'.rest.length := by
  rw [h.rest, List.length_append]

end Reads

namespace Parser

/-! ### Running the parts -/

theorem bind_apply (p : Parser β ε α) (f : α → Parser β ε γ) (c : Cursor β) :
    (p >>= f) c = match p c with
      | .ok (some (a, c)) => f a c
      | .ok none => .ok none
      | .err e => .err e
      | .panic => .panic := rfl

theorem bind_some {p : Parser β ε α} {f : α → Parser β ε γ} {c c' : Cursor β} {a : α}
    (h : p c = .ok (some (a, c'))) : (p >>= f) c = f a c' := by rw [bind_apply, h]

theorem bind_none {p : Parser β ε α} {f : α → Parser β ε γ} {c : Cursor β}
    (h : p c = .ok none) : (p >>= f) c = .ok none := by rw [bind_apply, h]

theorem bind_eq_ok {p : Parser β ε α} {f : α → Parser β ε γ} {c c'' : Cursor β} {b : γ} :
    (p >>= f) c = .ok (some (b, c'')) ↔
      ∃ a c', p c = .ok (some (a, c')) ∧ f a c' = .ok (some (b, c'')) := by
  rw [bind_apply]
  constructor
  · intro h
    split at h
    · next a c' hp => exact ⟨a, c', hp, h⟩
    · cases h
    · cases h
    · cases h
  · rintro ⟨a, c', hp, hf⟩
    rw [hp]
    exact hf

@[simp] theorem pure_apply (a : α) (c : Cursor β) :
    (pure a : Parser β ε α) c = .ok (some (a, c)) := rfl

theorem pure_eq_ok {a b : α} {c c' : Cursor β} :
    (pure a : Parser β ε α) c = .ok (some (b, c')) ↔ b = a ∧ c' = c := by
  rw [pure_apply]
  constructor
  · intro h
    cases h
    exact ⟨rfl, rfl⟩
  · rintro ⟨rfl, rfl⟩
    rfl

@[simp] theorem remaining_apply (c : Cursor β) :
    (remaining : Parser β ε Nat) c = .ok (some (c.rest.length, c)) := rfl

theorem position_apply (c : Cursor β) :
    (position : Parser β ε Nat) c = .ok (some (c.position, c)) := rfl

theorem position_eq_ok {i : Nat} {c c' : Cursor β}
    (h : (position : Parser β ε Nat) c = .ok (some (i, c'))) : i = c.position ∧ c' = c := by
  cases h
  exact ⟨rfl, rfl⟩

theorem need_apply {n : Nat} {c : Cursor β} (h : n ≤ c.rest.length) :
    (need n : Parser β ε Unit) c = .ok (some ((), c)) := by
  rw [need, bind_some (remaining_apply c), if_neg (by omega)]; rfl

theorem need_short {n : Nat} {c : Cursor β} (h : c.rest.length < n) :
    (need n : Parser β ε Unit) c = .ok none := by
  rw [need, bind_some (remaining_apply c), if_pos h]; rfl

theorem need_eq_ok {n : Nat} {c c' : Cursor β} {u : Unit}
    (h : (need n : Parser β ε Unit) c = .ok (some (u, c'))) : n ≤ c.rest.length ∧ c' = c := by
  by_cases hn : n ≤ c.rest.length
  · rw [need_apply hn] at h
    cases h
    exact ⟨hn, rfl⟩
  · rw [need_short (by omega)] at h
    cases h

theorem need_bind_eq_ok {n : Nat} {f : Unit → Parser β ε γ} {c c'' : Cursor β} {b : γ}
    (h : (need n >>= f) c = .ok (some (b, c''))) : n ≤ c.rest.length ∧ f () c = .ok (some (b, c'')) := by
  obtain ⟨_, c', hn, hf⟩ := bind_eq_ok.1 h
  obtain ⟨hle, rfl⟩ := need_eq_ok hn
  exact ⟨hle, hf⟩

/-- The test with `<=` asks for one more. -/
theorem remaining_le (n : Nat) (k : Parser β ε α) :
    (do if (← remaining) ≤ n then incomplete else k) = (do need (n + 1); k) := by
  funext c
  rw [bind_some (remaining_apply c)]
  by_cases h : c.rest.length ≤ n
  · rw [if_pos h, bind_none (need_short (by omega))]
    rfl
  · rw [if_neg h, bind_some (need_apply (by omega))]

theorem checked_some_bind (a : α) (f : α → Parser β ε γ) : (checked (some a) >>= f) = f a := rfl

theorem checked_eq_ok {o : Option α} {a : α} {c c' : Cursor β}
    (h : (checked o : Parser β ε α) c = .ok (some (a, c'))) : o = some a ∧ c' = c := by
  rcases o with _ | b
  · cases h
  · cases h
    exact ⟨rfl, rfl⟩

theorem skip_eq_ok {n : Nat} {c c' : Cursor β} {u : Unit}
    (h : (skip n : Parser β ε Unit) c = .ok (some (u, c'))) : Reads c (c.rest.take n) c' := by
  rw [skip] at h
  split at h
  · next hn =>
    cases h
    exact ⟨(List.take_append_drop n c.rest).symm, by rw [List.length_take_of_le hn]⟩
  · cases h

theorem slice_eq_ok {stop : Nat} {c c' : Cursor β} {w : List β}
    (h : (slice stop : Parser β ε (List β)) c = .ok (some (w, c'))) :
    w = c.rest.take (stop - c.position) ∧ c' = c := by
  rw [slice] at h
  split at h
  · cases h
    exact ⟨rfl, rfl⟩
  · cases h

theorem skip_append (i : Nat) (w s : List β) :
    (skip w.length : Parser β ε Unit) ⟨i, w ++ s⟩ = .ok (some ((), ⟨i + w.length, s⟩)) := by
  rw [skip, if_pos (by simp), List.drop_left]

theorem slice_append (i : Nat) (w s : List β) :
    (slice (i + w.length) : Parser β ε (List β)) ⟨i, w ++ s⟩ = .ok (some (w, ⟨i, w ++ s⟩)) := by
  have hi : i ≤ i + w.length ∧ i + w.length ≤ i + (w ++ s).length := by
    rw [List.length_append]; omega
  rw [slice, if_pos hi]
  simp

theorem index_append (i : Nat) (v : List β) (b : β) (s : List β) :
    (index (i + v.length) : Parser β ε β) ⟨i, v ++ b :: s⟩ = .ok (some (b, ⟨i, v ++ b :: s⟩)) := by
  rw [index]
  simp

end Parser

/-! ### What stays when more input arrives -/

/-- The same end with `s` behind the cursor. -/
def extend (s : List β) : Outcome ε (Option (α × Cursor β)) → Outcome ε (Option (α × Cursor β))
  | .ok (some (a, c)) => .ok (some (a, c.append s))
  | r => r

/-- The run of `p` from `c`: what it decides stays decided when more input arrives, it waits only where
`W` holds and panics only where `X` holds. -/
structure Runs (W X : Prop) (p : Parser β ε α) (c : Cursor β) : Prop where
  stable : p c ≠ .ok none → ∀ s, p (c.append s) = extend s (p c)
  wait : p c = .ok none → W
  panic : p c = .panic → X

namespace Runs
open Incremental.Parser
variable {W X : Prop} {p : Parser β ε α} {c : Cursor β}

/-- A run that gives a value, with any input behind it. -/
theorem of_ok {a : α} {d : Cursor β} (h : p c = .ok (some (a, d)))
    (hs : ∀ s, p (c.append s) = .ok (some (a, d.append s))) : Runs W X p c where
  stable _ s := by rw [h, hs s]; rfl
  wait hw := by rw [h] at hw; cases hw
  panic hp := by rw [h] at hp; cases hp

theorem pure (a : α) (c : Cursor β) : Runs W X (pure a : Parser β ε α) c := of_ok rfl fun _ => rfl

theorem fail (e : ε) (c : Cursor β) : Runs W X (fail e : Parser β ε α) c where
  stable _ _ := rfl
  wait h := by cases h
  panic h := by cases h

theorem position (c : Cursor β) : Runs W X (position : Parser β ε Nat) c := of_ok rfl fun _ => rfl

theorem checked {o : Option α} (h : o = none → X) (c : Cursor β) :
    Runs W X (checked o : Parser β ε α) c where
  stable _ _ := by rcases o <;> rfl
  wait hw := by rcases o <;> cases hw
  panic hp := by
    rcases o with _ | a
    · exact h rfl
    · cases hp

theorem need {n : Nat} (h : c.rest.length < n → W) : Runs W X (need n : Parser β ε Unit) c := by
  by_cases hn : n ≤ c.rest.length
  · exact of_ok (need_apply hn) fun s =>
      need_apply (c := c.append s) (by simp only [Cursor.append, List.length_append]; omega)
  · have hw : (Parser.need n : Parser β ε Unit) c = .ok none := need_short (by omega)
    exact ⟨fun hne => absurd hw hne, fun _ => h (by omega), fun hp => by rw [hw] at hp; cases hp⟩

/-- The rule for `bind`: the rest is run from wherever the first part can end. -/
theorem bind {f : α → Parser β ε γ} (hp : Runs W X p c)
    (hf : ∀ a c', p c = .ok (some (a, c')) → Runs W X (f a) c') : Runs W X (p >>= f) c := by
  have hst := hp.stable
  have hwt := hp.wait
  have hpn := hp.panic
  rcases h : p c with (_ | ⟨a, c'⟩) | e | _
  · have hb : (p >>= f) c = .ok none := bind_none h
    exact ⟨fun hne => absurd hb hne, fun _ => hwt h, fun hp => by rw [hb] at hp; cases hp⟩
  · have hb : (p >>= f) c = f a c' := bind_some h
    have hr := hf a c' h
    refine ⟨fun hne s => ?_, fun hw => hr.wait (hb ▸ hw), fun hp => hr.panic (hb ▸ hp)⟩
    have hs : p (c.append s) = extend s (p c) := hst (by rw [h]; intro h; cases h) s
    rw [h] at hs
    rw [bind_some hs, hb]
    exact hr.stable (hb ▸ hne) s
  · have hb : (p >>= f) c = .err e := by rw [bind_apply, h]
    refine ⟨fun _ s => ?_, fun hw => ?_, fun hp => ?_⟩
    · have hs : p (c.append s) = extend s (p c) := hst (by rw [h]; intro h; cases h) s
      rw [h] at hs
      rw [bind_apply, hs, hb]
      rfl
    · rw [hb] at hw
      cases hw
    · rw [hb] at hp
      cases hp
  · have hb : (p >>= f) c = .panic := by rw [bind_apply, h]
    refine ⟨fun _ s => ?_, fun hw => ?_, fun _ => hpn h⟩
    · have hs : p (c.append s) = extend s (p c) := hst (by rw [h]; intro h; cases h) s
      rw [h] at hs
      rw [bind_apply, hs, hb]
      rfl
    · rw [hb] at hw
      cases hw

/-- Behind `need` the bytes are there. -/
theorem need_bind {n : Nat} {f : Unit → Parser β ε γ} (h : c.rest.length < n → W)
    (hf : n ≤ c.rest.length → Runs W X (f ()) c) : Runs W X (Parser.need n >>= f) c := by
  refine .bind (.need h) fun _ c' hn => ?_
  obtain ⟨hle, rfl⟩ := need_eq_ok hn
  exact hf hle

theorem ite {P : Prop} [Decidable P] {q : Parser β ε α} (hp : P → Runs W X p c)
    (hq : ¬P → Runs W X q c) : Runs W X (if P then p else q) c := by
  split
  · next h => exact hp h
  · next h => exact hq h

theorem slice {stop : Nat} (h : c.position ≤ stop) (h' : stop ≤ c.position + c.rest.length) :
    Runs W X (slice stop : Parser β ε (List β)) c := by
  refine of_ok (a := c.rest.take (stop - c.position)) (d := c) (by rw [Parser.slice, if_pos ⟨h, h'⟩])
    fun s => ?_
  have hle : stop ≤ c.position + (c.rest ++ s).length := by rw [List.length_append]; omega
  have hlen : stop - c.position ≤ c.rest.length := by omega
  rw [Parser.slice, Cursor.append, if_pos ⟨h, hle⟩, List.take_append_of_le_length hlen]

theorem skip {n : Nat} (h : n ≤ c.rest.length) : Runs W X (skip n : Parser β ε Unit) c := by
  refine of_ok (a := ()) (d := ⟨c.position + n, c.rest.drop n⟩) (by rw [Parser.skip, if_pos h])
    fun s => ?_
  have hle : n ≤ (c.rest ++ s).length := by rw [List.length_append]; omega
  rw [Parser.skip, Cursor.append, if_pos hle, List.drop_append_of_le_length h]
  rfl

end Runs

/-! ### Functions of a growing buffer -/

/-- The same of a function of the whole buffer: it keeps what it decides, waits only on buffers in `W`
and panics only on buffers in `X`. -/
structure Decides (W X : List β → Prop) (f : List β → Outcome ε (Option α)) : Prop where
  stable : ∀ {b}, f b ≠ .ok none → ∀ s, f (b ++ s) = f b
  wait : ∀ {b}, f b = .ok none → W b
  panic : ∀ {b}, f b = .panic → X b

namespace Decides
variable {W X : List β → Prop} {f : List β → Outcome ε (Option α)}

theorem eq_of_prefix (hf : Decides W X f) {b d : List β} (hp : b <+: d) (hb : f b ≠ .ok none) :
    f d = f b := by
  obtain ⟨s, rfl⟩ := hp
  exact hf.stable hb s

/-- An accepted item that is accepted by itself: every shorter beginning waits. -/
theorem wait_of_shorter (hf : Decides W X f) {b : List β} {a : α} {n : Nat}
    (hb : f b = .ok (some a)) (hlen : ∀ d, f d = .ok (some a) → n ≤ d.length) {k : Nat} (hk : k < n) :
    f (b.take k) = .ok none := by
  by_contra hne
  have he := hf.eq_of_prefix (List.take_prefix k b) hne
  have hle := hlen _ (he.symm.trans hb)
  rw [List.length_take] at hle
  omega

end Decides
end Incremental
