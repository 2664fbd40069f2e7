import Mathlib.Data.List.Basic

/-!
# Buffered writers

A file takes elements by calls that write some of them or fail, as given for each call. A `BufWriter` collects
what is written to it, writes its buffer to the file when the next piece does not fit, and tries to write the
rest when it is dropped, where an error is lost. What comes to the file are the `blocks` of the pieces: a run of
writes succeeds if and only if they can be written one after the other (`BufWriter.writeChunks_cases`).
-/

/-- What was written, and the number of calls so far. -/
structure File (α : Type) where
  content : List α
  calls : Nat
deriving DecidableEq, Repr

namespace File
variable {α : Type} (results : Nat → Except String Nat)

def empty : File α := ⟨[], 0⟩

/-- A call: how many elements were written, or an error. -/
def write (f : File α) (buf : List α) : Except String Nat × File α :=
  match results f.calls with
  | .ok n => (.ok (min n buf.length), ⟨f.content ++ buf.take n, f.calls + 1⟩)
  | .error e => (.error e, ⟨f.content, f.calls + 1⟩)

/-- At most `n` calls; what they left of the elements. A call that writes nothing is the error `zero`, an
interrupted call is made again and does not count. -/
def writeLoop (zero : String) : Nat → File α → List α → Except String Unit × List α × File α
  | 0, f, buf => (.ok (), buf, f)
  | n + 1, f, buf =>
    if buf.isEmpty then (.ok (), buf, f)
    else
      match f.write results buf with
      | (.error e, f) => (.error e, buf, f)
      | (.ok k, f) => if k = 0 then (.error zero, buf, f) else writeLoop zero n f (buf.drop k)

/-- `write_all`: a call for each element is enough. -/
def writeAll (f : File α) (buf : List α) : Except String Unit × List α × File α :=
  f.writeLoop results "failed to write whole buffer" buf.length buf

def writeBlocks : File α → List (List α) → Except String Unit × File α
  | f, [] => (.ok (), f)
  | f, block :: blocks =>
    match f.writeAll results block with
    | (.error e, _, f) => (.error e, f)
    | (.ok (), _, f) => f.writeBlocks blocks

/-- The call writes nothing, or fails. -/
def Fails (i : Nat) : Prop := ∀ n, results i = .ok n → n = 0

/-- From `f` to `f'` the elements were written, and no call failed. -/
structure Writes (f : File α) (buf : List α) (f' : File α) : Prop where
  content : f'.content = f.content ++ buf
  calls_le : f.calls ≤ f'.calls
  succeeds : ∀ i, f.calls ≤ i → i < f'.calls → ¬ Fails results i

/-- From `f` to `f'` some of the elements were not written, and a call failed. -/
structure Breaks (f : File α) (buf : List α) (f' : File α) : Prop where
  content : f'.content.length < (f.content ++ buf).length
  fails : ∃ i, f.calls ≤ i ∧ i < f'.calls ∧ Fails results i

variable {results}

namespace Writes
variable {f f' f'' : File α} {a b : List α}

theorem refl (f : File α) : Writes results f [] f where
  content := (List.append_nil _).symm
  calls_le := Nat.le_refl _
  succeeds i h h' := by omega

theorem trans (h : Writes results f a f') (h' : Writes results f' b f'') : Writes results f (a ++ b) f'' where
  content := by rw [h'.content, h.content, List.append_assoc]
  calls_le := Nat.le_trans h.calls_le h'.calls_le
  succeeds i hle hlt := by
    by_cases hi : i < f'.calls
    · exact h.succeeds i hle hi
    · exact h'.succeeds i (by omega) hlt

theorem breaks (h : Writes results f a f') (h' : Breaks results f' b f'') : Breaks results f (a ++ b) f'' where
  content := by
    have hlt := h'.content
    rwa [h.content, List.append_assoc] at hlt
  fails := by
    obtain ⟨i, hle, hlt, hi⟩ := h'.fails
    exact ⟨i, Nat.le_trans h.calls_le hle, hlt, hi⟩

/-- One call that writes something. -/
theorem call {n : Nat} (hr : results f.calls = .ok n) (hn : n ≠ 0) (buf : List α) :
    Writes results f (buf.take n) ⟨f.content ++ buf.take n, f.calls + 1⟩ where
  content := rfl
  calls_le := Nat.le_succ _
  succeeds i hle hlt hi := by
    obtain rfl : i = f.calls := Nat.le_antisymm (Nat.le_of_lt_succ hlt) hle
    exact hn (hi n hr)

end Writes

theorem Breaks.call {f : File α} {buf : List α} (hf : Fails results f.calls) (hbuf : buf ≠ []) :
    Breaks results f buf ⟨f.content, f.calls + 1⟩ where
  content := by
    have hpos := List.length_pos_iff.2 hbuf
    rw [List.length_append]
    exact Nat.lt_add_of_pos_right hpos
  fails := ⟨f.calls, Nat.le_refl _, Nat.lt_succ_self _, hf⟩

/-- A loop with calls enough writes everything or breaks off. -/
theorem writeLoop_cases (zero : String) {n : Nat} {f : File α} {buf : List α} (hn : buf.length ≤ n) :
    (∃ f', f.writeLoop results zero n buf = (.ok (), [], f') ∧ Writes results f buf f') ∨
    ∃ e left f', f.writeLoop results zero n buf = (.error e, left, f') ∧ Breaks results f buf f' := by
  induction n generalizing f buf with
  | zero =>
    obtain rfl := List.eq_nil_of_length_eq_zero (Nat.le_zero.1 hn)
    exact .inl ⟨f, rfl, .refl f⟩
  | succ n ih =>
    rw [writeLoop]
    by_cases hbuf : buf = []
    · subst hbuf
      exact .inl ⟨f, rfl, .refl f⟩
    · have hpos := List.length_pos_iff.2 hbuf
      rw [if_neg (by simpa using hbuf), write]
      cases hr : results f.calls with
      | error e => exact .inr ⟨e, buf, _, rfl, .call (fun k hk => by rw [hr] at hk; cases hk) hbuf⟩
      | ok k =>
        by_cases hk : k = 0
        · subst hk
          simp only [Nat.zero_min, if_true, List.take_zero, List.append_nil]
          exact .inr ⟨_, buf, _, rfl, .call (fun m hm => by rw [hr] at hm; cases hm; rfl) hbuf⟩
        · have hcall := Writes.call hr hk buf
          simp only
          rw [if_neg (by omega), ← List.drop_eq_drop_min]
          rcases @ih ⟨f.content ++ buf.take k, f.calls + 1⟩ (buf.drop k) (by rw [List.length_drop]; omega) with
            ⟨f', hloop, hw⟩ | ⟨e, left, f', hloop, hb⟩
          · refine .inl ⟨f', hloop, ?_⟩
            have htrans := hcall.trans hw
            rwa [List.take_append_drop] at htrans
          · refine .inr ⟨e, left, f', hloop, ?_⟩
            have hbreaks := hcall.breaks hb
            rwa [List.take_append_drop] at hbreaks

theorem writeAll_cases (f : File α) (buf : List α) :
    (∃ f', f.writeAll results buf = (.ok (), [], f') ∧ Writes results f buf f') ∨
    ∃ e left f', f.writeAll results buf = (.error e, left, f') ∧ Breaks results f buf f' :=
  writeLoop_cases _ (Nat.le_refl _)

/-- Only the text of the error depends on `zero`. -/
theorem writeLoop_zero (zero zero' : String) (n : Nat) (f : File α) (buf : List α) :
    (f.writeLoop results zero n buf).2 = (f.writeLoop results zero' n buf).2 ∧
      ((f.writeLoop results zero n buf).1 = .ok () ↔ (f.writeLoop results zero' n buf).1 = .ok ()) := by
  induction n generalizing f buf with
  | zero => exact ⟨rfl, Iff.rfl⟩
  | succ n ih =>
    rw [writeLoop, writeLoop]
    by_cases hbuf : buf.isEmpty
    · rw [if_pos hbuf, if_pos hbuf]
      exact ⟨rfl, Iff.rfl⟩
    · rw [if_neg hbuf, if_neg hbuf]
      rcases f.write results buf with ⟨_ | k, f'⟩
      · exact ⟨rfl, Iff.rfl⟩
      · by_cases hk : k = 0
        · subst hk
          exact ⟨rfl, iff_of_false (fun h => by cases h) fun h => by cases h⟩
        · simp only [if_neg hk]
          exact ih f' (buf.drop k)

theorem writeBlocks_eq_ok {f f' : File α} {blocks : List (List α)} (h : f.writeBlocks results blocks = (.ok (), f')) :
    Writes results f blocks.flatten f' := by
  induction blocks generalizing f with
  | nil => cases h; exact .refl f'
  | cons block blocks ih =>
    rw [writeBlocks] at h
    rcases @writeAll_cases _ results f block with ⟨f₁, hblock, hw⟩ | ⟨e, left, f₁, hblock, -⟩
    · rw [hblock] at h
      exact hw.trans (ih h)
    · rw [hblock] at h
      cases h

theorem writeAll_of_not_fails (h : ∀ i, ¬ Fails results i) (f : File α) (buf : List α) :
    ∃ f', f.writeAll results buf = (.ok (), [], f') := by
  rcases @writeAll_cases _ results f buf with ⟨f', hwrite, -⟩ | ⟨e, left, f', -, hb⟩
  · exact ⟨f', hwrite⟩
  · obtain ⟨i, -, -, hi⟩ := hb.fails
    exact absurd hi (h i)

theorem writeBlocks_of_not_fails (h : ∀ i, ¬ Fails results i) (f : File α) (blocks : List (List α)) :
    ∃ f', f.writeBlocks results blocks = (.ok (), f') := by
  induction blocks generalizing f with
  | nil => exact ⟨f, rfl⟩
  | cons block blocks ih =>
    obtain ⟨f₁, hwrite⟩ := writeAll_of_not_fails h f block
    rw [writeBlocks, hwrite]
    exact ih f₁

theorem writeBlocks_append (f : File α) (a b : List (List α)) :
    f.writeBlocks results (a ++ b) =
      match f.writeBlocks results a with
      | (.ok (), f) => f.writeBlocks results b
      | (.error e, f) => (.error e, f) := by
  induction a generalizing f with
  | nil => rfl
  | cons block a ih =>
    rw [List.cons_append, writeBlocks, writeBlocks]
    rcases f.writeAll results block with ⟨_ | _, left, f'⟩
    · rfl
    · exact ih f'

end File

/-- A file, and what was written but is not in the file yet. -/
structure BufWriter (α : Type) where
  inner : File α
  buf : List α
deriving DecidableEq, Repr

namespace BufWriter
variable {α : Type} (capacity : Nat) (results : Nat → Except String Nat)

def new (inner : File α) : BufWriter α := ⟨inner, []⟩

def flushBuf (w : BufWriter α) : Except String Unit × BufWriter α :=
  match w.inner.writeLoop results "failed to write the buffered data" w.buf.length w.buf with
  | (r, left, inner) => (r, ⟨inner, left⟩)

/-- The piece goes to the file itself. -/
def writeInner (w : BufWriter α) (data : List α) : Except String Unit × BufWriter α :=
  match w.inner.writeAll results data with
  | (r, _, inner) => (r, { w with inner })

/-- `write_all`: a piece that fits is put in the buffer. Else the buffer is written, if the piece does not fill it
exactly, and a piece that is no smaller than a whole buffer goes to the file itself. -/
def writeAll (w : BufWriter α) (data : List α) : Except String Unit × BufWriter α :=
  if data.length < capacity - w.buf.length then (.ok (), { w with buf := w.buf ++ data })
  else
    match (if capacity - w.buf.length < data.length then w.flushBuf results else (.ok (), w)) with
    | (.error e, w) => (.error e, w)
    | (.ok (), w) =>
      if capacity ≤ data.length then w.writeInner results data
      else (.ok (), { w with buf := w.buf ++ data })

/-- `drop`: the error of the flush is lost. -/
def drop (w : BufWriter α) : File α := (w.flushBuf results).2.inner

def writeChunks (w : BufWriter α) : List (List α) → Except String Unit × BufWriter α
  | [] => (.ok (), w)
  | data :: chunks =>
    match w.writeAll capacity results data with
    | (.error e, w) => (.error e, w)
    | (.ok (), w) => w.writeChunks chunks

/-! ### What comes to the file -/

/-- The blocks that go to the file when a piece is written, and what is in the buffer then. -/
def sends (buf data : List α) : List (List α) × List α :=
  if data.length < capacity - buf.length then ([], buf ++ data)
  else
    let flushed := if capacity - buf.length < data.length then ([buf], []) else ([], buf)
    if capacity ≤ data.length then (flushed.1 ++ [data], flushed.2) else (flushed.1, flushed.2 ++ data)

/-- The blocks that go to the file while pieces are written, and what is in the buffer then. -/
def blocks (buf : List α) : List (List α) → List (List α) × List α
  | [] => ([], buf)
  | data :: chunks =>
    ((sends capacity buf data).1 ++ (blocks (sends capacity buf data).2 chunks).1,
      (blocks (sends capacity buf data).2 chunks).2)

variable {capacity results}

/-- Nothing is lost or moved on the way, as long as the buffer holds what is in it. -/
theorem sends_flatten {buf : List α} (hbuf : buf.length ≤ capacity) (data : List α) :
    (sends capacity buf data).1.flatten ++ (sends capacity buf data).2 = buf ++ data ∧
      (sends capacity buf data).2.length ≤ capacity := by
  rw [sends]
  split
  · simp only [List.flatten_nil, List.nil_append, List.length_append, true_and]
    omega
  · next hfits =>
    by_cases hfull : capacity - buf.length < data.length
    · simp only [if_pos hfull]
      split
      · simp
      · simp
        omega
    · simp only [if_neg hfull]
      split
      · -- the piece is as large as the whole buffer, so nothing was in it
        obtain rfl : buf = [] := List.eq_nil_of_length_eq_zero (by omega)
        simp
      · simp
        omega

theorem blocks_flatten {buf : List α} (hbuf : buf.length ≤ capacity) (chunks : List (List α)) :
    (blocks capacity buf chunks).1.flatten ++ (blocks capacity buf chunks).2 = buf ++ chunks.flatten := by
  induction chunks generalizing buf with
  | nil => simp [blocks]
  | cons data chunks ih =>
    obtain ⟨hsends, hle⟩ := sends_flatten hbuf data
    rw [blocks, List.flatten_append, List.append_assoc, ih hle, ← List.append_assoc, hsends, List.flatten_cons,
      List.append_assoc]

theorem flushBuf_cases (w : BufWriter α) :
    (∃ f, w.inner.writeAll results w.buf = (.ok (), [], f) ∧ w.flushBuf results = (.ok (), ⟨f, []⟩)) ∨
    ∃ e e' f left, w.inner.writeAll results w.buf = (.error e, left, f) ∧
      w.flushBuf results = (.error e', ⟨f, left⟩) := by
  obtain ⟨hleft, hok⟩ := @File.writeLoop_zero _ results "failed to write the buffered data"
    "failed to write whole buffer" w.buf.length w.inner w.buf
  rw [← File.writeAll] at hleft hok
  rw [flushBuf]
  generalize w.inner.writeLoop results "failed to write the buffered data" w.buf.length w.buf = flushed at *
  obtain ⟨r, left, f⟩ := flushed
  rcases @File.writeAll_cases _ results w.inner w.buf with ⟨f', hwrite, -⟩ | ⟨e, left', f', hwrite, -⟩
  · rw [hwrite] at hleft hok
    cases hleft
    cases hok.2 rfl
    exact .inl ⟨f, hwrite, rfl⟩
  · rw [hwrite] at hleft hok
    cases hleft
    cases r with
    | error e' => exact .inr ⟨e, e', f, left, hwrite, rfl⟩
    | ok u => cases hok.1 rfl

theorem drop_eq (w : BufWriter α) : w.drop results = (w.inner.writeAll results w.buf).2.2 := by
  rcases @flushBuf_cases _ results w with ⟨f, hwrite, hflush⟩ | ⟨e, e', f, left, hwrite, hflush⟩
  · rw [drop, hflush, hwrite]
  · rw [drop, hflush, hwrite]

theorem writeInner_cases (w : BufWriter α) (data : List α) :
    (∃ f, w.inner.writeBlocks results [data] = (.ok (), f) ∧ w.writeInner results data = (.ok (), ⟨f, w.buf⟩)) ∨
    ∃ e e' f left, w.inner.writeBlocks results [data] = (.error e, f) ∧
      w.writeInner results data = (.error e', ⟨f, left⟩) := by
  rw [writeInner]
  rcases @File.writeAll_cases _ results w.inner data with ⟨f, hwrite, -⟩ | ⟨e, left, f, hwrite, -⟩
  · rw [File.writeBlocks, hwrite]
    exact .inl ⟨f, rfl, rfl⟩
  · rw [File.writeBlocks, hwrite]
    exact .inr ⟨e, e, f, w.buf, rfl, rfl⟩

/-- A write succeeds if and only if its blocks can be written, and breaks off at the same call. -/
theorem writeAll_cases (w : BufWriter α) (data : List α) :
    (∃ f, w.inner.writeBlocks results (sends capacity w.buf data).1 = (.ok (), f) ∧
      w.writeAll capacity results data = (.ok (), ⟨f, (sends capacity w.buf data).2⟩)) ∨
    ∃ e e' f left, w.inner.writeBlocks results (sends capacity w.buf data).1 = (.error e, f) ∧
      w.writeAll capacity results data = (.error e', ⟨f, left⟩) := by
  rw [sends, writeAll]
  by_cases hfits : data.length < capacity - w.buf.length
  · rw [if_pos hfits, if_pos hfits]
    exact .inl ⟨w.inner, rfl, rfl⟩
  · rw [if_neg hfits, if_neg hfits]
    by_cases hfull : capacity - w.buf.length < data.length
    · simp only [if_pos hfull]
      rcases @flushBuf_cases _ results w with ⟨f, hwrite, hflush⟩ | ⟨e, e', f, left, hwrite, hflush⟩
      · rw [hflush]
        simp only
        by_cases hlarge : capacity ≤ data.length
        · rw [if_pos hlarge, if_pos hlarge]
          simp only [List.cons_append, List.nil_append, File.writeBlocks, hwrite]
          exact writeInner_cases ⟨f, []⟩ data
        · rw [if_neg hlarge, if_neg hlarge, File.writeBlocks, hwrite]
          exact .inl ⟨f, rfl, rfl⟩
      · rw [hflush]
        refine .inr ⟨e, e', f, left, ?_, rfl⟩
        by_cases hlarge : capacity ≤ data.length
        · rw [if_pos hlarge, List.singleton_append, File.writeBlocks, hwrite]
        · rw [if_neg hlarge, File.writeBlocks, hwrite]
    · simp only [if_neg hfull]
      by_cases hlarge : capacity ≤ data.length
      · rw [if_pos hlarge, if_pos hlarge]
        exact writeInner_cases w data
      · rw [if_neg hlarge, if_neg hlarge]
        exact .inl ⟨w.inner, rfl, rfl⟩

/-- So does a run of writes. -/
theorem writeChunks_cases (w : BufWriter α) (chunks : List (List α)) :
    (∃ f, w.inner.writeBlocks results (blocks capacity w.buf chunks).1 = (.ok (), f) ∧
      w.writeChunks capacity results chunks = (.ok (), ⟨f, (blocks capacity w.buf chunks).2⟩)) ∨
    ∃ e e' f left, w.inner.writeBlocks results (blocks capacity w.buf chunks).1 = (.error e, f) ∧
      w.writeChunks capacity results chunks = (.error e', ⟨f, left⟩) := by
  induction chunks generalizing w with
  | nil => exact .inl ⟨w.inner, rfl, rfl⟩
  | cons data chunks ih =>
    rw [blocks, writeChunks, File.writeBlocks_append]
    rcases @writeAll_cases _ capacity results w data with ⟨f, hblocks, hwrite⟩ | ⟨e, e', f, left, hblocks, hwrite⟩
    · rw [hblocks, hwrite]
      exact ih ⟨f, (sends capacity w.buf data).2⟩
    · rw [hblocks, hwrite]
      exact .inr ⟨e, e', f, left, rfl, rfl⟩

end BufWriter
