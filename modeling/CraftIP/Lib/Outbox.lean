import CraftIP.Lib.Lts

/-!
# Outboxes

A loop turns the messages of a queue into output for a buffered writer, and waits for messages with an
empty buffer only (`Step`). Then a message that has arrived is done, in hand or still in the queue, in
this order, and the output of what is done is in the socket or in the buffer (`Accounts`): whenever the
loop waits, the outbox is `Settled` (`Path.settled`).

A program is brought under this rule by a phase for each of its program counters and a `Step` for each of
its steps (`Path.of_run`).
-/

/-- A buffered writer: what the socket has taken, and what is left in the buffer. -/
structure Sink (α : Type) where
  flushed : List α
  buffered : List α
deriving DecidableEq, Repr

namespace Sink
variable {α : Type}

def empty : Sink α := ⟨[], []⟩

def total (w : Sink α) : List α := w.flushed ++ w.buffered

def put (w : Sink α) (l : List α) : Sink α := { w with buffered := w.buffered ++ l }

/-- The socket takes up to `n` elements from the buffer. -/
def write (w : Sink α) (n : Nat) : Sink α :=
  ⟨w.flushed ++ w.buffered.take n, w.buffered.drop n⟩

theorem total_put (w : Sink α) (l : List α) : (w.put l).total = w.total ++ l := by
  simp [total, put]

theorem total_write (w : Sink α) (n : Nat) : (w.write n).total = w.total := by
  simp [total, write]

end Sink

/-- `queue` are the messages that nobody has taken, `done` is the work that is done, a message each. -/
structure Outbox (μ ε α : Type) where
  queue : List μ
  done : List ε
  sink : Sink α
deriving DecidableEq, Repr

namespace Outbox
variable {μ ε α : Type}

def empty : Outbox μ ε α := ⟨[], [], .empty⟩

def arrive (o : Outbox μ ε α) (m : μ) : Outbox μ ε α :=
  { o with queue := o.queue ++ [m] }

/-- The first message is taken off the queue. -/
def take (o : Outbox μ ε α) : Outbox μ ε α := { o with queue := o.queue.tail }

/-- The work is done, and its output is put in the buffer. -/
def finish (o : Outbox μ ε α) (e : ε) (l : List α) : Outbox μ ε α :=
  { o with done := o.done ++ [e], sink := o.sink.put l }

def write (o : Outbox μ ε α) (n : Nat) : Outbox μ ε α := { o with sink := o.sink.write n }

variable {message : ε → μ} {output : ε → List α}

/-- Where the messages `l` and the output are; `held` is the message in hand. -/
structure Accounts (message : ε → μ) (output : ε → List α) (l : List μ) (held : Option μ)
    (o : Outbox μ ε α) : Prop where
  messages : l = o.done.map message ++ held.toList ++ o.queue
  output : o.sink.total = o.done.flatMap output

/-- Of the messages `l`, those that were taken are done, and all output is in the socket. -/
structure Settled (message : ε → μ) (output : ε → List α) (l : List μ) (o : Outbox μ ε α) : Prop where
  messages : l = o.done.map message ++ o.queue
  flushed : o.sink.flushed = o.done.flatMap output
  buffered : o.sink.buffered = []

namespace Accounts
variable {l : List μ} {held : Option μ} {o : Outbox μ ε α}

theorem empty : Accounts message output [] none (.empty : Outbox μ ε α) := ⟨rfl, rfl⟩

theorem arrive (h : Accounts message output l held o) (m : μ) :
    Accounts message output (l ++ [m]) held (o.arrive m) where
  messages := by simp only [Outbox.arrive, h.messages, List.append_assoc]
  output := h.output

theorem take (h : Accounts message output l none o) {m : μ} {rest : List μ} (hq : o.queue = m :: rest) :
    Accounts message output l (some m) o.take where
  messages := by
    rw [Outbox.take, h.messages, hq]
    simp
  output := h.output

theorem finish {e : ε} (h : Accounts message output l (some (message e)) o) :
    Accounts message output l none (o.finish e (output e)) where
  messages := by
    rw [Outbox.finish, h.messages]
    simp
  output := by
    rw [Outbox.finish, Sink.total_put, h.output, List.flatMap_append, List.flatMap_singleton]

theorem write (h : Accounts message output l held o) (n : Nat) :
    Accounts message output l held (o.write n) where
  messages := h.messages
  output := (o.sink.total_write n).trans h.output

theorem settled (h : Accounts message output l none o) (hb : o.sink.buffered = []) :
    Settled message output l o where
  messages := by rw [h.messages, Option.toList_none, List.append_nil]
  flushed := by rw [← h.output, Sink.total, hb, List.append_nil]
  buffered := hb

end Accounts

/-- What a loop is doing. `busy` is anything but waiting for a message, with the message in hand. -/
inductive Phase (μ : Type) where
  | waiting
  | busy (held : Option μ)
  | ended
deriving DecidableEq, Repr

/-- The steps of a loop, and of those around it: `arrive` is a sender's, `write` the socket's doing. The
label is the message that arrives. -/
inductive Step (message : ε → μ) (output : ε → List α) :
    Option μ → Phase μ × Outbox μ ε α → Phase μ × Outbox μ ε α → Prop
  | arrive {p o} (m : μ) : Step message output (some m) (p, o) (p, o.arrive m)
  | write {p o} (n : Nat) : Step message output none (p, o) (p, o.write n)
  | stay {p o} : Step message output none (p, o) (p, o)
  | takeWaiting {o m rest} (hq : o.queue = m :: rest) :
    Step message output none (.waiting, o) (.busy (some m), o.take)
  | takeBusy {o m rest} (hq : o.queue = m :: rest) :
    Step message output none (.busy none, o) (.busy (some m), o.take)
  | finish {o} (e : ε) :
    Step message output none (.busy (some (message e)), o) (.busy none, o.finish e (output e))
  | wait {o} (hb : o.sink.buffered = []) : Step message output none (.busy none, o) (.waiting, o)
  | stop {p o} : Step message output none (p, o) (.ended, o)

/-- The states of a loop that starts with nothing, with the messages that have arrived. -/
inductive Path (message : ε → μ) (output : ε → List α) : List μ → Phase μ × Outbox μ ε α → Prop
  | waiting : Path message output [] (.waiting, .empty)
  | busy : Path message output [] (.busy none, .empty)
  | step {l m x x'} (h : Path message output l x) (hs : Step message output m x x') :
    Path message output (l ++ m.toList) x'

/-- What a phase says of the outbox. -/
def Phase.Fits (message : ε → μ) (output : ε → List α) (l : List μ) (o : Outbox μ ε α) : Phase μ → Prop
  | .waiting => Accounts message output l none o ∧ o.sink.buffered = []
  | .busy held => Accounts message output l held o
  | .ended => True

theorem Phase.Fits.arrive {l : List μ} {o : Outbox μ ε α} {p : Phase μ} (h : p.Fits message output l o) (m : μ) :
    p.Fits message output (l ++ [m]) (o.arrive m) := by
  cases p with
  | waiting => exact ⟨h.1.arrive m, h.2⟩
  | busy held => exact Accounts.arrive h m
  | ended => trivial

theorem Phase.Fits.write {l : List μ} {o : Outbox μ ε α} {p : Phase μ} (h : p.Fits message output l o) (n : Nat) :
    p.Fits message output l (o.write n) := by
  cases p with
  | waiting =>
    obtain ⟨hacc, hb⟩ := h
    exact ⟨hacc.write n, by rw [Outbox.write, Sink.write, hb, List.drop_nil]⟩
  | busy held => exact Accounts.write h n
  | ended => trivial

theorem Step.fits {l : List μ} {m : Option μ} {x x' : Phase μ × Outbox μ ε α}
    (hs : Step message output m x x') (h : x.1.Fits message output l x.2) :
    x'.1.Fits message output (l ++ m.toList) x'.2 := by
  cases hs with
  | arrive m => exact h.arrive m
  | write n => rw [Option.toList_none, List.append_nil]; exact h.write n
  | stay => rw [Option.toList_none, List.append_nil]; exact h
  | takeWaiting hq => rw [Option.toList_none, List.append_nil]; exact h.1.take hq
  | takeBusy hq => rw [Option.toList_none, List.append_nil]; exact Accounts.take h hq
  | finish e => rw [Option.toList_none, List.append_nil]; exact Accounts.finish h
  | wait hb => rw [Option.toList_none, List.append_nil]; exact ⟨h, hb⟩
  | stop => trivial

namespace Path
variable {l : List μ} {x : Phase μ × Outbox μ ε α}

theorem fits (h : Path message output l x) : x.1.Fits message output l x.2 := by
  induction h with
  | waiting => exact ⟨.empty, rfl⟩
  | busy => exact .empty
  | step _ hs ih => exact hs.fits ih

/-- Whenever the loop waits, every message it has taken is done, in the order in which they arrived, and
all output is in the socket. -/
theorem settled {o : Outbox μ ε α} (h : Path message output l (.waiting, o)) : Settled message output l o :=
  h.fits.1.settled h.fits.2

/-- A program whose steps are steps of a loop has its states. -/
theorem of_run {σ β : Type} {step : σ → β → Option σ} {init : σ} (view : σ → Phase μ × Outbox μ ε α)
    (sent? : β → Option μ) {as : List β} {s : σ} (h0 : Path message output [] (view init))
    (hstep : ∀ s, ∀ a ∈ as, ∀ s', step s a = some s' → Step message output (sent? a) (view s) (view s'))
    (h : Lts.run step init as = some s) : Path message output (as.filterMap sent?) (view s) := by
  induction as using List.reverseRecOn generalizing s with
  | nil => cases h; exact h0
  | append_singleton as a ih =>
    rw [Lts.run_append] at h
    obtain ⟨t, ht, h⟩ := Option.bind_eq_some_iff.1 h
    obtain ⟨s', hs', h⟩ := Option.bind_eq_some_iff.1 h
    cases h
    have hlast := (ih (fun s a ha => hstep s a (List.mem_append_left _ ha)) ht).step
      (hstep t a (by simp) s hs')
    rw [List.filterMap_append]
    exact hlast

end Path
end Outbox
