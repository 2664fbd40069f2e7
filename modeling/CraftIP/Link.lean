import CraftIP.Bincode
import CraftIP.Lib.Lts
import CraftIP.PacketCodec

/-!
# One direction of the tunnel

Between a framed writer and the peer's framed reader a packet is in the writer's buffer, on its way, or
taken. `Link` says so of packets, `ByteLink` is what the sockets do with bytes, and the second refines
the first (`byteLink_refines`) as long as every frame fits its header: after one that does not, `Link`
leaves open what the peer reads.
-/

namespace CraftIP
open PacketCodec SocketPacket StreamDecoder

structure Link (α : Type) where
  taken : List α
  sent : List α
  buffered : List α
  garbled : Bool
deriving DecidableEq, Repr

/-- What is done at a link's ends; `write` and `receive` are the socket's doing. -/
inductive LinkEvent (α : Type) where
  | feed (p : α)
  | write (n : Nat)
  | receive (n : Nat)
  | next (p : α)
deriving DecidableEq, Repr

namespace Link
variable {α : Type}

def empty : Link α := ⟨[], [], [], false⟩

def inFlight (l : Link α) : List α := l.sent ++ l.buffered

def history (l : Link α) : List α := l.taken ++ l.inFlight

/-- `feed`: the packet is encoded into the write buffer. -/
def feed (l : Link α) (fits : Bool) (p : α) : Link α :=
  { l with buffered := l.buffered ++ [p], garbled := l.garbled || !fits }

/-- `n` packets leave the write buffer. -/
def write (l : Link α) (n : Nat) : Link α :=
  { l with sent := l.sent ++ l.buffered.take n, buffered := l.buffered.drop n }

/-- The peer may read the packet next. -/
def Gives [DecidableEq α] (l : Link α) (p : α) : Prop := l.sent.head? = some p ∨ l.garbled = true

instance [DecidableEq α] (l : Link α) (p : α) : Decidable (l.Gives p) :=
  inferInstanceAs (Decidable (_ ∨ _))

/-- `next`: the peer reads the packet. -/
def pop [DecidableEq α] (l : Link α) (p : α) : Link α :=
  if l.sent.head? = some p then { l with taken := l.taken ++ [p], sent := l.sent.tail } else l

theorem inFlight_feed (l : Link α) (fits : Bool) (p : α) :
    (l.feed fits p).inFlight = l.inFlight ++ [p] := by
  simp [inFlight, feed]

theorem inFlight_write (l : Link α) (n : Nat) : (l.write n).inFlight = l.inFlight := by
  simp [inFlight, write]

theorem history_feed (l : Link α) (fits : Bool) (p : α) :
    (l.feed fits p).history = l.history ++ [p] := by
  rw [history, inFlight_feed, history, List.append_assoc]; rfl

theorem history_write (l : Link α) (n : Nat) : (l.write n).history = l.history := by
  rw [history, inFlight_write]; rfl

variable [DecidableEq α]

theorem history_pop (l : Link α) (p : α) : (l.pop p).history = l.history := by
  rw [pop]
  split
  · next h =>
    obtain ⟨rest, hrest⟩ := List.head?_eq_some_iff.1 h
    simp [history, inFlight, hrest]
  · rfl

/-- On a link that is not garbled the peer reads the packet that was sent first. -/
theorem pop_of_gives {l : Link α} {p : α} (hg : l.garbled = false) (h : l.Gives p) :
    (l.pop p).taken = l.taken ++ [p] ∧ l.inFlight = p :: (l.pop p).inFlight ∧
      (l.pop p).history = l.history ∧ (l.pop p).garbled = false := by
  have hs : l.sent.head? = some p := h.resolve_right (by simp [hg])
  obtain ⟨rest, hrest⟩ : ∃ rest, l.sent = p :: rest := by
    cases hl : l.sent with
    | nil => rw [hl] at hs; cases hs
    | cons q rest => rw [hl] at hs; cases hs; exact ⟨rest, rfl⟩
  rw [pop, if_pos hs]
  refine ⟨rfl, ?_, ?_, hg⟩ <;> simp [history, inFlight, hrest]

def step (fits : α → Bool) (l : Link α) : LinkEvent α → Option (Link α)
  | .feed p => some (l.feed (fits p) p)
  | .write n => some (l.write n)
  | .receive _ => some l
  | .next p => if l.Gives p then some (l.pop p) else none

end Link

/-- The bytes of one direction: the sender's write buffer, the socket, the peer's read buffer. -/
structure ByteLink where
  writeBuf : List UInt8
  wire : List UInt8
  readBuf : List UInt8
deriving DecidableEq, Repr

namespace ByteLink

def empty : ByteLink := ⟨[], [], []⟩

def step (B : Bincode) (l : ByteLink) : LinkEvent SocketPacket → Option ByteLink
  | .feed p =>
    match encode B p l.writeBuf with
    | .ok buf => some { l with writeBuf := buf }
    | .error _ => none
  | .write n => some { l with wire := l.wire ++ l.writeBuf.take n, writeBuf := l.writeBuf.drop n }
  | .receive n => some { l with readBuf := l.readBuf ++ l.wire.take n, wire := l.wire.drop n }
  | .next p =>
    match decode B l.readBuf with
    | (.ok (some q), buf) => if q = p then some { l with readBuf := buf } else none
    | _ => none

end ByteLink

/-- Whether the frame of a packet fits its header. All but the data packets are small. -/
def fits : SocketPacket → Bool
  | .proxyData packet => packet.data.bytes.length ≤ 32765 ∧ packet.clientId.toNat ≤ 65535
  | _ => true

/-! ### The byte link refines the link -/

variable {B : Bincode}

theorem fits_of_encodable {p : SocketPacket} (h : Encodable B p) : fits p = true := by
  cases p <;> first | rfl | exact decide_eq_true h

def frames (B : Bincode) (ps : List SocketPacket) : List UInt8 := (ps.map (frame B)).flatten

theorem frames_append (ps qs : List SocketPacket) : frames B (ps ++ qs) = frames B ps ++ frames B qs := by
  simp [frames]

theorem frames_cons (p : SocketPacket) (ps : List SocketPacket) :
    frames B (p :: ps) = frame B p ++ frames B ps := by simp [frames]

/-- `u` is a part of the first frame, short of the whole. -/
def Part (B : Bincode) (u : List UInt8) : List SocketPacket → Prop
  | [] => u = []
  | p :: _ => u <+: frame B p ∧ u ≠ frame B p

/-- A part of a list of frames is some whole frames and a part of the next. -/
theorem exists_part {q : List UInt8} {ps : List SocketPacket}
    (h : q <+: frames B ps) :
    ∃ n u, q = frames B (ps.take n) ++ u ∧ Part B u (ps.drop n) := by
  induction ps generalizing q with
  | nil => exact ⟨0, [], by simpa [frames] using h, rfl⟩
  | cons p ps ih =>
    rw [frames_cons] at h
    rcases append_cases_of_isPrefix h with hp | ⟨q', rfl, hq'⟩
    · by_cases he : q = frame B p
      · obtain ⟨n, u, hu, hpart⟩ := ih (q := []) List.nil_prefix
        refine ⟨n + 1, u, ?_, hpart⟩
        rw [List.take_succ_cons, frames_cons, List.append_assoc, ← hu, he, List.append_nil]
      · exact ⟨0, q, by simp [frames], hp, he⟩
    · obtain ⟨n, u, hu, hpart⟩ := ih hq'
      refine ⟨n + 1, u, ?_, hpart⟩
      rw [List.take_succ_cons, frames_cons, List.append_assoc, ← hu]

/-- The bytes hold the packets of the link: whole frames of what is sent, then the buffered ones, of the
first of which a part may already have left. -/
structure Holds (B : Bincode) (b : ByteLink) (l : Link SocketPacket) : Prop where
  clean : l.garbled = false
  encodable : ∀ p ∈ l.inFlight, Encodable B p
  bytes : ∃ u, b.readBuf ++ b.wire = frames B l.sent ++ u ∧ u ++ b.writeBuf = frames B l.buffered ∧
    Part B u l.buffered

theorem holds_empty : Holds B ByteLink.empty Link.empty :=
  ⟨rfl, by simp [Link.empty, Link.inFlight], [], by simp [ByteLink.empty, Link.empty, frames, Part]⟩

theorem Holds.feed {b b' : ByteLink} {l : Link SocketPacket} (h : Holds B b l) {p : SocketPacket}
    (hp : Encodable B p) (hs : b.step B (.feed p) = some b') : Holds B b' (l.feed (fits p) p) := by
  obtain ⟨u, hsent, hbuf, hpart⟩ := h.bytes
  have hb : b' = { b with writeBuf := b.writeBuf ++ frame B p } := by
    simp only [ByteLink.step] at hs
    split at hs
    · next he => cases hs; rw [encode_eq_ok he]
    · cases hs
  subst hb
  refine ⟨by simp [Link.feed, h.clean, fits_of_encodable hp], fun q hq => ?_, u, hsent, ?_, ?_⟩
  · rw [Link.inFlight_feed, List.mem_append, List.mem_singleton] at hq
    rcases hq with hq | rfl
    · exact h.encodable q hq
    · exact hp
  · simp only [Link.feed]
    rw [frames_append, ← List.append_assoc, hbuf, frames_cons]
    simp [frames]
  · simp only [Link.feed]
    cases hl : l.buffered with
    | nil =>
      rw [hl] at hpart
      obtain rfl : u = [] := hpart
      obtain ⟨hi, lo, body, hf, -⟩ := frame_header hp
      exact ⟨List.nil_prefix, by rw [hf]; simp⟩
    | cons q qs => rw [hl] at hpart; exact hpart

theorem Holds.write {b : ByteLink} {l : Link SocketPacket} (h : Holds B b l) (m : Nat) :
    ∃ n, Holds B { b with wire := b.wire ++ b.writeBuf.take m, writeBuf := b.writeBuf.drop m }
      (l.write n) := by
  obtain ⟨u, hsent, hbuf, hpart⟩ := h.bytes
  have hq : u ++ b.writeBuf.take m <+: frames B l.buffered := by
    rw [← hbuf]; exact (List.prefix_append_right_inj u).2 (List.take_prefix m _)
  obtain ⟨n, u', hu', hpart'⟩ := exists_part hq
  refine ⟨n, h.clean, by rw [Link.inFlight_write]; exact h.encodable, u', ?_, ?_, hpart'⟩
  · show b.readBuf ++ (b.wire ++ b.writeBuf.take m) = frames B (l.sent ++ l.buffered.take n) ++ u'
    rw [← List.append_assoc, hsent, List.append_assoc, hu', frames_append, List.append_assoc]
  · show u' ++ b.writeBuf.drop m = frames B (l.buffered.drop n)
    have hall : frames B (l.buffered.take n) ++ (u' ++ b.writeBuf.drop m) =
        frames B (l.buffered.take n) ++ frames B (l.buffered.drop n) := by
      rw [← frames_append, List.take_append_drop, ← List.append_assoc, ← hu', List.append_assoc,
        List.take_append_drop, hbuf]
    exact List.append_cancel_left hall

theorem Holds.next (hB : B.Inverse) {b b' : ByteLink} {l : Link SocketPacket} (h : Holds B b l)
    {p : SocketPacket} (hs : b.step B (.next p) = some b') : l.Gives p ∧ Holds B b' (l.pop p) := by
  have hframes := decoder_frames hB
  obtain ⟨u, hsent, hbuf, hpart⟩ := h.bytes
  obtain ⟨buf, hdec, rfl⟩ : ∃ buf, decoder B b.readBuf = .item p buf ∧ b' = { b with readBuf := buf } := by
    simp only [ByteLink.step] at hs
    split at hs
    · next q buf hd =>
      split at hs
      · next he => subst he; cases hs; exact ⟨buf, by simp [decoder, hd], rfl⟩
      · cases hs
    · cases hs
  have hall := (decoder_stable B).item_append hdec (b.wire ++ b.writeBuf)
  rw [← List.append_assoc, ← List.append_assoc, hsent] at hall
  cases hl : l.sent with
  | nil =>
    -- only a part of a frame has left the sender: the decoder waits
    rw [hl, frames, List.map_nil, List.flatten_nil, List.nil_append] at hsent
    have hpre : b.readBuf <+: u := ⟨_, hsent⟩
    cases hbl : l.buffered with
    | nil =>
      rw [hbl] at hpart
      obtain rfl : u = [] := hpart
      rw [List.prefix_nil.1 hpre, (decoder_stable B).nil] at hdec
      cases hdec
    | cons q qs =>
      rw [hbl] at hpart
      have henc := h.encodable q (by rw [Link.inFlight, hbl]; simp)
      have hne : b.readBuf ≠ frame B q := fun he => hpart.2 (hpart.1.eq_of_length (by
        have := hpre.length_le; have := hpart.1.length_le; rw [he] at *; omega))
      rw [hframes.part henc (hpre.trans hpart.1) hne] at hdec
      cases hdec
  | cons q rest =>
    have henc := h.encodable q (by rw [Link.inFlight, hl]; simp)
    rw [hl, frames_cons] at hall
    simp only [List.append_assoc] at hall
    rw [hframes.whole henc] at hall
    obtain ⟨rfl, hrest⟩ := Verdict.item.inj hall
    have hgives : l.Gives q := .inl (by rw [hl]; rfl)
    obtain ⟨-, hin, -, hclean⟩ := Link.pop_of_gives h.clean hgives
    refine ⟨hgives, hclean, fun p hp => h.encodable p (by rw [hin]; exact List.mem_cons_of_mem _ hp), u, ?_⟩
    rw [Link.pop, if_pos (by rw [hl]; rfl)]
    refine ⟨?_, hbuf, hpart⟩
    show buf ++ b.wire = frames B l.sent.tail ++ u
    rw [hl, List.tail_cons]
    simp only [← List.append_assoc] at hrest
    exact (List.append_cancel_right hrest).symm

/-- What the packets at the two ends of a link look like: the socket's doing is left out. -/
def visible : List (LinkEvent SocketPacket) → List (LinkEvent SocketPacket)
  | [] => []
  | .feed p :: es => .feed p :: visible es
  | .next p :: es => .next p :: visible es
  | .write _ :: es => visible es
  | .receive _ :: es => visible es

/-- Whatever the sockets do with the bytes, the ends see a run of the packet link, as long as the
packets that are fed fit their headers. -/
theorem byteLink_refines (hB : B.Inverse) {b b' : ByteLink} {l : Link SocketPacket} (h : Holds B b l)
    {es : List (LinkEvent SocketPacket)} (hes : ∀ p, .feed p ∈ es → Encodable B p)
    (hrun : Lts.run (ByteLink.step B) b es = some b') :
    ∃ es' l', Lts.run (Link.step fits) l es' = some l' ∧ visible es' = visible es ∧ Holds B b' l' := by
  induction es generalizing b l with
  | nil => cases hrun; exact ⟨[], l, rfl, rfl, h⟩
  | cons e es ih =>
    obtain ⟨b₁, hb₁, hrest⟩ := Option.bind_eq_some_iff.1 hrun
    have hes' : ∀ p, .feed p ∈ es → Encodable B p := fun p hp => hes p (List.mem_cons_of_mem _ hp)
    cases e with
    | feed p =>
      obtain ⟨es', l', hl', hv, hh⟩ := ih (h.feed (hes p List.mem_cons_self) hb₁) hes' hrest
      exact ⟨.feed p :: es', l', hl', by simp only [visible, hv], hh⟩
    | write m =>
      cases hb₁
      obtain ⟨n, hn⟩ := h.write m
      obtain ⟨es', l', hl', hv, hh⟩ := ih hn hes' hrest
      exact ⟨.write n :: es', l', hl', hv, hh⟩
    | receive m =>
      cases hb₁
      obtain ⟨u, hsent, hbuf, hpart⟩ := h.bytes
      have hh : Holds B { b with readBuf := b.readBuf ++ b.wire.take m, wire := b.wire.drop m } l :=
        ⟨h.clean, h.encodable, u, by simp [hsent], hbuf, hpart⟩
      obtain ⟨es', l', hl', hv, hh⟩ := ih hh hes' hrest
      exact ⟨es', l', hl', hv, hh⟩
    | next p =>
      obtain ⟨hg, hn⟩ := h.next hB hb₁
      obtain ⟨es', l', hl', hv, hh⟩ := ih hn hes' hrest
      refine ⟨.next p :: es', l', ?_, by simp only [visible, hv], hh⟩
      simp only [Lts.run, Link.step, if_pos hg, Option.bind_some]
      exact hl'

/-- Two packets, of which the socket takes the first and a part of the second. -/
def joinAndDisconnect : List (LinkEvent SocketPacket) :=
  [.feed (.proxyJoin 7), .feed (.proxyDisconnect 7), .write 3, .receive 2, .write 13, .receive 100,
    .next (.proxyJoin 7)]

theorem byteLink_refines_joinAndDisconnect :
    ∃ b l es', Lts.run (ByteLink.step BincodeFormat.crate) .empty joinAndDisconnect = some b ∧
      Lts.run (Link.step fits) .empty es' = some l ∧ visible es' = visible joinAndDisconnect ∧
      Holds BincodeFormat.crate b l := by
  have hrun : (Lts.run (ByteLink.step BincodeFormat.crate) .empty joinAndDisconnect).isSome = true := by decide +kernel
  obtain ⟨b, hb⟩ := Option.isSome_iff_exists.1 hrun
  have hes : ∀ p, .feed p ∈ joinAndDisconnect → Encodable BincodeFormat.crate p := by
    intro p hp
    simp only [joinAndDisconnect, List.mem_cons, LinkEvent.feed.injEq, List.not_mem_nil, reduceCtorEq,
      or_false] at hp
    rcases hp with rfl | rfl <;> exact ⟨_, rfl, by decide⟩
  obtain ⟨es', l, hl, hvisible, hholds⟩ := byteLink_refines BincodeFormat.crate_inverse holds_empty hes hb
  exact ⟨b, l, es', hb, hl, hvisible, hholds⟩

end CraftIP
