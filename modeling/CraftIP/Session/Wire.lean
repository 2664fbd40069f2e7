import CraftIP.Session.Lossless

/-!
# A session over two streams of bytes

In `Session` the tunnel is two links that carry packets. Here it is what the sockets see: `handle_writer` and
`writer_handler` encode into a write buffer, the bytes leave and arrive in any pieces, and the readers decode what
has arrived. Every step of this session is one of `Session` over links that carry the packets of the bytes, or none
(`Over.step`), so that what holds in every run of `Session` under a condition that does not look at the links holds
here (`ByteSession.refines`); in particular what is read from one socket of a player is forwarded to the other
(`ByteSession.forwards`).
-/

namespace CraftIP
open Function (update)
open PacketCodec SocketPacket

/-! ### Marked packets on a byte link -/

namespace Link
variable {ο : Type}

/-- The packets without their marks. -/
def unmark (l : Link (Marked ο SocketPacket)) : Link SocketPacket :=
  ⟨l.taken.map Marked.val, l.sent.map Marked.val, l.buffered.map Marked.val, l.garbled⟩

theorem unmark_feed (l : Link (Marked ο SocketPacket)) (fits : Bool) (f : Marked ο SocketPacket) :
    (l.feed fits f).unmark = l.unmark.feed fits f.val := by
  simp [unmark, feed]

theorem unmark_write (l : Link (Marked ο SocketPacket)) (n : Nat) : (l.write n).unmark = l.unmark.write n := by
  simp [unmark, write, List.map_take, List.map_drop]

end Link

/-- The bytes hold the packets of the link, and the marks of those that are not read wait in their order. -/
structure Carries {ο : Type} (B : Bincode) (bytes : ByteLink) (marks : List (Option ο))
    (l : Link (Marked ο SocketPacket)) : Prop where
  holds : Holds B bytes l.unmark
  marks : l.inFlight.map Marked.of = marks

namespace Carries
variable {ο : Type} {B : Bincode} {bytes bytes' : ByteLink} {marks : List (Option ο)}
  {l : Link (Marked ο SocketPacket)} {f : Marked ο SocketPacket}

theorem empty : Carries B .empty ([] : List (Option ο)) .empty := ⟨holds_empty, rfl⟩

theorem feed (h : Carries B bytes marks l) (hf : Encodable B f.val) (hs : bytes.step B (.feed f.val) = some bytes') :
    Carries B bytes' (marks ++ [f.of]) (l.feed (fits f.val) f) where
  holds := by
    rw [Link.unmark_feed]
    exact h.holds.feed hf hs
  marks := by rw [Link.inFlight_feed, List.map_append, h.marks, List.map_singleton]

theorem write (h : Carries B bytes marks l) {m : Nat} (hs : bytes.step B (.write m) = some bytes') :
    ∃ n, Carries B bytes' marks (l.write n) := by
  cases hs
  obtain ⟨n, hn⟩ := h.holds.write m
  rw [← Link.unmark_write] at hn
  exact ⟨n, hn, by rw [Link.inFlight_write, h.marks]⟩

theorem receive (h : Carries B bytes marks l) {m : Nat} (hs : bytes.step B (.receive m) = some bytes') :
    Carries B bytes' marks l := by
  cases hs
  obtain ⟨u, hsent, hbuf, hpart⟩ := h.holds.bytes
  exact ⟨⟨h.holds.clean, h.holds.encodable, u, by simp [hsent], hbuf, hpart⟩, h.marks⟩

/-- What is decoded is the packet of the link that was sent first. -/
theorem next [DecidableEq ο] (hB : B.Inverse) (h : Carries B bytes marks l) (hmark : marks.head? = some f.of)
    (hs : bytes.step B (.next f.val) = some bytes') : l.Gives f ∧ Carries B bytes' marks.tail (l.pop f) := by
  obtain ⟨hgives, hnext⟩ := h.holds.next hB hs
  have hhead : l.unmark.sent.head? = some f.val := hgives.resolve_right (by simp [h.holds.clean])
  obtain ⟨g, rest, hsent⟩ : ∃ g rest, l.sent = g :: rest := by
    cases hl : l.sent with
    | nil => simp [Link.unmark, hl] at hhead
    | cons g rest => exact ⟨g, rest, rfl⟩
  have hval : g.val = f.val := by simpa [Link.unmark, hsent] using hhead
  have hof : g.of = f.of := by
    rw [← h.marks, Link.inFlight, hsent] at hmark
    exact Option.some.inj hmark
  obtain rfl : g = f := by
    obtain ⟨val, of⟩ := g
    cases hval
    cases hof
    rfl
  have hsome : l.sent.head? = some g := by rw [hsent]; rfl
  have hpop : (l.pop g).unmark = l.unmark.pop g.val := by
    rw [Link.pop, if_pos hsome, Link.pop, if_pos hhead]
    simp [Link.unmark, hsent]
  refine ⟨.inl hsome, hpop ▸ hnext, ?_⟩
  obtain ⟨-, hin, -, -⟩ := Link.pop_of_gives (show l.garbled = false from h.holds.clean) (.inl hsome)
  rw [← h.marks, hin, List.map_cons, List.tail_cons]

/-- An empty write buffer leaves no packet behind. -/
theorem flushed (h : Carries B bytes marks l) (hbuf : bytes.writeBuf = []) : l.buffered = [] := by
  obtain ⟨u, -, hwrite, hpart⟩ := h.holds.bytes
  rw [hbuf, List.append_nil] at hwrite
  cases hl : l.unmark.buffered with
  | nil => exact List.map_eq_nil_iff.1 hl
  | cons p ps =>
    -- else a part of the first frame would be the whole of it and what follows
    rw [hl] at hwrite hpart
    rw [hwrite, frames_cons] at hpart
    obtain ⟨hpre, hne⟩ := hpart
    have hlen := hpre.length_le
    rw [List.length_append] at hlen
    have hnil := List.eq_nil_of_length_eq_zero (show (frames B ps).length = 0 by omega)
    exact absurd (by rw [hnil, List.append_nil]) hne

end Carries

/-! ### The session -/

/-- The session beside its links, the bytes of the two directions, and the marks of the packets that were written
and are not read. -/
structure ByteSession where
  session : Session
  down : ByteLink
  downMarks : List (Option Player)
  up : ByteLink
  upMarks : List (Option Conn)

inductive ByteAction where
  /-- An action of `Session`, where a write takes a number of bytes. -/
  | act (a : Action)
  /-- Bytes arrive. -/
  | downReceive (n : Nat)
  | upReceive (n : Nat)
deriving DecidableEq, Repr

namespace ByteSession
variable (B : Bincode)

def init : ByteSession := ⟨.init, .empty, [], .empty, []⟩

/-- Where an action of `Session` looks at a link, the bytes are looked at; a packet that is decoded gets the mark
that waits. -/
def step (b : ByteSession) : ByteAction → Option ByteSession
  | .downReceive n => (b.down.step B (.receive n)).map fun down => { b with down }
  | .upReceive n => (b.up.step B (.receive n)).map fun up => { b with up }
  | .act (.handleWriterFeed f) =>
    if b.session.writer = .feed f then
      (b.down.step B (.feed f.val)).map fun down =>
        { b with down, downMarks := b.downMarks ++ [f.of], session := { b.session with writer := .tryRecv } }
    else none
  | .act .handleWriterFlushed =>
    if b.session.writer = .flush ∧ b.down.writeBuf = [] then
      some { b with session := { b.session with writer := .recv } }
    else none
  | .act (.downWrite n) =>
    if b.session.writer ≠ .ended then (b.down.step B (.write n)).map fun down => { b with down } else none
  | .act (.readerHandler f) =>
    if b.session.clientReader = true ∧ b.downMarks.head? = some f.of then
      (b.down.step B (.next f.val)).map fun down =>
        { b with down, downMarks := b.downMarks.tail, session := b.session.readerFrame f }
    else none
  | .act (.writerHandlerFeed f) =>
    if b.session.clientWriter = .feed f then
      (b.up.step B (.feed f.val)).map fun up =>
        { b with up, upMarks := b.upMarks ++ [f.of], session := { b.session with clientWriter := .tryRecv } }
    else none
  | .act .writerHandlerFlushed =>
    if b.session.clientWriter = .flush ∧ b.up.writeBuf = [] then
      some { b with session := { b.session with clientWriter := .recv } }
    else none
  | .act (.upWrite n) =>
    if b.session.clientWriter ≠ .ended then (b.up.step B (.write n)).map fun up => { b with up } else none
  | .act (.handleReader f) =>
    if b.session.reader = true ∧ b.upMarks.head? = some f.of then
      (b.up.step B (.next f.val)).map fun up =>
        { b with up, upMarks := b.upMarks.tail, session := b.session.handleFrame f }
    else none
  | .act a => (b.session.step a).map fun session => { b with session }

end ByteSession

/-! ### What does not look at the links -/

namespace Session

/-- The session with other links. -/
def linked (s : Session) (down : Link (Marked Player SocketPacket)) (up : Link (Marked Conn SocketPacket)) : Session :=
  { s with down, up }

variable {s s' : Session} {down : Link (Marked Player SocketPacket)} {up : Link (Marked Conn SocketPacket)}

theorem handleMessage_linked (m : Marked Player (ClientToProxy Player Player)) :
    (s.linked down up).handleMessage m = (s.handleMessage m).linked down up := by
  cases hm : m.val with
  | addMinecraftClient idSender tx =>
    simp only [handleMessage, hm, linked]
    rcases s.distributor.insert tx with e | ⟨id, distributor⟩
    · rfl
    · simp only
      cases (s.players idSender).phase <;> rfl
  | removeMinecraftClient id =>
    have hlinked : (s.linked down up).distributor = s.distributor := rfl
    by_cases hremoved : (s.distributor.removeById id).1 = true
    · simp only [handleMessage, hm, hlinked, if_pos hremoved]
      rfl
    · simp only [handleMessage, hm, hlinked, if_neg hremoved]
      rfl
  | _ =>
    simp only [handleMessage, hm]
    rfl

theorem handleFrame_linked (f : Marked Conn SocketPacket) :
    (s.linked down up).handleFrame f = (s.handleFrame f).linked down up := by
  cases hf : f.val with
  | proxyData packet =>
    simp only [handleFrame, hf, linked]
    cases s.distributor.getById packet.clientId <;> rfl
  | proxyDisconnect id =>
    simp only [handleFrame, hf]
    rfl
  | proxyPing ping =>
    simp only [handleFrame, hf]
    rfl
  | _ => simp only [handleFrame, hf]

theorem sendTo_linked (id : ClientID) (msg : Marked Player (List UInt8)) :
    (s.linked down up).sendTo id msg = (s.sendTo id msg).map (·.linked down up) := by
  have hclient : (s.linked down up).client = s.client := rfl
  have hconns : (s.linked down up).conns = s.conns := rfl
  cases hc : s.client.connection id with
  | none => simp only [sendTo, hclient, hc, Except.map]
  | some c =>
    by_cases ht : (s.conns c).task = .ended
    · simp only [sendTo, hclient, hconns, hc, ht, if_true]
      rfl
    · simp only [sendTo, hclient, hconns, hc, if_neg ht]
      rfl

theorem readerFrame_linked (f : Marked Player SocketPacket) :
    (s.linked down up).readerFrame f = (s.readerFrame f).linked down up := by
  cases hf : f.val with
  | proxyData packet =>
    simp only [readerFrame, hf, sendTo_linked]
    cases s.sendTo packet.clientId ⟨packet.data.bytes, f.of⟩ <;> rfl
  | proxyPong ping => simp only [readerFrame, hf]
  | _ =>
    simp only [readerFrame, hf]
    rfl

theorem backendMessage_linked (m : Marked Conn BackendToProxy) :
    (s.linked down up).backendMessage m = (s.backendMessage m).linked down up := by
  cases hm : m.val with
  | removeMinecraftClient id =>
    have hlinked : (s.linked down up).clientReader = s.clientReader := rfl
    by_cases hreader : s.clientReader = true
    · simp only [backendMessage, hm, hlinked, if_pos hreader]
      rfl
    · simp only [backendMessage, hm, hlinked, if_neg hreader]
      rfl
  | _ =>
    simp only [backendMessage, hm]
    rfl

end Session

/-- The action looks at neither link. -/
def Action.linkFree : Action → Bool
  | .handleWriterFeed _ | .handleWriterFlushed | .downWrite _ | .readerHandler _ => false
  | .writerHandlerFeed _ | .writerHandlerFlushed | .upWrite _ | .handleReader _ => false
  | _ => true

namespace Session
variable {s s' : Session} {down : Link (Marked Player SocketPacket)} {up : Link (Marked Conn SocketPacket)}

theorem enabled_linked {a : Action} (ha : a.linkFree = true) : (s.linked down up).enabled a = s.enabled a := by
  cases a <;> first | rfl | cases ha

theorem next_linked {a : Action} (ha : a.linkFree = true) :
    (s.linked down up).next a = (s.next a).linked down up := by
  cases a with
  | handleWriter m => exact @handleMessage_linked { s with queue := s.queue.tail } down up m
  | writerHandler m => exact @backendMessage_linked { s with toProxy := s.toProxy.tail } down up m
  | _ => first | rfl | cases ha

theorem step_linked {a : Action} (ha : a.linkFree = true) (hs : s.step a = some s') :
    (s.linked down up).step a = some (s'.linked down up) := by
  obtain ⟨henabled, rfl⟩ := step_eq_some hs
  rw [step, enabled_linked ha, if_pos henabled, next_linked ha]

end Session

namespace ByteSession
variable {B : Bincode} {b b' : ByteSession} {s : Session}

/-- Links that carry the packets of the bytes. -/
structure Over (B : Bincode) (b : ByteSession) (down : Link (Marked Player SocketPacket))
    (up : Link (Marked Conn SocketPacket)) : Prop where
  down : Carries B b.down b.downMarks down
  up : Carries B b.up b.upMarks up

theorem over_init : Over B init .empty .empty := ⟨.empty, .empty⟩

/-- A packet that is written fits its frame. -/
def Fits (B : Bincode) : ByteAction → Prop
  | .act (.handleWriterFeed f) => Encodable B f.val
  | .act (.writerHandlerFeed f) => Encodable B f.val
  | _ => True

/-- What the session does for a step over bytes: the action itself, a write of some packets for one of some bytes, or
nothing when bytes arrive. -/
inductive Follows (s s' : Session) : ByteAction → Prop
  | act {a : Action} (hs : s.step a = some s') : Follows s s' (.act a)
  | downWrite {m n : Nat} (hs : s.step (.downWrite n) = some s') : Follows s s' (.act (.downWrite m))
  | upWrite {m n : Nat} (hs : s.step (.upWrite n) = some s') : Follows s s' (.act (.upWrite m))
  | downReceive {n : Nat} (hs : s' = s) : Follows s s' (.downReceive n)
  | upReceive {n : Nat} (hs : s' = s) : Follows s s' (.upReceive n)

/-- The step is followed over links that carry the packets after it. -/
def Followed (B : Bincode) (b b' : ByteSession) (down : Link (Marked Player SocketPacket))
    (up : Link (Marked Conn SocketPacket)) (a : ByteAction) : Prop :=
  ∃ down' up', Over B b' down' up' ∧ Follows (b.session.linked down up) (b'.session.linked down' up') a

namespace Over
variable {down : Link (Marked Player SocketPacket)} {up : Link (Marked Conn SocketPacket)}

theorem linkFree (h : Over B b down up) {a : Action} (ha : a.linkFree = true) {session : Session}
    (hs : b.session.step a = some session) : Followed B b { b with session } down up (.act a) :=
  ⟨down, up, ⟨h.down, h.up⟩, .act (Session.step_linked ha hs)⟩

theorem handleWriterFeed (h : Over B b down up) {f : Marked Player SocketPacket} (hf : Encodable B f.val)
    (hs : b.step B (.act (.handleWriterFeed f)) = some b') :
    Followed B b b' down up (.act (.handleWriterFeed f)) := by
  simp only [ByteSession.step] at hs
  split at hs
  · next hw =>
    obtain ⟨bytes, hbytes, rfl⟩ := Option.map_eq_some_iff.1 hs
    exact ⟨down.feed (fits f.val) f, up, ⟨h.down.feed hf hbytes, h.up⟩, .act (if_pos (decide_eq_true hw))⟩
  · cases hs

theorem writerHandlerFeed (h : Over B b down up) {f : Marked Conn SocketPacket} (hf : Encodable B f.val)
    (hs : b.step B (.act (.writerHandlerFeed f)) = some b') :
    Followed B b b' down up (.act (.writerHandlerFeed f)) := by
  simp only [ByteSession.step] at hs
  split at hs
  · next hw =>
    obtain ⟨bytes, hbytes, rfl⟩ := Option.map_eq_some_iff.1 hs
    exact ⟨down, up.feed (fits f.val) f, ⟨h.down, h.up.feed hf hbytes⟩, .act (if_pos (decide_eq_true hw))⟩
  · cases hs

theorem handleWriterFlushed (h : Over B b down up) (hs : b.step B (.act .handleWriterFlushed) = some b') :
    Followed B b b' down up (.act .handleWriterFlushed) := by
  simp only [ByteSession.step] at hs
  split at hs
  · next hw =>
    cases hs
    exact ⟨down, up, ⟨h.down, h.up⟩, .act (if_pos (decide_eq_true ⟨hw.1, h.down.flushed hw.2⟩))⟩
  · cases hs

theorem writerHandlerFlushed (h : Over B b down up) (hs : b.step B (.act .writerHandlerFlushed) = some b') :
    Followed B b b' down up (.act .writerHandlerFlushed) := by
  simp only [ByteSession.step] at hs
  split at hs
  · next hw =>
    cases hs
    exact ⟨down, up, ⟨h.down, h.up⟩, .act (if_pos (decide_eq_true ⟨hw.1, h.up.flushed hw.2⟩))⟩
  · cases hs

theorem downWrite (h : Over B b down up) {m : Nat} (hs : b.step B (.act (.downWrite m)) = some b') :
    Followed B b b' down up (.act (.downWrite m)) := by
  simp only [ByteSession.step] at hs
  split at hs
  · next hw =>
    obtain ⟨bytes, hbytes, rfl⟩ := Option.map_eq_some_iff.1 hs
    obtain ⟨n, hn⟩ := h.down.write hbytes
    exact ⟨down.write n, up, ⟨hn, h.up⟩, .downWrite (if_pos (decide_eq_true hw))⟩
  · cases hs

theorem upWrite (h : Over B b down up) {m : Nat} (hs : b.step B (.act (.upWrite m)) = some b') :
    Followed B b b' down up (.act (.upWrite m)) := by
  simp only [ByteSession.step] at hs
  split at hs
  · next hw =>
    obtain ⟨bytes, hbytes, rfl⟩ := Option.map_eq_some_iff.1 hs
    obtain ⟨n, hn⟩ := h.up.write hbytes
    exact ⟨down, up.write n, ⟨h.down, hn⟩, .upWrite (if_pos (decide_eq_true hw))⟩
  · cases hs

theorem readerHandler (hB : B.Inverse) (h : Over B b down up) {f : Marked Player SocketPacket}
    (hs : b.step B (.act (.readerHandler f)) = some b') : Followed B b b' down up (.act (.readerHandler f)) := by
  simp only [ByteSession.step] at hs
  split at hs
  · next hr =>
    obtain ⟨bytes, hbytes, rfl⟩ := Option.map_eq_some_iff.1 hs
    obtain ⟨hgives, hnext⟩ := h.down.next hB hr.2 hbytes
    have hstep : (b.session.linked down up).step (.readerHandler f) =
        some ((b.session.linked (down.pop f) up).readerFrame f) := if_pos (decide_eq_true ⟨hr.1, hgives⟩)
    rw [Session.readerFrame_linked] at hstep
    exact ⟨down.pop f, up, ⟨hnext, h.up⟩, .act hstep⟩
  · cases hs

theorem handleReader (hB : B.Inverse) (h : Over B b down up) {f : Marked Conn SocketPacket}
    (hs : b.step B (.act (.handleReader f)) = some b') : Followed B b b' down up (.act (.handleReader f)) := by
  simp only [ByteSession.step] at hs
  split at hs
  · next hr =>
    obtain ⟨bytes, hbytes, rfl⟩ := Option.map_eq_some_iff.1 hs
    obtain ⟨hgives, hnext⟩ := h.up.next hB hr.2 hbytes
    have hstep : (b.session.linked down up).step (.handleReader f) =
        some ((b.session.linked down (up.pop f)).handleFrame f) := if_pos (decide_eq_true ⟨hr.1, hgives⟩)
    rw [Session.handleFrame_linked] at hstep
    exact ⟨down, up.pop f, ⟨h.down, hnext⟩, .act hstep⟩
  · cases hs

/-- A step over bytes is a step of the session over the links that carry the packets, or none. -/
theorem step (hB : B.Inverse) (h : Over B b down up) {a : ByteAction} (hf : Fits B a) (hs : b.step B a = some b') :
    Followed B b b' down up a := by
  cases a with
  | downReceive n =>
    simp only [ByteSession.step] at hs
    obtain ⟨bytes, hbytes, rfl⟩ := Option.map_eq_some_iff.1 hs
    exact ⟨down, up, ⟨h.down.receive hbytes, h.up⟩, .downReceive rfl⟩
  | upReceive n =>
    simp only [ByteSession.step] at hs
    obtain ⟨bytes, hbytes, rfl⟩ := Option.map_eq_some_iff.1 hs
    exact ⟨down, up, ⟨h.down, h.up.receive hbytes⟩, .upReceive rfl⟩
  | act a =>
    cases a with
    | handleWriterFeed f => exact h.handleWriterFeed hf hs
    | handleWriterFlushed => exact h.handleWriterFlushed hs
    | downWrite m => exact h.downWrite hs
    | readerHandler f => exact h.readerHandler hB hs
    | writerHandlerFeed f => exact h.writerHandlerFeed hf hs
    | writerHandlerFlushed => exact h.writerHandlerFlushed hs
    | upWrite m => exact h.upWrite hs
    | handleReader f => exact h.handleReader hB hs
    | _ =>
      simp only [ByteSession.step] at hs
      obtain ⟨session, hsession, rfl⟩ := Option.map_eq_some_iff.1 hs
      exact h.linkFree rfl hsession

end Over

/-! ### Runs over bytes -/

/-- A condition on the steps of `Session`, on those over bytes. -/
def Under (C : Session → Action → Prop) (b : ByteSession) : ByteAction → Prop
  | .act a => C b.session a
  | _ => True

/-- A condition on the steps of a session that looks at no link and allows every write. -/
structure Blind (C : Session → Action → Prop) : Prop where
  linked : ∀ {s a} (down up), C s a → C (s.linked down up) a
  downWrite : ∀ s n, C s (.downWrite n)
  upWrite : ∀ s n, C s (.upWrite n)

/-- The links carry the packets, and the session over them is reached. -/
structure Reached (B : Bincode) (C : Session → Action → Prop) (b : ByteSession)
    (down : Link (Marked Player SocketPacket)) (up : Link (Marked Conn SocketPacket)) : Prop where
  carries : Over B b down up
  reach : Lts.Reach Session.step C .init (b.session.linked down up)

variable {C : Session → Action → Prop}

theorem reached_init : Reached B C init .empty .empty := ⟨over_init, .init⟩

theorem Reached.step {down : Link (Marked Player SocketPacket)} {up : Link (Marked Conn SocketPacket)}
    (hB : B.Inverse) (hC : Blind C) (h : Reached B C b down up) {a : ByteAction} (hf : Fits B a)
    (hc : Under C b a) (hs : b.step B a = some b') : ∃ down' up', Reached B C b' down' up' := by
  obtain ⟨down', up', hover, hfollows⟩ := h.carries.step hB hf hs
  refine ⟨down', up', hover, ?_⟩
  generalize hs' : b'.session.linked down' up' = s' at hfollows
  cases hfollows with
  | act hstep => exact h.reach.step (hC.linked down up hc) hstep
  | downWrite hstep => exact h.reach.step (hC.downWrite _ _) hstep
  | upWrite hstep => exact h.reach.step (hC.upWrite _ _) hstep
  | downReceive he => exact he ▸ h.reach
  | upReceive he => exact he ▸ h.reach

/-- However the sockets split and join the bytes, what is reached is a session that packets reach, as long as what
is written fits its frame. -/
theorem refines (hB : B.Inverse) (hC : Blind C)
    (h : Lts.Reach (step B) (fun b a => Fits B a ∧ Under C b a) init b) : ∃ down up, Reached B C b down up :=
  h.invariant (I := fun b => ∃ down up, Reached B C b down up) ⟨.empty, .empty, reached_init⟩
    fun _ ⟨_, _, hreached⟩ hc hs => hreached.step hB hC hc.1 hc.2 hs

end ByteSession

/-! ### What a session writes -/

/-- The packets that `handle_writer` and `writer_handler` make. -/
def SocketPacket.ofSession : SocketPacket → Bool
  | .proxyJoin _ | .proxyDisconnect _ | .proxyData _ | .proxyPing _ | .proxyPong _ => true
  | _ => false

theorem SocketPacket.encodable_of_session {p : SocketPacket} (h : p.ofSession = true) (hfits : fits p = true) :
    Encodable BincodeFormat.crate p := by
  cases p with
  | proxyData packet =>
    exact of_decide_eq_true (p := packet.data.bytes.length ≤ 32765 ∧ packet.clientId.toNat ≤ 65535) hfits
  | proxyJoin id => exact ⟨_, rfl, by simp [FixInt.length_le]⟩
  | proxyDisconnect id => exact ⟨_, rfl, by simp [FixInt.length_le]⟩
  | proxyPing ping => exact ⟨_, rfl, by simp [FixInt.length_le]⟩
  | proxyPong ping => exact ⟨_, rfl, by simp [FixInt.length_le]⟩
  | _ => cases h

namespace Session
variable {s s' : Session}

/-- What the two writers hold. -/
structure Writes (s : Session) : Prop where
  writer : ∀ f ∈ HandleWriter.held s.writer, f.val.ofSession = true
  clientWriter : ∀ f ∈ WriterHandler.held s.clientWriter, f.val.ofSession = true

theorem writes_init : Writes init := ⟨(fun _ hf => by cases hf), (fun _ hf => by cases hf)⟩

theorem Writes.endWriter (h : Writes s) : Writes s.endWriter := ⟨(fun _ hf => by cases hf), h.clientWriter⟩

theorem Writes.handleMessage (h : Writes s) (m : Marked Player (ClientToProxy Player Player)) :
    Writes (s.handleMessage m) := by
  apply handleMessage_cases (motive := Writes) s m
  case full => intros; exact h.endWriter
  case gone => intros; exact ⟨(fun _ hf => by cases hf), h.clientWriter⟩
  case unknown => intros; exact ⟨(fun _ hf => by cases hf), h.clientWriter⟩
  case joined => intros; exact ⟨by simp [HandleWriter.held, SocketPacket.ofSession], h.clientWriter⟩
  case packet => intros; exact ⟨by simp [HandleWriter.held, SocketPacket.ofSession], h.clientWriter⟩
  case ping => intros; exact ⟨by simp [HandleWriter.held, SocketPacket.ofSession], h.clientWriter⟩
  case removed => intros; exact ⟨by simp [HandleWriter.held, SocketPacket.ofSession], h.clientWriter⟩

theorem Writes.handleFrame (h : Writes s) (f : Marked Conn SocketPacket) : Writes (s.handleFrame f) := by
  apply handleFrame_cases (motive := Writes) s f
  all_goals intros; exact ⟨h.writer, h.clientWriter⟩

theorem Writes.readerFrame (h : Writes s) (f : Marked Player SocketPacket) : Writes (s.readerFrame f) := by
  apply readerFrame_cases (motive := Writes) s f
  all_goals intros; exact ⟨h.writer, h.clientWriter⟩

theorem Writes.backendMessage (h : Writes s) (m : Marked Conn BackendToProxy) : Writes (s.backendMessage m) := by
  apply backendMessage_cases (motive := Writes) s m
  case packet => intros; exact ⟨h.writer, by simp [WriterHandler.held, SocketPacket.ofSession]⟩
  case remove => intros; exact ⟨h.writer, by simp [WriterHandler.held, SocketPacket.ofSession]⟩
  case ping => intros; exact ⟨h.writer, by simp [WriterHandler.held, SocketPacket.ofSession]⟩
  case ends => exact ⟨h.writer, (fun _ hf => by cases hf)⟩

theorem Writes.step {a : Action} (h : Writes s) (hs : s.step a = some s') : Writes s' := by
  obtain ⟨-, rfl⟩ := step_eq_some hs
  cases a with
  | handleWriter m => exact Writes.handleMessage (s := { s with queue := s.queue.tail }) ⟨h.writer, h.clientWriter⟩ m
  | handleReader f => exact Writes.handleFrame (s := { s with up := s.up.pop f }) ⟨h.writer, h.clientWriter⟩ f
  | readerHandler f => exact Writes.readerFrame (s := { s with down := s.down.pop f }) ⟨h.writer, h.clientWriter⟩ f
  | writerHandler m =>
    exact Writes.backendMessage (s := { s with toProxy := s.toProxy.tail }) ⟨h.writer, h.clientWriter⟩ m
  | handleWriterFeed f | handleWriterEmpty | handleWriterFlushed | handleWriterFails | handleWriterAborted =>
    exact ⟨(fun _ hf => by cases hf), h.clientWriter⟩
  | writerHandlerFeed f | writerHandlerEmpty | writerHandlerFlushed | writerHandlerFails | writerHandlerAborted =>
    exact ⟨h.writer, (fun _ hf => by cases hf)⟩
  | _ => exact ⟨h.writer, h.clientWriter⟩

theorem blind_lossless : ByteSession.Blind Lossless where
  linked _ _ h := h
  downWrite _ _ := ⟨Nat.zero_le _, (fun _ hid => by cases hid), rfl⟩
  upWrite _ _ := ⟨Nat.zero_le _, (fun _ hid => by cases hid), rfl⟩

end Session

namespace ByteSession
variable {b b' : ByteSession}

/-- What the crate encodes in a lossless session fits its frame. -/
theorem Reached.fits {down : Link (Marked Player SocketPacket)} {up : Link (Marked Conn SocketPacket)}
    (h : Reached BincodeFormat.crate Session.Lossless b down up) {a : ByteAction}
    (hs : b.step BincodeFormat.crate a = some b') : Fits BincodeFormat.crate a := by
  have hclean := (h.reach.invariant (I := Session.Pipeline) Session.pipeline_init
    fun _ hp hc hs => hp.step hc hs).clean
  have hwrites := h.reach.invariant (I := Session.Writes) Session.writes_init fun _ hw _ hs => hw.step hs
  cases a with
  | downReceive n => trivial
  | upReceive n => trivial
  | act a =>
    cases a with
    | handleWriterFeed f =>
      simp only [ByteSession.step] at hs
      split at hs
      · next hw =>
        have hmem : f ∈ Session.HandleWriter.held (b.session.linked down up).writer := by
          rw [show (b.session.linked down up).writer = .feed f from hw]
          exact List.mem_singleton_self f
        exact SocketPacket.encodable_of_session (hwrites.writer f hmem) (hclean.writer f hmem)
      · cases hs
    | writerHandlerFeed f =>
      simp only [ByteSession.step] at hs
      split at hs
      · next hw =>
        have hmem : f ∈ Session.WriterHandler.held (b.session.linked down up).clientWriter := by
          rw [show (b.session.linked down up).clientWriter = .feed f from hw]
          exact List.mem_singleton_self f
        exact SocketPacket.encodable_of_session (hwrites.clientWriter f hmem) (hclean.clientWriter f hmem)
      · cases hs
    | _ => trivial

theorem reached_of_lossless (h : Lts.Reach (step BincodeFormat.crate) (Under Session.Lossless) init b) :
    (∃ down up, Reached BincodeFormat.crate Session.Lossless b down up) ∧
      Lts.Reach (step BincodeFormat.crate) (fun b a => Fits BincodeFormat.crate a ∧ Under Session.Lossless b a)
        init b := by
  induction h with
  | init => exact ⟨⟨.empty, .empty, reached_init⟩, .init⟩
  | step _ hc hs ih =>
    obtain ⟨⟨down, up, hreached⟩, hreach⟩ := ih
    have hfits := hreached.fits hs
    exact ⟨hreached.step BincodeFormat.crate_inverse Session.blind_lossless hfits hc hs, hreach.step ⟨hfits, hc⟩ hs⟩

/-- Whatever pieces the bytes of the tunnel come in, what is read from one socket of a player is forwarded to the
other, when no id is given twice, first packets are short and no socket operation fails. The links are only those
whose packets the bytes hold: players and connections are the session's own. -/
theorem forwards (h : Lts.Reach (step BincodeFormat.crate) (Under Session.Lossless) init b) :
    ∃ down up, Over BincodeFormat.crate b down up ∧ Session.Forwarded (b.session.linked down up) := by
  obtain ⟨⟨down, up, hreached⟩, -⟩ := reached_of_lossless h
  have hpipeline := hreached.reach.invariant (I := Session.Pipeline) Session.pipeline_init
    fun _ hp hc hs => hp.step hc hs
  exact ⟨down, up, hreached.carries, hpipeline.forwarded⟩

/-- Player 0 joins and its first packet arrives in three pieces; the byte of the backend arrives after its header. -/
def joinInPieces : List ByteAction :=
  [.act (.connect 0 samplePacket), .act (.handleWriter ⟨.addMinecraftClient 0 0, some 0⟩),
    .act (.handleWriterFeed ⟨.proxyJoin 0, some 0⟩), .act (.sendStart 0 0 samplePacket),
    .act (.downWrite 9), .act (.handleWriter ⟨.packet 0 ⟨samplePacket⟩, some 0⟩),
    .act (.handleWriterFeed ⟨.proxyData ⟨0, ⟨samplePacket⟩⟩, some 0⟩), .act .handleWriterEmpty,
    .downReceive 5, .act (.downWrite 7), .downReceive 10, .act (.readerHandler ⟨.proxyJoin 0, some 0⟩),
    .act (.backendConnected 0), .act (.downWrite 1000), .act .handleWriterFlushed, .downReceive 1000,
    .act (.readerHandler ⟨.proxyData ⟨0, ⟨samplePacket⟩⟩, some 0⟩), .act (.backendRecv 0 ⟨samplePacket, some 0⟩),
    .act (.backendWrite 0 samplePacket samplePacket.length), .act (.backendWritten 0),
    .act (.backendRead 0 [1]), .act (.writerHandler ⟨.packet 0 ⟨[1]⟩, some 0⟩),
    .act (.writerHandlerFeed ⟨.proxyData ⟨0, ⟨[1]⟩⟩, some 0⟩), .act .writerHandlerEmpty, .act (.upWrite 5),
    .upReceive 4, .upReceive 1, .act .writerHandlerFlushed, .act (.handleReader ⟨.proxyData ⟨0, ⟨[1]⟩⟩, some 0⟩),
    .act (.clientWriterTake 0 ⟨[1], some 0⟩), .act (.clientWriterDrained 0), .act (.clientWriterWrite 0 1)]

instance {C : Session → Action → Prop} [∀ s a, Decidable (C s a)] (b : ByteSession) :
    ∀ a, Decidable (Under C b a)
  | .act a => inferInstanceAs (Decidable (C b.session a))
  | .downReceive _ => isTrue trivial
  | .upReceive _ => isTrue trivial

theorem refines_joinInPieces :
    ∃ b, Lts.run (step BincodeFormat.crate) init joinInPieces = some b ∧
      ∃ down up, Reached BincodeFormat.crate Session.Lossless b down up := by
  have h : (Lts.run (step BincodeFormat.crate) init joinInPieces).isSome = true := by decide +kernel
  obtain ⟨b, hrun⟩ := Option.isSome_iff_exists.1 h
  have hreach := Lts.Reach.of_run (C := Under Session.Lossless) hrun (by decide +kernel)
  exact ⟨b, hrun, refines BincodeFormat.crate_inverse Session.blind_lossless (reached_of_lossless hreach).2⟩

theorem forwards_joinInPieces :
    ∃ b, Lts.run (step BincodeFormat.crate) init joinInPieces = some b ∧
      (b.session.conns 0).bytesWritten = samplePacket ∧ (b.session.players 0).bytesWritten = [1] ∧
      ∃ down up, Over BincodeFormat.crate b down up ∧ Session.Forwarded (b.session.linked down up) := by
  obtain ⟨b, hrun, hbackend, hplayer⟩ : ∃ b, Lts.run (step BincodeFormat.crate) init joinInPieces = some b ∧
      (b.session.conns 0).bytesWritten = samplePacket ∧ (b.session.players 0).bytesWritten = [1] := by
    decide +kernel
  exact ⟨b, hrun, hbackend, hplayer, forwards (Lts.Reach.of_run hrun (by decide +kernel))⟩

end ByteSession
end CraftIP
