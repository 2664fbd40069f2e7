import CraftIP.ClientHandler.FirstPacket
import CraftIP.Minecraft.Stability
import CraftIP.PacketCodec

/-!
# What kind of client it is (`process_socket_connection`)

The server looks at the first seven bytes of a connection without taking them. If they are the identifier,
it is a proxy client, and the identifier and a version are read before the frames; if not, it is a Minecraft
client, and its first packet is read from the start. However the bytes of a connection come and are cut, the
one kind is never taken for the other (`detection`).
-/

namespace CraftIP
open ByteBuf StreamDecoder PacketCodec SocketPacket
open Unicode (utf8)

/-- How many bytes `first_buf` has. -/
def identifierLength : Nat := (utf8 PROXY_IDENTIFIER).length

/-- The loop around `peek`. Each number is how many bytes of the stream have come by a peek; after the last,
the timeout comes first. -/
def peekLoop (stream : List UInt8) : List Nat → Option (List UInt8)
  | [] => none
  | n :: peeks =>
    let firstBuf := (stream.take n).take identifierLength
    if firstBuf.length = identifierLength then some firstBuf else peekLoop stream peeks

/-- `read_exact`, and what the reads bring after it; `none` when the stream is over before. -/
def readExact (n : Nat) : List (List UInt8) → Option (List UInt8 × List (List UInt8))
  | [] => if n = 0 then some ([], []) else none
  | chunk :: chunks =>
    if n ≤ chunk.length then some (chunk.take n, chunk.drop n :: chunks)
    else (readExact (n - chunk.length) chunks).map (Prod.map (chunk ++ ·) id)

/-- `read_u16` -/
def readU16 (chunks : List (List UInt8)) : Option (UInt16 × List (List UInt8)) :=
  (readExact 2 chunks).bind fun x => (getU16 x.1).map (Prod.map id fun _ => x.2)

/-- What has become of a connection when all that is sent over it was read. -/
inductive Detected where
  | unrecognised
  | minecraft (first : FirstPacket)
  | closed
  | proxy (version : UInt16) (packets : List SocketPacket) (rest : Option (List UInt8))
deriving DecidableEq, Repr

/-- `process_socket_connection` up to what it makes of the bytes. The chunks are what each read brings. -/
def processSocketConnection (B : Bincode) (peeks : List Nat) (chunks : List (List UInt8)) : Detected :=
  match peekLoop chunks.flatten peeks with
  | none => .unrecognised
  | some firstBuf =>
    if firstBuf ≠ utf8 PROXY_IDENTIFIER then .minecraft (firstMinecraftPacket [] (chunks.map .data))
    else
      match readExact identifierLength chunks with
      | none => .closed
      | some (_, chunks) =>
        match readU16 chunks with
        | none => .closed
        | some (version, chunks) =>
          .proxy version (feedAll (decoder B) (some []) chunks).1 (feedAll (decoder B) (some []) chunks).2

/-- What `Client::connect` writes when it has connected. -/
def Client.identification (version : UInt16) : List UInt8 := utf8 PROXY_IDENTIFIER ++ be16 version

/-! ### The loop around `peek` -/

theorem peekLoop_eq {stream : List UInt8} {peeks : List Nat} (hlen : identifierLength ≤ stream.length)
    (hpeeks : ∃ n ∈ peeks, identifierLength ≤ n) :
    peekLoop stream peeks = some (stream.take identifierLength) := by
  induction peeks with
  | nil =>
    obtain ⟨n, hn, -⟩ := hpeeks
    cases hn
  | cons n peeks ih =>
    simp only [peekLoop, List.take_take, List.length_take]
    split
    · next h => rw [Nat.min_eq_left (by omega)]
    · next h =>
      refine ih ?_
      obtain ⟨m, hm, hle⟩ := hpeeks
      rcases List.mem_cons.1 hm with rfl | hm
      · omega
      · exact ⟨m, hm, hle⟩

/-! ### Reading a number of bytes -/

theorem readExact_eq {n : Nat} {chunks : List (List UInt8)} (h : n ≤ chunks.flatten.length) :
    ∃ rest, readExact n chunks = some (chunks.flatten.take n, rest) ∧ rest.flatten = chunks.flatten.drop n := by
  induction chunks generalizing n with
  | nil =>
    obtain rfl := Nat.le_zero.1 h
    exact ⟨[], rfl, rfl⟩
  | cons chunk chunks ih =>
    rw [List.flatten_cons, List.length_append] at h
    rw [List.flatten_cons]
    by_cases hn : n ≤ chunk.length
    · refine ⟨chunk.drop n :: chunks, ?_, ?_⟩
      · rw [readExact, if_pos hn, List.take_append_of_le_length hn]
      · rw [List.flatten_cons, List.drop_append_of_le_length hn]
    · have hle : chunk.length ≤ n := Nat.le_of_not_le hn
      obtain ⟨rest, hread, hrest⟩ := ih (n := n - chunk.length) (by omega)
      refine ⟨rest, ?_, ?_⟩
      · rw [readExact, if_neg hn, hread, List.take_append, List.take_of_length_le hle]
        rfl
      · rw [hrest, List.drop_append, List.drop_of_length_le hle, List.nil_append]

theorem readU16_eq {version : UInt16} {q : List UInt8} {chunks : List (List UInt8)}
    (h : chunks.flatten = be16 version ++ q) :
    ∃ rest, readU16 chunks = some (version, rest) ∧ rest.flatten = q := by
  have hlen : (be16 version).length = 2 := length_be16 version
  have hle : 2 ≤ chunks.flatten.length := by
    rw [h, List.length_append]
    omega
  obtain ⟨rest, hread, hrest⟩ := readExact_eq hle
  rw [h, List.take_left' hlen] at hread
  rw [h, List.drop_left' hlen] at hrest
  refine ⟨rest, ?_, hrest⟩
  have hget := getU16_be16_append version []
  rw [List.append_nil] at hget
  rw [readU16, hread, Option.bind_some, hget]
  rfl

/-! ### The first packet of a Minecraft client -/

namespace MinecraftHelloPacket
open Incremental
variable {buf : List UInt8} {p : MinecraftHelloPacket}

/-- No hello packet is shorter than what the server looks at. -/
theorem le_length_of_new (h : new buf = .ok (some p)) : identifierLength ≤ p.length := by
  have hid : identifierLength = 7 := by decide
  have h₂ : 2 ≤ buf.length := by
    by_contra hlt
    rw [new_parserOf, if_pos (by omega)] at h
    cases h
  rw [new_of_two_le h₂, parse_eq_ok] at h
  obtain ⟨c, h⟩ := h
  unfold parserOf at h
  split at h
  · obtain ⟨restData, version, port, -, -, -, hp⟩ := oldPingPkg_eq_ok h
    have hl := length_oldPingWith restData version p.hostname.toList port
    rw [hp]
    show identifierLength ≤ (oldPingWith restData version p.hostname.toList port).length
    omega
  · split at h
    · obtain ⟨version, port, username, -, -, -, hp⟩ := oldConnectPkg_eq_ok h
      have hl := length_oldConnect version username.toList p.hostname.toList port
      rw [hp]
      show identifierLength ≤ (oldConnect version username.toList p.hostname.toList port).length
      omega
    · obtain ⟨k, -, rfl, -, -⟩ := newPkg_eq_ok h
      have hlength := k.lengthVarint.encoded.length_pos
      have hidBytes := k.idVarint.encoded.length_pos
      have hversion := k.versionVarint.encoded.length_pos
      have hsize := k.hostnameString.varint.encoded.length_pos
      have hstate := k.stateVarint.encoded.length_pos
      show identifierLength ≤ k.bytes.length
      rw [k.length_bytes, Handshake.head]
      simp only [List.length_append, length_be16]
      omega

/-- What a proxy client begins with is no hello packet. -/
theorem not_new_identifier (s : List UInt8) : new (utf8 PROXY_IDENTIFIER ++ s) ≠ .ok (some p) := by
  have he : new (utf8 PROXY_IDENTIFIER) = .err .notMatching := by decide
  rw [new_decides.stable (fun hw => by rw [he] at hw; cases hw) s, he]
  intro hne
  cases hne

end MinecraftHelloPacket

/-! ### What the server makes of a connection -/

/-- However the bytes of a connection come and are cut into reads: one that begins with an acceptable hello
packet is a Minecraft client's, and the packet is read, and one that begins with what `Client::connect` writes
is a proxy client's, and the frames that follow give back their packets, of a part of them those that are
whole. -/
theorem detection (B : Bincode) (hB : B.Inverse) (peeks : List Nat) (chunks : List (List UInt8)) :
    (∀ p, MinecraftHelloPacket.new chunks.flatten = .ok (some p) → (∃ n ∈ peeks, p.length ≤ n) →
      ∃ first, processSocketConnection B peeks chunks = .minecraft first ∧ first.hello = some p) ∧
    ∀ version ps s q, (∀ p ∈ ps, Encodable B p) → encodeAll B ps [] = .ok s → q <+: s →
      chunks.flatten = Client.identification version ++ q → (∃ n ∈ peeks, identifierLength ≤ n) →
      ∃ rest, processSocketConnection B peeks chunks = .proxy version (fitting (frame B) ps q.length) (some rest) ∧
        (q = s → fitting (frame B) ps q.length = ps ∧ rest = []) := by
  constructor
  · rintro p hnew ⟨n, hn, hle⟩
    have hlength := MinecraftHelloPacket.le_length_of_new hnew
    have hstream := (MinecraftHelloPacket.new_take_length hnew).1
    have hid : chunks.flatten.take identifierLength ≠ utf8 PROXY_IDENTIFIER := by
      intro he
      rw [← List.take_append_drop identifierLength chunks.flatten, he] at hnew
      exact MinecraftHelloPacket.not_new_identifier _ hnew
    refine ⟨firstMinecraftPacket [] (chunks.map .data), ?_, ?_⟩
    · rw [processSocketConnection, peekLoop_eq (by omega) ⟨n, hn, by omega⟩]
      exact if_pos hid
    · have hhello := hello_firstMinecraftPacket goesOn_nil chunks []
      rw [List.append_nil, List.nil_append, hnew] at hhello
      exact hhello
  · intro version ps s q hP hs hq hstream hpeeks
    obtain rfl : s = (ps.map (frame B)).flatten := encodeAll_ok hs
    have hd := decoder_stable B
    have hf := decoder_frames hB
    have hlen : (utf8 PROXY_IDENTIFIER).length = identifierLength := rfl
    rw [Client.identification, List.append_assoc] at hstream
    have hle : identifierLength ≤ chunks.flatten.length := by
      rw [hstream, List.length_append]
      exact Nat.le_add_right _ _
    obtain ⟨afterIdent, hread, hafter⟩ := readExact_eq hle
    rw [hstream, List.drop_left' hlen] at hafter
    obtain ⟨frames, hversion, hframes⟩ := readU16_eq hafter
    have hproxy : processSocketConnection B peeks chunks =
        .proxy version (feedAll (decoder B) (some []) frames).1 (feedAll (decoder B) (some []) frames).2 := by
      rw [processSocketConnection, peekLoop_eq hle hpeeks, hstream, List.take_left' hlen]
      simp only [ne_eq, not_true_eq_false, if_false, hread, hversion]
    rw [feedAll_eq_drain hd [] hd.nil, List.nil_append, hframes] at hproxy
    obtain ⟨hpackets, rest, hrest⟩ := drain_cut hd hf ps hP hq
    rw [hpackets, hrest] at hproxy
    refine ⟨rest, hproxy, ?_⟩
    rintro rfl
    have hall := drain_frames hd hf ps hP
    rw [hall] at hpackets hrest
    cases hrest
    exact ⟨hpackets.symm, rfl⟩

/-- A legacy connect packet in two reads, and a proxy client that sends a ping and a part of another. -/
theorem detection_sample :
    (∃ first, processSocketConnection BincodeFormat.crate [3, 80] [samplePacket.take 3, samplePacket.drop 3] =
      .minecraft first ∧ first.hello ≠ none) ∧
    ∃ rest, processSocketConnection BincodeFormat.crate [2, 7]
      [[67, 114], [97, 102, 116, 73, 80, 0], [5, 0, 6, 9, 0, 0, 0], [1, 0, 0, 6]] =
        .proxy 5 [.proxyPing 1] (some rest) := by
  constructor
  · obtain ⟨p, -, hnew⟩ := MinecraftHelloPacket.exists_new_oldConnect 74 ['a'] sampleHostname.toList
      25565 (by decide) (by decide)
    obtain ⟨first, hfirst, hhello⟩ := (detection BincodeFormat.crate BincodeFormat.crate_inverse [3, 80]
      [samplePacket.take 3, samplePacket.drop 3]).1 p hnew
        ⟨80, by simp, (MinecraftHelloPacket.new_take_length hnew).1.trans (by decide)⟩
    exact ⟨first, hfirst, by rw [hhello]; simp⟩
  · obtain ⟨rest, hproxy, -⟩ := (detection BincodeFormat.crate BincodeFormat.crate_inverse [2, 7]
      [[67, 114], [97, 102, 116, 73, 80, 0], [5, 0, 6, 9, 0, 0, 0], [1, 0, 0, 6]]).2 5 [.proxyPing 1, .proxyPing 1]
        [0, 6, 9, 0, 0, 0, 1, 0, 0, 6, 9, 0, 0, 0, 1, 0] [0, 6, 9, 0, 0, 0, 1, 0, 0, 6] (fun p hp => by
          obtain rfl : p = .proxyPing 1 := by simpa using hp
          exact ⟨_, rfl, by decide⟩) (by decide) ⟨[9, 0, 0, 0, 1, 0], rfl⟩ (by decide) ⟨7, by simp, by decide⟩
    have hfit : fitting (frame BincodeFormat.crate) [.proxyPing 1, .proxyPing 1] 10 = [.proxyPing 1] := by decide
    exact ⟨rest, hproxy.trans (congrArg (Detected.proxy 5 · (some rest)) hfit)⟩

end CraftIP
