import CraftIP.Minecraft
import CraftIP.PacketCodec
import CraftIP.ProxyHandler

/-!
# A Minecraft client at the server (`server/src/client_handler.rs`)

What the server makes of the bytes of one Minecraft client: the first packet is collected until the
parser accepts the buffer, and that buffer and every later read are forwarded to the proxy client.
-/

namespace CraftIP
open ByteBuf Unicode SocketPacket PacketCodec
open MinecraftHelloPacket (oldConnect)
open CraftIP.Parser (utf16String length_utf16String length_flatMap_be16)

/-- What a read of a socket comes to; `data []` is the end of the stream. -/
inductive ReadResult where
  | data (bytes : List UInt8)
  | error
  | timeout
deriving DecidableEq, Repr

inductive FirstPacket where
  | waiting
  | error
  | panic
  | ok (packet : MinecraftHelloPacket) (data : MinecraftDataPacket) (later : List ReadResult)
deriving DecidableEq, Repr

/-- `first_minecraft_packet`: the loop over the reads, with the buffer as it grows. An error of the
parser is no reason to stop. -/
def firstMinecraftPacket (buf : List UInt8) : List ReadResult → FirstPacket
  | [] => .waiting
  | .error :: _ => .error
  | .timeout :: _ => .error
  | .data bytes :: reads =>
    let buf := buf ++ bytes
    match MinecraftHelloPacket.new buf with
    | .ok (some packet) => .ok packet ⟨buf⟩ reads
    | .panic => .panic
    | _ => firstMinecraftPacket buf reads

namespace MCClient
variable {Tx : Type}

/-- `client_reader`: the messages it sends. -/
def clientReader (id : ClientID) : List ReadResult → List (ClientToProxy Tx Tx)
  | [] => []
  | .data [] :: _ => []
  | .data bytes :: reads => .packet id ⟨bytes⟩ :: clientReader id reads
  | .error :: _ => []
  | .timeout :: _ => []

/-- `MCClient::new` and `handle`: the messages of a client that is given the id. -/
def messages (tx : Tx) (id : ClientID) (startData : MinecraftDataPacket) (reads : List ReadResult) :
    List (ClientToProxy Tx Tx) :=
  .addMinecraftClient tx tx :: .packet id startData ::
    (clientReader id reads ++ [.removeMinecraftClient id])

end MCClient

/-- `handle_minecraft_client`: the session's channel and the messages that are sent to it; `none` when
there is no first packet or the server is not registered. -/
def handleMinecraftClient {ProxyTx Tx : Type} (register : Register ProxyTx) (tx : Tx) (id : ClientID)
    (reads : List ReadResult) : Option (ProxyTx × List (ClientToProxy Tx Tx)) :=
  match firstMinecraftPacket [] reads with
  | .ok packet data later =>
    match register.getServer (cleanUpHostname packet.hostname) with
    | some proxyTx => some (proxyTx, MCClient.messages tx id data later)
    | none => none
  | _ => none

/-! ### The buffer of the first packet -/

/-- The bytes of the reads up to the first that brings none. -/
def received : List ReadResult → List UInt8
  | .data bytes :: reads => bytes ++ received reads
  | _ => []

/-- The first packet is the first buffer that the parser accepts. -/
theorem firstMinecraftPacket_eq_ok {buf : List UInt8} {reads : List ReadResult}
    {packet : MinecraftHelloPacket} {data : MinecraftDataPacket} {later : List ReadResult}
    (h : firstMinecraftPacket buf reads = .ok packet data later) :
    ∃ chunks, reads = chunks ++ later ∧ data.bytes = buf ++ received chunks ∧
      (∀ l, received (chunks ++ l) = received chunks ++ received l) ∧
      MinecraftHelloPacket.new data.bytes = .ok (some packet) ∧
      ∀ k, 0 < k → k < chunks.length →
        ∀ p, MinecraftHelloPacket.new (buf ++ received (chunks.take k)) ≠ .ok (some p) := by
  induction reads generalizing buf with
  | nil => cases h
  | cons r reads ih =>
    cases r with
    | error => cases h
    | timeout => cases h
    | data bytes =>
      simp only [firstMinecraftPacket] at h
      split at h
      · next p hp =>
        cases h
        refine ⟨[.data bytes], rfl, by simp [received], by simp [received], hp, fun k h1 h2 => ?_⟩
        rw [List.length_singleton] at h2; omega
      · cases h
      · next hne hpanic =>
        obtain ⟨chunks, rfl, hdata, happ, hnew, hmin⟩ := ih h
        refine ⟨.data bytes :: chunks, rfl, by simp [received, hdata], fun l => ?_, hnew, ?_⟩
        · simp only [List.cons_append, received, happ, List.append_assoc]
        · intro k hk hlt p
          rw [List.length_cons] at hlt
          match k with
          | 1 => simpa [received] using hne p
          | k + 2 =>
            have := hmin (k + 1) (by omega) (by omega) p
            simpa [received, List.append_assoc] using this

/-- Reads that only bring the parser to ask for more are put together. -/
theorem firstMinecraftPacket_incomplete {buf : List UInt8} {chunks : List (List UInt8)}
    (h : ∀ k, 0 < k → k ≤ chunks.length →
      MinecraftHelloPacket.new (buf ++ (chunks.take k).flatten) = .ok none) (reads : List ReadResult) :
    firstMinecraftPacket buf (chunks.map .data ++ reads) =
      firstMinecraftPacket (buf ++ chunks.flatten) reads := by
  induction chunks generalizing buf with
  | nil => simp
  | cons c chunks ih =>
    have h1 := h 1 (by omega) (by simp)
    simp only [List.take_succ_cons, List.take_zero, List.flatten_cons, List.flatten_nil,
      List.append_nil] at h1
    rw [List.map_cons, List.cons_append, firstMinecraftPacket, h1]
    simp only
    rw [ih, List.flatten_cons, List.append_assoc]
    intro k hk hle
    have := h (k + 1) (by omega) (by rw [List.length_cons]; omega)
    rwa [List.take_succ_cons, List.flatten_cons, ← List.append_assoc] at this

/-- The first packet is short exactly when the parser accepts some short beginning of the stream. -/
theorem firstMinecraftPacket_length_le_iff {reads : List ReadResult} {packet : MinecraftHelloPacket}
    {data : MinecraftDataPacket} {later : List ReadResult}
    (h : firstMinecraftPacket [] reads = .ok packet data later) (n : Nat) :
    data.bytes.length ≤ n ↔ ∃ k, (received (reads.take k)).length ≤ n ∧
      ∃ p, MinecraftHelloPacket.new (received (reads.take k)) = .ok (some p) := by
  obtain ⟨chunks, rfl, hdata, happ, hnew, hmin⟩ := firstMinecraftPacket_eq_ok h
  rw [List.nil_append] at hdata
  constructor
  · intro hlen
    refine ⟨chunks.length, ?_, packet, ?_⟩
    · rw [List.take_left, ← hdata]; exact hlen
    · rw [List.take_left, ← hdata]; exact hnew
  · rintro ⟨k, hk, p, hp⟩
    by_cases hlt : k < chunks.length
    · rw [List.take_append_of_le_length (by omega)] at hp
      cases k with
      | zero => cases hp
      | succ k => exact absurd hp (hmin (k + 1) (by omega) hlt p)
    · rw [List.take_append, List.take_of_length_le (by omega), happ, List.length_append, ← hdata] at hk
      omega

/-! ### Frames of the forwarded packets -/

variable {B : Bincode}

/-- The packet gets over the wire: its frame gives it back and leaves what follows. -/
def Framed (B : Bincode) (p : SocketPacket) : Prop :=
  ∃ f, encodeInto B p [] = .ok f ∧ ∀ rest, decodeFrom B (f ++ rest) = (.ok (some p), rest)

/-- The 15 bits of the length field hold a data packet of at most 32765 bytes. -/
theorem framed_data_iff {id : ClientID} (hid : id.toNat ≤ 65535) (data : List UInt8) :
    Framed B (.proxyData ⟨id, ⟨data⟩⟩) ↔ data.length ≤ 32765 := by
  have hf := encodeInto_proxyData (B := B) id data []
  constructor
  · rintro ⟨f, he, hdec⟩
    by_contra hlong
    rw [hf] at he
    have hrest := hdec []
    cases he
    simp only [be16, List.nil_append, List.cons_append, List.append_nil] at hrest
    have hbit : 32768 ≤ (UInt16.ofNat (data.length + 2) ||| ((1 : UInt16) <<< 15)).toNat := by
      rw [toNat_set15]; omega
    generalize UInt16.ofNat (data.length + 2) ||| ((1 : UInt16) <<< 15) = x at hrest hbit
    have hhi : 128 ≤ (x / 256).toUInt8.toNat := by rw [toNat_hi]; omega
    have hlt := declared_lt (x / 256).toUInt8 x.toUInt8
    by_cases h2 : declared (x / 256).toUInt8 x.toUInt8 < 2
    · -- the length wraps round to less than the client id takes: the peer's decoder panics
      have hbody : declared (x / 256).toUInt8 x.toUInt8 ≤ (be16 id.toUInt16 ++ data).length := by
        rw [List.length_append, length_be16]; omega
      have hp := decodeFrom_data_panic (B := B) hhi h2 hbody
      simp only [be16, List.cons_append, List.nil_append, hrest] at hp
      cases hp
    · -- a shorter packet is read and the rest of the data is taken for frames
      rw [decodeFrom_data hhi (by omega) (by omega)] at hrest
      have hl := congrArg List.length (Prod.mk.inj hrest).2
      rw [List.length_drop, List.length_nil] at hl
      omega
  · intro hlen
    refine ⟨_, hf, fun rest => ?_⟩
    have hd := decoder_data_frame (B := B) hlen hid rest
    rw [List.nil_append, ← frame_proxyData]
    exact decodeFrom_of_item hd

/-- The messages of a client that carry data are its first packet and its later reads. -/
theorem mem_messages {Tx : Type} {tx : Tx} {id id' : ClientID} {startData pkg : MinecraftDataPacket}
    {reads : List ReadResult} (h : .packet id' pkg ∈ MCClient.messages tx id startData reads) :
    id' = id ∧ (pkg = startData ∨ .data pkg.bytes ∈ reads) := by
  have hreader : ∀ {reads}, .packet id' pkg ∈ (MCClient.clientReader id reads : List (ClientToProxy Tx Tx)) →
      id' = id ∧ .data pkg.bytes ∈ reads := by
    intro reads
    fun_induction MCClient.clientReader id reads <;> intro h
    case case3 bytes reads _ ih =>
      rcases List.mem_cons.1 h with h | h
      · cases h; exact ⟨rfl, List.mem_cons_self⟩
      · exact ⟨(ih h).1, List.mem_cons_of_mem _ (ih h).2⟩
    all_goals exact absurd h List.not_mem_nil
  simp only [MCClient.messages, List.mem_cons, List.mem_append, List.not_mem_nil, or_false, reduceCtorEq,
    false_or, ClientToProxy.packet.injEq] at h
  rcases h with ⟨rfl, rfl⟩ | h
  · exact ⟨rfl, .inl rfl⟩
  · exact ⟨(hreader h).1, .inr (hreader h).2⟩

/-- Whether everything a Minecraft client sends gets over the wire is decided by its first packet: the
parser must accept a beginning of the stream that fits into one frame. -/
theorem packets_framed_iff {ProxyTx Tx : Type} (register : Register ProxyTx) (tx : Tx) {id : ClientID}
    (hid : id.toNat < MAXIMUM_CLIENTS) {reads later : List ReadResult} {hello : MinecraftHelloPacket}
    {data : MinecraftDataPacket} (hfirst : firstMinecraftPacket [] reads = .ok hello data later)
    (hcap : ∀ bytes, .data bytes ∈ later → bytes.length ≤ 2048) {proxyTx : ProxyTx}
    {messages : List (ClientToProxy Tx Tx)}
    (h : handleMinecraftClient register tx id reads = some (proxyTx, messages)) :
    (∀ id' pkg, .packet id' pkg ∈ messages → id' = id ∧ Framed B (.proxyData ⟨id', pkg⟩)) ↔
      ∃ k, (received (reads.take k)).length ≤ 32765 ∧
        ∃ p, MinecraftHelloPacket.new (received (reads.take k)) = .ok (some p) := by
  have hid : id.toNat ≤ 65535 := by rw [MAXIMUM_CLIENTS] at hid; omega
  rw [← firstMinecraftPacket_length_le_iff hfirst]
  obtain rfl : messages = MCClient.messages tx id data later := by
    simp only [handleMinecraftClient, hfirst] at h
    split at h <;> cases h
    rfl
  constructor
  · intro hall
    exact (framed_data_iff hid _).1 (hall id data (by simp [MCClient.messages])).2
  · intro hlen id' pkg hmem
    obtain ⟨rfl, rfl | hlater⟩ := mem_messages hmem
    · exact ⟨rfl, (framed_data_iff hid _).2 hlen⟩
    · have := hcap _ hlater
      exact ⟨rfl, (framed_data_iff hid _).2 (by omega)⟩

/-! ### A username that is too long -/

def sampleHostname : String := "3grfiewn7rkrpizi11dm.t.craftip.net"

/-- A register that knows one server. -/
def sampleRegister : Register Unit := ⟨fun h => if h = sampleHostname then some () else none⟩

/-- A legacy connect packet for that server. -/
def samplePacket : List UInt8 := oldConnect 74 ['a'] sampleHostname.toList 25565

/-- `n` times the letter `a` in UTF-16. -/
def letters (n : Nat) : List UInt8 := (List.replicate n (0x61 : UInt16)).flatMap be16

/-- A legacy connect packet with a username of 16400 letters, in reads of at most 2048 bytes. -/
def longReads : List ReadResult :=
  ((0x02 :: 74 :: (be16 16400 ++ letters 1022)) :: List.replicate 15 (letters 1024)).map .data ++
    [.data (letters 18 ++ (utf16String sampleHostname.toList ++ be32 25565))]

theorem length_letters (n : Nat) : (letters n).length = n * 2 := by
  rw [letters, length_flatMap_be16, List.length_replicate]

theorem letters_add (n m : Nat) : letters n ++ letters m = letters (n + m) := by
  rw [letters, letters, ← List.flatMap_append, List.replicate_append_replicate]; rfl

theorem flatten_replicate_letters (k n : Nat) :
    (List.replicate k (letters n)).flatten = letters (k * n) := by
  induction k with
  | zero => rw [Nat.zero_mul]; rfl
  | succ k ih => rw [List.replicate_succ, List.flatten_cons, ih, letters_add]; congr 1; rw [Nat.succ_mul]; omega

theorem utf16_replicate (n : Nat) : utf16 (List.replicate n 'a') = List.replicate n 0x61 := by
  induction n with
  | zero => rfl
  | succ n ih =>
    rw [List.replicate_succ, List.replicate_succ, ← ih]; rfl

/-- The parser accepts the packet at the last read, when 32878 bytes are in the buffer. -/
theorem firstMinecraftPacket_longReads :
    ∃ hello data, hello.hostname = String.ofList sampleHostname.toList ∧
      firstMinecraftPacket [] longReads = .ok hello ⟨data⟩ [] ∧ 32765 < data.length := by
  have hu : (utf16 (List.replicate 16400 'a')).length = 16400 := by
    rw [utf16_replicate, List.length_replicate]
  obtain ⟨hello, hhost, hnew⟩ := MinecraftHelloPacket.exists_new_oldConnect 74 (List.replicate 16400 'a')
    sampleHostname.toList 25565 (by omega) (by decide)
  have hlen := MinecraftHelloPacket.length_oldConnect 74 (List.replicate 16400 'a')
    sampleHostname.toList 25565
  refine ⟨hello, _, hhost, ?_, show 32765 <
    (oldConnect 74 (List.replicate 16400 'a') sampleHostname.toList 25565).length by omega⟩
  rw [longReads, firstMinecraftPacket_incomplete]
  · have hbytes : 0x02 :: 74 :: (be16 16400 ++ letters (1022 + 15 * 1024)) ++
        (letters 18 ++ (utf16String sampleHostname.toList ++ be32 25565)) =
        oldConnect 74 (List.replicate 16400 'a') sampleHostname.toList 25565 := by
      have hletters : letters (1022 + 15 * 1024) ++ letters 18 = letters 16400 := letters_add _ _
      have hname : utf16String (List.replicate 16400 'a') = be16 16400 ++ letters 16400 := by
        rw [utf16String, utf16_replicate, List.length_replicate]; rfl
      rw [oldConnect, hname, ← hletters]
      simp only [List.cons_append, List.append_assoc]
    rw [List.nil_append, List.flatten_cons, flatten_replicate_letters, List.cons_append, List.cons_append,
      List.append_assoc, letters_add, firstMinecraftPacket, hbytes, hnew]
  · intro k hk hle
    obtain ⟨k, rfl⟩ : ∃ j, k = j + 1 := ⟨k - 1, by omega⟩
    rw [List.nil_append, List.take_succ_cons, List.take_replicate, List.flatten_cons,
      flatten_replicate_letters, List.cons_append, List.cons_append, List.append_assoc, letters_add]
    refine MinecraftHelloPacket.new_oldConnect_short 74 16400 ?_
    rw [length_letters]
    show (1022 + min k 15 * 1024) * 2 ≤ 16400 * 2
    omega

theorem getServer_sampleRegister {hostname : String}
    (h : hostname = String.ofList sampleHostname.toList) :
    sampleRegister.getServer (cleanUpHostname hostname) = some () := by
  rw [h]; decide

theorem longReads_le {bytes : List UInt8} (h : .data bytes ∈ longReads) : bytes.length ≤ 2048 := by
  simp only [longReads, List.map_cons, List.map_replicate, List.mem_append, List.mem_cons,
    List.mem_replicate, ReadResult.data.injEq, List.not_mem_nil, or_false] at h
  rcases h with (rfl | ⟨-, rfl⟩) | rfl
  · simp [length_letters]
  · simp [length_letters]
  · simp only [List.length_append, length_letters, length_utf16String, length_be32]; decide

/-- The packet is forwarded as one data packet, and its frame does not give it back. -/
theorem long_username_not_framed :
    (∀ bytes, .data bytes ∈ longReads → bytes.length ≤ 2048) ∧
      ∃ messages, handleMinecraftClient sampleRegister () 0 longReads = some ((), messages) ∧
        ∃ pkg, .packet 0 pkg ∈ messages ∧ ¬ Framed BincodeFormat.crate (.proxyData ⟨0, pkg⟩) := by
  obtain ⟨hello, data, hhost, hfirst, hlen⟩ := firstMinecraftPacket_longReads
  have hmsgs : handleMinecraftClient sampleRegister () 0 longReads =
      some ((), MCClient.messages () 0 ⟨data⟩ []) := by
    rw [handleMinecraftClient, hfirst]
    simp only [getServer_sampleRegister hhost]
  refine ⟨fun _ => longReads_le, _, hmsgs, ⟨data⟩, by simp [MCClient.messages], ?_⟩
  rw [framed_data_iff (by decide)]
  omega

/-- A short legacy connect packet and one more read: everything gets over the wire. -/
theorem packets_framed_short :
    ∃ messages, handleMinecraftClient sampleRegister () 7
        [.data samplePacket, .data [1, 2], .data []] = some ((), messages) ∧
      ∀ id pkg, .packet id pkg ∈ messages → id = 7 ∧ Framed BincodeFormat.crate (.proxyData ⟨id, pkg⟩) := by
  obtain ⟨hello, hhost, hnew⟩ := MinecraftHelloPacket.exists_new_oldConnect 74 ['a']
    sampleHostname.toList 25565 (by decide) (by decide)
  have hfirst : firstMinecraftPacket [] [.data samplePacket, .data [1, 2], .data []] =
      .ok hello ⟨samplePacket⟩ [.data [1, 2], .data []] := by
    rw [firstMinecraftPacket, List.nil_append, samplePacket, hnew]
  have hmsgs : handleMinecraftClient sampleRegister () 7 [.data samplePacket, .data [1, 2], .data []] =
      some ((), MCClient.messages () 7 ⟨samplePacket⟩ [.data [1, 2], .data []]) := by
    simp only [handleMinecraftClient, hfirst, getServer_sampleRegister hhost]
  refine ⟨_, hmsgs, (packets_framed_iff sampleRegister () (by decide) hfirst ?_ hmsgs).2 ⟨1, ?_, hello, ?_⟩⟩
  · intro bytes hmem
    simp only [List.mem_cons, ReadResult.data.injEq, List.not_mem_nil, or_false] at hmem
    rcases hmem with rfl | rfl <;> decide
  · simp only [List.take_succ_cons, List.take_zero, received, List.append_nil]
    rw [samplePacket, MinecraftHelloPacket.length_oldConnect]; decide
  · simp only [List.take_succ_cons, List.take_zero, received, List.append_nil]
    exact hnew

end CraftIP
