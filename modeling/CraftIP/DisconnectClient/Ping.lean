import CraftIP.DisconnectClient
import CraftIP.Minecraft.Response

/-!
# The answer to a ping

What `handle_mc_disconnect` writes behind the status response is a function of the first twelve bytes that
follow the hello packet (`pingAnswer`), whichever of them come with the hello and however the later reads are
cut.
-/

namespace CraftIP
open ByteBuf Incremental

/-- What the loop `while buf.len() < 12` can get: the bytes of the reads up to the first that ends the stream,
fails or times out. -/
def arriving : List ReadResult → List UInt8
  | [] => []
  | .data bytes :: reads => if bytes = [] then [] else bytes ++ arriving reads
  | .error :: _ => []
  | .timeout :: _ => []

/-- The loop stops with twelve bytes or more, and takes no further read. -/
theorem collect_full {buf : List UInt8} {reads : List ReadResult} (h : 12 ≤ (buf ++ arriving reads).length) :
    ∃ b t, collect buf reads = .full b ∧ 12 ≤ b.length ∧ b ++ t = buf ++ arriving reads := by
  fun_induction collect buf reads with
  | case1 buf hlt =>
    rw [arriving, List.append_nil] at h
    omega
  | case2 buf hge => exact ⟨buf, [], rfl, by omega, rfl⟩
  | case3 buf reads hlt =>
    rw [arriving, if_pos rfl, List.append_nil] at h
    omega
  | case4 buf reads hlt bytes hne ih =>
    rw [arriving, if_neg hne, ← List.append_assoc] at h ⊢
    exact ih h
  | case5 buf reads hlt =>
    rw [arriving, List.append_nil] at h
    omega
  | case6 buf reads hlt =>
    rw [arriving, List.append_nil] at h
    omega
  | case7 buf read reads hge => exact ⟨buf, arriving (read :: reads), rfl, by omega, rfl⟩

theorem collect_short {buf : List UInt8} {reads : List ReadResult} (h : (buf ++ arriving reads).length < 12) :
    collect buf reads = .waiting ∨ collect buf reads = .ended := by
  fun_induction collect buf reads with
  | case1 => exact .inl rfl
  | case2 buf hge =>
    rw [arriving, List.append_nil] at h
    exact absurd h hge
  | case3 => exact .inr rfl
  | case4 buf reads hlt bytes hne ih =>
    rw [arriving, if_neg hne, ← List.append_assoc] at h
    exact ih h
  | case5 => exact .inr rfl
  | case6 => exact .inr rfl
  | case7 buf read reads hge =>
    rw [List.length_append] at h
    omega

/-- What the twelve bytes are answered with, behind the response: the pong if they are a status request and a
ping. -/
def pingAnswer (resp : List UInt8) (pongWritten : Bool) (twelve : List UInt8) : Disconnect :=
  if twelve.take 4 = [0x01, 0x00, 0x09, 0x01] then
    if pongWritten then .returned [resp, 0x09 :: 0x01 :: twelve.drop 4] else .panic
  else .returned [resp]

variable (generateResponse : GenerateResponse) {packet : MinecraftHelloPacket} {buf : List UInt8}
  {reads : List ReadResult} {pongWritten : Bool}

theorem handleMcDisconnect_full (hping : packet.pkgType = .ping) (hle : packet.length ≤ buf.length)
    (h : 12 ≤ (buf.drop packet.length ++ arriving reads).length) :
    handleMcDisconnect generateResponse packet ⟨buf⟩ reads pongWritten =
      pingAnswer (generateResponse packet).bytes pongWritten
        ((buf.drop packet.length ++ arriving reads).take 12) := by
  obtain ⟨b, t, hcollect, hb, hfollows⟩ := collect_full h
  have htake : (buf.drop packet.length ++ arriving reads).take 12 = b.take 12 := by
    rw [← hfollows, List.take_append_of_le_length hb]
  rw [htake, handleMcDisconnect]
  simp only [hping, ne_eq, not_true_eq_false, if_false, advance, if_pos hle, hcollect]
  obtain ⟨status, b₁, h₁, hlen₁⟩ := getU16_of_le (b := b) (by omega)
  obtain ⟨head, b₂, h₂, hlen₂⟩ := getU16_of_le (b := b₁) (by omega)
  obtain ⟨ping, b₃, h₃, -⟩ := getU64_of_le (b := b₂) (by omega)
  have hb : b.take 12 = be16 status ++ be16 head ++ be64 ping := by
    rw [getU16_eq_some h₁, getU16_eq_some h₂, getU64_eq_some h₃, ← List.append_assoc, ← List.append_assoc]
    exact List.take_left' rfl
  have hfour : (b.take 12).take 4 = be16 status ++ be16 head := by
    rw [hb]
    exact List.take_left' rfl
  have hrest : (b.take 12).drop 4 = be64 ping := by
    rw [hb]
    exact List.drop_left' rfl
  have hiff : be16 status ++ be16 head = [0x01, 0x00, 0x09, 0x01] ↔ status = 0x0100 ∧ head = 0x0901 := by
    rw [← be16_inj, ← be16_inj]
    constructor
    · intro h
      exact List.append_inj h rfl
    · rintro ⟨hstatus, hhead⟩
      rw [hstatus, hhead]
      exact rfl
  simp only [h₁, h₂, h₃, pingAnswer, hfour, hrest, hiff]
  by_cases hstatus : status = 0x0100
  · by_cases hhead : head = 0x0901
    · have hboth : status = 0x0100 ∧ head = 0x0901 := ⟨hstatus, hhead⟩
      rw [if_neg (not_not.2 hstatus), if_neg (not_not.2 hhead), if_pos hboth]
    · rw [if_neg (not_not.2 hstatus), if_pos hhead, if_neg fun h => hhead h.2]
  · rw [if_pos hstatus, if_neg fun h => hstatus h.1]

theorem handleMcDisconnect_short (hping : packet.pkgType = .ping) (hle : packet.length ≤ buf.length)
    (h : (buf.drop packet.length ++ arriving reads).length < 12) :
    handleMcDisconnect generateResponse packet ⟨buf⟩ reads pongWritten =
        .waiting [(generateResponse packet).bytes] ∨
      handleMcDisconnect generateResponse packet ⟨buf⟩ reads pongWritten =
        .returned [(generateResponse packet).bytes] := by
  rw [handleMcDisconnect]
  simp only [hping, ne_eq, not_true_eq_false, if_false, advance, if_pos hle]
  rcases collect_short h with hwaiting | hended
  · rw [hwaiting]
    exact .inl rfl
  · rw [hended]
    exact .inr rfl

/-- For every hello packet of a ping that is parsed from a buffer, and however what follows it is cut into the
rest of the buffer and later reads: the pong is written once if it begins with a status request and a ping, and
nothing is written if its first four bytes are others or if fewer than twelve come. No other buffer and reads
with the same first twelve bytes behind the hello are answered differently. -/
theorem ping_answered (hnew : MinecraftHelloPacket.new buf = .ok (some packet)) (hping : packet.pkgType = .ping)
    (reads : List ReadResult) (pongWritten : Bool) :
    (∀ payload, payload.length = 8 →
      [0x01, 0x00, 0x09, 0x01] ++ payload <+: buf.drop packet.length ++ arriving reads →
      handleMcDisconnect generateResponse packet ⟨buf⟩ reads pongWritten =
        if pongWritten then .returned [(generateResponse packet).bytes, 0x09 :: 0x01 :: payload] else .panic) ∧
    ((buf.drop packet.length ++ arriving reads).take 4 ≠ [0x01, 0x00, 0x09, 0x01] ∨
        (buf.drop packet.length ++ arriving reads).length < 12 →
      handleMcDisconnect generateResponse packet ⟨buf⟩ reads pongWritten =
          .waiting [(generateResponse packet).bytes] ∨
        handleMcDisconnect generateResponse packet ⟨buf⟩ reads pongWritten =
          .returned [(generateResponse packet).bytes]) ∧
    ∀ (buf' : List UInt8) (reads' : List ReadResult), MinecraftHelloPacket.new buf' = .ok (some packet) →
      12 ≤ (buf.drop packet.length ++ arriving reads).length →
      (buf'.drop packet.length ++ arriving reads').take 12 =
        (buf.drop packet.length ++ arriving reads).take 12 →
      handleMcDisconnect generateResponse packet ⟨buf'⟩ reads' pongWritten =
        handleMcDisconnect generateResponse packet ⟨buf⟩ reads pongWritten := by
  have hle := (MinecraftHelloPacket.new_take_length hnew).1
  refine ⟨fun payload hpayload hfollows => ?_, fun h => ?_, fun buf' reads' hnew' h12 htake => ?_⟩
  · obtain ⟨t, ht⟩ := hfollows
    have hlen : ([0x01, 0x00, 0x09, 0x01] ++ payload).length = 12 := by
      rw [List.length_append, hpayload]
      rfl
    have htwelve : (buf.drop packet.length ++ arriving reads).take 12 = [0x01, 0x00, 0x09, 0x01] ++ payload := by
      rw [← ht]
      exact List.take_left' hlen
    have h12 : 12 ≤ (buf.drop packet.length ++ arriving reads).length := by
      rw [← ht, List.length_append, hlen]
      exact Nat.le_add_right _ _
    rw [handleMcDisconnect_full generateResponse hping hle h12, htwelve]
    rfl
  · by_cases h12 : (buf.drop packet.length ++ arriving reads).length < 12
    · exact handleMcDisconnect_short generateResponse hping hle h12
    · have hfour := h.resolve_right h12
      rw [handleMcDisconnect_full generateResponse hping hle (by omega), pingAnswer, List.take_take]
      exact .inr (if_neg hfour)
  · have hle' := (MinecraftHelloPacket.new_take_length hnew').1
    have h12' : 12 ≤ (buf'.drop packet.length ++ arriving reads').length := by
      have hlen := congrArg List.length htake
      rw [List.length_take_of_le h12, List.length_take] at hlen
      omega
    rw [handleMcDisconnect_full generateResponse hping hle h12,
      handleMcDisconnect_full generateResponse hping hle' h12', htake]

/-- A hello packet for the host `a`. -/
def samplePing : List UInt8 := [7, 0, 47, 1, 97, 0x63, 0xDD, 1]

def samplePingPacket : MinecraftHelloPacket where
  length := 8
  pkgType := .ping
  id := 0
  version := 47
  hostname := "a"
  forge := false
  port := 25565

/-- The status request comes with the hello, the ping in two parts, the second with another byte. -/
theorem ping_answered_sample :
    handleMcDisconnect (·.generateResponse Response.sampleJson) samplePingPacket ⟨samplePing ++ [1, 0]⟩
        [.data [9, 1, 1, 2, 3], .data [4, 5, 6, 7, 8, 9], .error] true =
      .returned [(samplePingPacket.generateResponse Response.sampleJson).bytes, [9, 1, 1, 2, 3, 4, 5, 6, 7, 8]] :=
  (ping_answered (·.generateResponse Response.sampleJson)
    (show MinecraftHelloPacket.new (samplePing ++ [1, 0]) = .ok (some samplePingPacket) by decide) rfl
    [.data [9, 1, 1, 2, 3], .data [4, 5, 6, 7, 8, 9], .error] true).1 [1, 2, 3, 4, 5, 6, 7, 8] rfl (by decide)

end CraftIP
