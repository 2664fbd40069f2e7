import CraftIP.ClientHandler
import CraftIP.Minecraft.Stability

/-!
# The answer to a client whose server is offline (`server/src/disconnect_client.rs`)

The status response, and the answer to a ping that follows the hello packet. The function slices the
buffer in which the hello was found at the length the parser gave it.
-/

namespace CraftIP
open ByteBuf Incremental

/-- What `handle_mc_disconnect` has come to after the given reads, and what it has written. -/
inductive Disconnect where
  | waiting (written : List (List UInt8))
  | returned (written : List (List UInt8))
  | panic
deriving DecidableEq, Repr

/-- How the loop `while buf.len() < 12` ends. -/
inductive Collected where
  | waiting
  | ended
  | full (buf : List UInt8)
deriving DecidableEq, Repr

def collect (buf : List UInt8) : List ReadResult → Collected
  | [] => if buf.length < 12 then .waiting else .full buf
  | read :: reads =>
    if buf.length < 12 then
      match read with
      | .data [] => .ended
      | .data bytes => collect (buf ++ bytes) reads
      | .error => .ended
      | .timeout => .ended
    else .full buf

/-- What `generate_response` makes of the packet. -/
abbrev GenerateResponse := MinecraftHelloPacket → MinecraftDataPacket

/-- `handle_mc_disconnect`. The result of writing the response is dropped, a failed write of the pong
panics. -/
def handleMcDisconnect (generateResponse : GenerateResponse) (packet : MinecraftHelloPacket)
    (data : MinecraftDataPacket) (reads : List ReadResult) (pongWritten : Bool) : Disconnect :=
  let resp := (generateResponse packet).bytes
  if packet.pkgType ≠ .ping then .returned [resp]
  else
    match advance packet.length data.bytes with
    | none => .panic
    | some buf =>
      match collect buf reads with
      | .waiting => .waiting [resp]
      | .ended => .returned [resp]
      | .full buf =>
        match getU16 buf with
        | none => .panic
        | some (status, buf) =>
          if status ≠ 0x0100 then .returned [resp]
          else
            match getU16 buf with
            | none => .panic
            | some (head, buf) =>
              if head ≠ 0x0901 then .returned [resp]
              else
                match getU64 buf with
                | none => .panic
                | some (ping, _) =>
                  if pongWritten then .returned [resp, 0x09 :: 0x01 :: be64 ping] else .panic

theorem le_length_of_collect {buf b : List UInt8} {reads : List ReadResult}
    (h : collect buf reads = .full b) : 12 ≤ b.length := by
  fun_induction collect buf reads with
  | case1 => cases h
  | case2 => cases h; omega
  | case3 => cases h
  | case4 _ _ _ _ _ ih => exact ih h
  | case5 => cases h
  | case6 => cases h
  | case7 => cases h; omega

/-- With a slice in bounds only the write of the pong can panic. -/
theorem handleMcDisconnect_ne_panic (generateResponse : GenerateResponse) {packet : MinecraftHelloPacket}
    {data : MinecraftDataPacket} (h : packet.length ≤ data.bytes.length) (reads : List ReadResult) :
    handleMcDisconnect generateResponse packet data reads true ≠ .panic := by
  unfold handleMcDisconnect
  simp only [advance, if_pos h]
  split
  · rintro ⟨⟩
  · split
    · rintro ⟨⟩
    · rintro ⟨⟩
    · next buf hbuf =>
      have hlen := le_length_of_collect hbuf
      obtain ⟨status, buf₁, h₁, hlen₁⟩ := getU16_of_le (b := buf) (by omega)
      obtain ⟨head, buf₂, h₂, hlen₂⟩ := getU16_of_le (b := buf₁) (by omega)
      obtain ⟨ping, buf₃, h₃, -⟩ := getU64_of_le (b := buf₂) (by omega)
      simp only [h₁, h₂, h₃]
      split
      · rintro ⟨⟩
      · split
        · rintro ⟨⟩
        · rintro ⟨⟩

namespace MinecraftHelloPacket

/-- The parser panics on no buffer that fits into memory: no read, slice or advance leaves the buffer and
no arithmetic overflows. An accepted packet is no longer than the buffer, so `handle_mc_disconnect` can
slice there. -/
theorem new_safe {buf : List UInt8} (hmax : buf.length ≤ ISIZE_MAX) :
    new buf ≠ .panic ∧ ∀ p, new buf = .ok (some p) →
      p.length ≤ buf.length ∧ advance p.length buf = some (buf.drop p.length) ∧
        ∀ (generateResponse : GenerateResponse) (reads : List ReadResult),
          handleMcDisconnect generateResponse p ⟨buf⟩ reads true ≠ .panic := by
  constructor
  · intro hpanic
    have hlt := new_decides.panic hpanic
    have hconst : ISIZE_MAX < USIZE_MAX := by decide
    omega
  · intro p hp
    have hle := (new_take_length hp).1
    exact ⟨hle, if_pos hle, fun generateResponse reads =>
      handleMcDisconnect_ne_panic generateResponse hle reads⟩

/-- The largest size of a host name: the parser waits. -/
theorem new_safe_huge : new [7, 0, 47, 0xFF, 0xFF, 0xFF, 0xFF, 0x07] ≠ .panic :=
  (@new_safe [7, 0, 47, 0xFF, 0xFF, 0xFF, 0xFF, 0x07] (by decide)).1

end MinecraftHelloPacket
end CraftIP
