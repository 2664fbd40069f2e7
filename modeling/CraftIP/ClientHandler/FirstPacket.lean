import CraftIP.ClientHandler
import CraftIP.Minecraft.Stability

/-!
# The first packet and the cuts of the stream (`first_minecraft_packet`)

The loop parses its whole buffer after every read. As the parser never changes an answer, the hello packet
does not depend on how the reads cut the stream. The loop leaves only with a packet or a failed read: the
end of the stream and an error of the parser keep it going.
-/

namespace CraftIP
open Incremental

/-- The packet with which the loop has left. -/
def FirstPacket.hello : FirstPacket → Option MinecraftHelloPacket
  | .ok packet _ _ => some packet
  | _ => none

open MinecraftHelloPacket (new new_decides)

/-- The parser's answer makes the loop go on. -/
def GoesOn (buf : List UInt8) : Prop := (∀ p, new buf ≠ .ok (some p)) ∧ new buf ≠ .panic

theorem GoesOn.of_none {buf : List UInt8} (h : new buf = .ok none) : GoesOn buf := by
  constructor
  · intro p hp
    rw [h] at hp
    cases hp
  · intro hp
    rw [h] at hp
    cases hp

theorem GoesOn.of_err {buf : List UInt8} {e : PacketError} (h : new buf = .err e) : GoesOn buf := by
  constructor
  · intro p hp
    rw [h] at hp
    cases hp
  · intro hp
    rw [h] at hp
    cases hp

theorem goesOn_nil : GoesOn [] := .of_none rfl

theorem firstMinecraftPacket_goesOn {buf bytes : List UInt8} (h : GoesOn (buf ++ bytes))
    (reads : List ReadResult) :
    firstMinecraftPacket buf (.data bytes :: reads) = firstMinecraftPacket (buf ++ bytes) reads := by
  simp only [firstMinecraftPacket]
  split
  · next p hp => exact absurd hp (h.1 p)
  · next hp => exact absurd hp h.2
  · rfl

/-- After the reads `chunks` the loop is where the parser's answer to the whole buffer puts it. -/
theorem hello_firstMinecraftPacket {buf : List UInt8} (hbuf : GoesOn buf)
    (chunks : List (List UInt8)) (reads : List ReadResult) :
    (firstMinecraftPacket buf (chunks.map .data ++ reads)).hello =
      match new (buf ++ chunks.flatten) with
      | .ok (some packet) => some packet
      | .panic => none
      | _ => (firstMinecraftPacket (buf ++ chunks.flatten) reads).hello := by
  induction chunks generalizing buf with
  | nil =>
    simp only [List.flatten_nil, List.append_nil, List.map_nil, List.nil_append]
    split
    · next p hp => exact absurd hp (hbuf.1 p)
    · next hp => exact absurd hp hbuf.2
    · rfl
  | cons c chunks ih =>
    rw [List.map_cons, List.cons_append, List.flatten_cons, ← List.append_assoc]
    by_cases hc : GoesOn (buf ++ c)
    · rw [firstMinecraftPacket_goesOn hc, ih hc]
    · have hne : new (buf ++ c) ≠ .ok none := fun h => hc (.of_none h)
      rw [new_decides.stable hne chunks.flatten]
      simp only [firstMinecraftPacket]
      rcases h : new (buf ++ c) with (_ | p) | e | _
      · exact absurd h hne
      · rfl
      · exact absurd (.of_err h) hc
      · rfl

/-- The parser is stable: an answer stays when more arrives, an accepted packet is accepted by itself and
every shorter beginning is incomplete. So the first packet does not depend on the cuts of the stream. -/
theorem new_incremental :
    (∀ b s p, new b = .ok (some p) → new (b ++ s) = .ok (some p)) ∧
      (∀ b s e, new b = .err e → new (b ++ s) = .err e) ∧
      (∀ b p, new b = .ok (some p) → p.length ≤ b.length ∧ new (b.take p.length) = .ok (some p) ∧
        ∀ k < p.length, new (b.take k) = .ok none) ∧
      ∀ (chunks chunks' : List (List UInt8)) (reads : List ReadResult),
        chunks.flatten = chunks'.flatten →
        (firstMinecraftPacket [] (chunks.map .data ++ reads)).hello =
          (firstMinecraftPacket [] (chunks'.map .data ++ reads)).hello := by
  refine ⟨fun b s p h => ?_, fun b s e h => ?_, fun b p h => ?_, fun chunks chunks' reads h => ?_⟩
  · exact (new_decides.stable (fun hw => by rw [h] at hw; cases hw) s).trans h
  · exact (new_decides.stable (fun hw => by rw [h] at hw; cases hw) s).trans h
  · obtain ⟨hle, htake⟩ := MinecraftHelloPacket.new_take_length h
    refine ⟨hle, htake, fun k hk => new_decides.wait_of_shorter h (fun d hd => ?_) hk⟩
    exact (MinecraftHelloPacket.new_take_length hd).1
  · rw [hello_firstMinecraftPacket goesOn_nil, hello_firstMinecraftPacket goesOn_nil, h]

/-- A legacy connect packet with two bytes behind it and in its beginnings, a packet that is refused, and the
first one cut after its first byte and whole. -/
theorem new_incremental_cut :
    new (samplePacket ++ [1, 2]) = .ok (some ⟨80, .legacy, 0, 74, sampleHostname, false, 25565⟩) ∧
      new ([3, 1, 0, 0] ++ [7]) = .err .notMatching ∧
      (new ((samplePacket ++ [1, 2]).take 80) = .ok (some ⟨80, .legacy, 0, 74, sampleHostname, false, 25565⟩) ∧
        ∀ k < 80, new ((samplePacket ++ [1, 2]).take k) = .ok none) ∧
      (firstMinecraftPacket [] ([[0x02], samplePacket.drop 1].map .data ++ [])).hello =
        (firstMinecraftPacket [] ([samplePacket].map .data ++ [])).hello := by
  have haccepted : new samplePacket = .ok (some ⟨80, .legacy, 0, 74, sampleHostname, false, 25565⟩) := by
    decide +kernel
  have hrefused : new [3, 1, 0, 0] = .err .notMatching := by decide +kernel
  obtain ⟨hlonger, herror, hshorter, hcut⟩ := new_incremental
  have hbehind := hlonger samplePacket [1, 2] _ haccepted
  exact ⟨hbehind, herror _ [7] _ hrefused, (hshorter _ _ hbehind).2,
    hcut [[0x02], samplePacket.drop 1] [samplePacket] [] (by decide)⟩

/-! ### The end of the stream -/

/-- The loop leaves by itself some time after the stream has ended: with the packet if the parser accepted
what was read at some time, with an error otherwise, and with an error as soon as the parser refuses. -/
structure EndsByItself (chunks : List (List UInt8)) : Prop where
  ends : ∃ n outcome,
    firstMinecraftPacket [] (chunks.map .data ++ List.replicate n (.data [])) = outcome ∧
      (∀ k p, new (chunks.take k).flatten = .ok (some p) → outcome.hello = some p) ∧
      ((∀ k p, new (chunks.take k).flatten ≠ .ok (some p)) → outcome = .error)
  refused : ∀ k e, new (chunks.take k).flatten = .err e →
    firstMinecraftPacket [] ((chunks.take k).map .data) = .error

theorem firstMinecraftPacket_ne_error (buf : List UInt8) (chunks : List (List UInt8)) :
    firstMinecraftPacket buf (chunks.map .data) ≠ .error := by
  induction chunks generalizing buf with
  | nil =>
    intro h
    cases h
  | cons c chunks ih =>
    rw [List.map_cons, firstMinecraftPacket]
    split
    · intro h
      cases h
    · intro h
      cases h
    · exact ih _

theorem flatten_take_isPrefix (chunks : List (List UInt8)) (k : Nat) :
    (chunks.take k).flatten <+: chunks.flatten :=
  ⟨(chunks.drop k).flatten, by rw [← List.flatten_append, List.take_append_drop]⟩

/-- If the parser accepts some beginning of the stream, it accepts the whole the same way. -/
theorem new_flatten_of_take {chunks : List (List UInt8)} {k : Nat} {p : MinecraftHelloPacket}
    (h : new (chunks.take k).flatten = .ok (some p)) : new chunks.flatten = .ok (some p) := by
  rw [← h]
  exact new_decides.eq_of_prefix (flatten_take_isPrefix chunks k) fun hw => by rw [h] at hw; cases hw

/-- A stream without a packet never makes the loop leave with an error. -/
theorem not_endsByItself {chunks : List (List UInt8)} (h : ∀ p, new chunks.flatten ≠ .ok (some p)) :
    ¬ EndsByItself chunks := by
  intro hends
  obtain ⟨n, outcome, hrun, -, herr⟩ := hends.ends
  have hdata : chunks.map ReadResult.data ++ List.replicate n (.data []) =
      (chunks ++ List.replicate n []).map .data := by
    rw [List.map_append, List.map_replicate]
  rw [herr fun k p hk => h p (new_flatten_of_take hk), hdata] at hrun
  exact firstMinecraftPacket_ne_error _ _ hrun

/-- Neither the end of the stream nor an error of the parser ends the loop: it leaves as it should on
exactly the streams that the parser accepts. -/
theorem endsByItself_iff (chunks : List (List UInt8)) :
    EndsByItself chunks ↔ ∃ p, new chunks.flatten = .ok (some p) := by
  constructor
  · intro hends
    by_contra hne
    exact not_endsByItself (fun p hp => hne ⟨p, hp⟩) hends
  · rintro ⟨p, hp⟩
    have hello := hello_firstMinecraftPacket goesOn_nil chunks []
    rw [List.nil_append, hp] at hello
    refine ⟨⟨0, _, rfl, fun k p' hk => ?_, fun hnone => ?_⟩, fun k e hk => ?_⟩
    · have hp' := new_flatten_of_take hk
      rw [hp] at hp'
      cases hp'
      exact hello
    · exact absurd (by rwa [List.take_length]) (hnone chunks.length p)
    · have he := new_decides.eq_of_prefix (flatten_take_isPrefix chunks k) fun hw => by rw [hk] at hw; cases hw
      rw [hp, hk] at he
      cases he

/-- Two bytes that the parser refuses, and the end of the stream. -/
theorem not_endsByItself_refused : ¬ EndsByItself [[16, 1]] :=
  not_endsByItself fun p hp => by
    have h : new [16, 1] = .err .notMatching := by decide
    rw [show [[(16 : UInt8), 1]].flatten = [16, 1] from rfl, h] at hp
    cases hp

end CraftIP
