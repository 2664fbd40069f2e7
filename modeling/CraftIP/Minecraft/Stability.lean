import CraftIP.Minecraft.Handshake
import CraftIP.Minecraft.Legacy

/-!
# The parser on a growing buffer

`new_decides`: what the parser says of a buffer it says of every longer one, it waits on a long buffer
only for a host name of negative size, and it panics on no buffer that fits into memory. An accepted
packet is accepted by itself and with anything behind it (`new_eq_ok`).
-/

namespace CraftIP
open ByteBuf Unicode Incremental

namespace MinecraftHelloPacket
open CraftIP.Parser Incremental.Parser
variable {W X : Prop} {buf : List UInt8} {q : Parser MinecraftHelloPacket} {p : MinecraftHelloPacket}

theorem parse_eq_ok : parse q buf = .ok (some p) ↔ ∃ c, q (Cursor.new buf) = .ok (some (p, c)) := by
  rw [parse]
  constructor
  · intro h
    split at h
    · next p' c hq =>
      cases h
      exact ⟨c, hq⟩
    · cases h
    · cases h
    · cases h
  · rintro ⟨c, hq⟩
    rw [hq]

theorem parse_eq_none : parse q buf = .ok none ↔ q (Cursor.new buf) = .ok none := by
  rw [parse]
  split <;> simp_all

theorem parse_eq_panic : parse q buf = .panic ↔ q (Cursor.new buf) = .panic := by
  rw [parse]
  split <;> simp_all

theorem parse_append (h : Runs W X q (Cursor.new buf)) (hne : parse q buf ≠ .ok none)
    (s : List UInt8) : parse q (buf ++ s) = parse q buf := by
  have hs : q (Cursor.new (buf ++ s)) = extend s (q (Cursor.new buf)) :=
    h.stable (fun he => hne (parse_eq_none.2 he)) s
  rw [parse, parse, hs]
  rcases q (Cursor.new buf) with (_ | ⟨p, c⟩) | e | _ <;> rfl

/-- The buffer does not start like a legacy packet, and its host name has a negative size. -/
def OpenForEver (buf : List UInt8) : Prop :=
  ¬ OLD_MINECRAFT_START.take 2 <+: buf ∧ ¬ [0x02] <+: buf ∧ NegativeSize buf

/-- The parser that reads the buffer. -/
def parserOf (buf : List UInt8) : Parser MinecraftHelloPacket :=
  if OLD_MINECRAFT_START.take 2 <+: buf then oldPingPkg
  else if [0x02] <+: buf then oldConnectPkg
  else newPkg

theorem new_parserOf (buf : List UInt8) :
    new buf = if buf.length < 2 then .ok none else parse (parserOf buf) buf := by
  rw [new_eq, parserOf]
  simp only [List.isPrefixOf_iff_prefix]
  split_ifs <;> rfl

theorem prefix_append_iff {l b : List UInt8} (h : l.length ≤ b.length) (s : List UInt8) :
    l <+: b ++ s ↔ l <+: b :=
  ⟨fun hp => List.prefix_of_prefix_length_le hp (List.prefix_append b s) h,
    fun hp => hp.trans (List.prefix_append b s)⟩

/-- Two bytes are enough to choose. -/
theorem parserOf_append (h : 2 ≤ buf.length) (s : List UInt8) : parserOf (buf ++ s) = parserOf buf := by
  have hping := prefix_append_iff (show (OLD_MINECRAFT_START.take 2).length ≤ buf.length from h) s
  have hconnect := prefix_append_iff (show [(0x02 : UInt8)].length ≤ buf.length from by simp; omega) s
  simp only [parserOf, hping, hconnect]

theorem new_append (h : 2 ≤ buf.length) (s : List UInt8) :
    new (buf ++ s) = parse (parserOf buf) (buf ++ s) := by
  rw [new_parserOf, if_neg (by rw [List.length_append]; omega), parserOf_append h]

theorem new_of_two_le (h : 2 ≤ buf.length) : new buf = parse (parserOf buf) buf := by
  rw [new_parserOf, if_neg (by omega)]

theorem runs_parserOf (h : 2 ≤ buf.length) :
    Runs (buf.length < 4294967296 ∨ OpenForEver buf) (USIZE_MAX < buf.length) (parserOf buf)
      (Cursor.new buf) := by
  unfold parserOf
  split
  · exact runs_oldPingPkg .inl
  · next hping =>
    split
    · exact runs_oldConnectPkg (by omega) .inl
    · next hconnect => exact runs_newPkg (fun hlt => hlt) .inl fun hneg => .inr ⟨hping, hconnect, hneg⟩

theorem new_decides :
    Decides (fun buf => buf.length < 4294967296 ∨ OpenForEver buf) (fun buf => USIZE_MAX < buf.length)
      new where
  stable {buf} hne s := by
    have h : 2 ≤ buf.length := by
      by_contra hlt
      exact hne (by rw [new_parserOf, if_pos (by omega)])
    rw [new_of_two_le h] at hne ⊢
    rw [new_append h, parse_append (runs_parserOf h) hne]
  wait {buf} hw := by
    by_cases h : 2 ≤ buf.length
    · rw [new_of_two_le h, parse_eq_none] at hw
      exact (runs_parserOf h).wait hw
    · exact .inl (by omega)
  panic {buf} hp := by
    by_cases h : 2 ≤ buf.length
    · rw [new_of_two_le h, parse_eq_panic] at hp
      exact (runs_parserOf h).panic hp
    · rw [new_parserOf, if_pos (by omega)] at hp
      cases hp

/-! ### Accepted packets -/

/-- An accepted buffer starts with a packet of the accepted length, which is accepted with anything
behind it. -/
theorem new_eq_ok (h : new buf = .ok (some p)) :
    ∃ w rest, buf = w ++ rest ∧ p.length = w.length ∧ ∀ s, new (w ++ s) = .ok (some p) := by
  have h₂ : 2 ≤ buf.length := by
    by_contra hlt
    rw [new_parserOf, if_pos (by omega)] at h
    cases h
  rw [new_of_two_le h₂, parse_eq_ok] at h
  obtain ⟨c, h⟩ := h
  -- what the chosen parser read is a packet of more than two bytes, so it chooses the same parser
  have hwhole : ∀ w, Reads (Cursor.new buf) w c → p.length = w.length → 2 ≤ w.length →
      (∀ s, parserOf buf (Cursor.new (w ++ s)) = .ok (some (p, ⟨w.length, s⟩))) →
      ∃ w rest, buf = w ++ rest ∧ p.length = w.length ∧ ∀ s, new (w ++ s) = .ok (some p) := by
    intro w hr hlen hw hs
    have hbuf : buf = w ++ c.rest := hr.rest
    refine ⟨w, c.rest, hbuf, hlen, fun s => ?_⟩
    rw [hbuf, parserOf_append hw] at hs
    rw [new_append hw, parse_eq_ok]
    exact ⟨_, hs s⟩
  unfold parserOf at h hwhole
  split at h
  · next hping =>
    obtain ⟨restData, version, port, hlen, hr, hcount, hp⟩ := oldPingPkg_eq_ok h
    have hl := length_oldPingWith restData version p.hostname.toList port
    refine hwhole _ hr (by rw [hp]; rfl) (by omega) fun s => ?_
    rw [if_pos hping, oldPingPkg_append _ _ _ hlen, String.ofList_toList, if_pos hcount, ← hp]
  · next hping =>
    split at h
    · next hconnect =>
      obtain ⟨version, port, username, hulen, hlen, hr, hp⟩ := oldConnectPkg_eq_ok h
      have hl := length_oldConnect version username.toList p.hostname.toList port
      refine hwhole _ hr (by rw [hp]; rfl) (by omega) fun s => ?_
      have happ := oldConnectPkg_append version port hulen hlen s
      rw [String.ofList_toList] at happ
      rw [if_neg hping, if_pos hconnect]
      refine happ.trans ?_
      conv => rhs; rw [hp]
      rfl
    · next hconnect =>
      obtain ⟨k, hr, rfl, hcount, hmax⟩ := newPkg_eq_ok h
      have hl := k.length_bytes
      have hl' := k.length_head
      refine hwhole _ hr rfl (by omega) fun s => ?_
      rw [if_neg hping, if_neg hconnect, newPkg_append k s hmax, if_pos hcount]

/-- An accepted packet is no longer than the buffer and is accepted by itself. -/
theorem new_take_length (h : new buf = .ok (some p)) :
    p.length ≤ buf.length ∧ new (buf.take p.length) = .ok (some p) := by
  obtain ⟨w, rest, rfl, hlen, hs⟩ := new_eq_ok h
  have hw := hs []
  rw [List.append_nil] at hw
  rw [hlen, List.take_left, List.length_append]
  exact ⟨Nat.le_add_right _ _, hw⟩

/-! ### Buffers that are never decided -/

theorem NegativeSize.append (h : NegativeSize buf) (s : List UInt8) : NegativeSize (buf ++ s) := by
  obtain ⟨lw, l, iw, vw, v, sw, n, rest, hl, hi, hv, hs, hn, rfl⟩ := h
  exact ⟨lw, l, iw, vw, v, sw, n, rest ++ s, hl, hi, hv, hs, hn, by rw [List.append_assoc]⟩

/-- The first twenty bytes show it. -/
theorem NegativeSize.take (h : NegativeSize buf) {k : Nat} (hk : 20 ≤ k) : NegativeSize (buf.take k) := by
  obtain ⟨lw, l, iw, vw, v, sw, n, rest, hl, hi, hv, hs, hn, rfl⟩ := h
  have hlen : (lw ++ iw ++ vw ++ sw).length ≤ k := by
    have h₁ := hl.length_le
    have h₂ := hi.length_le
    have h₃ := hv.length_le
    have h₄ := hs.length_le
    simp only [List.length_append]
    omega
  refine ⟨lw, l, iw, vw, v, sw, n, rest.take (k - (lw ++ iw ++ vw ++ sw).length), hl, hi, hv, hs, hn, ?_⟩
  rw [List.take_append, List.take_of_length_le hlen]

theorem NegativeSize.two_le (h : NegativeSize buf) : 2 ≤ buf.length := by
  obtain ⟨lw, l, iw, vw, v, sw, n, rest, hl, hi, hv, hs, hn, rfl⟩ := h
  have h₁ := hl.encoded.length_pos
  have h₂ := hi.encoded.length_pos
  simp only [List.length_append]
  omega

theorem OpenForEver.append (h : OpenForEver buf) (s : List UInt8) : OpenForEver (buf ++ s) := by
  obtain ⟨hping, hconnect, hneg⟩ := h
  have h₂ := hneg.two_le
  have hone : [(0x02 : UInt8)].length ≤ buf.length := by
    rw [List.length_singleton]
    omega
  refine ⟨fun hp => hping ?_, fun hp => hconnect ?_, hneg.append s⟩
  · exact (prefix_append_iff (show (OLD_MINECRAFT_START.take 2).length ≤ buf.length from h₂) s).1 hp
  · exact (prefix_append_iff hone s).1 hp

theorem OpenForEver.take (h : OpenForEver buf) {k : Nat} (hk : 20 ≤ k) : OpenForEver (buf.take k) := by
  obtain ⟨hping, hconnect, hneg⟩ := h
  exact ⟨fun hp => hping (hp.trans (List.take_prefix k buf)),
    fun hp => hconnect (hp.trans (List.take_prefix k buf)), hneg.take hk⟩

/-- No buffer that fits into memory holds a host name of negative size. -/
theorem OpenForEver.new_eq_none (h : OpenForEver buf) (hmax : buf.length ≤ ISIZE_MAX) :
    new buf = .ok none := by
  obtain ⟨hping, hconnect, hneg⟩ := h
  have h₂ := hneg.two_le
  obtain ⟨lw, l, iw, vw, v, sw, n, rest, hl, hi, hv, hs, hn, rfl⟩ := hneg
  have hshort : rest.length < asUsize n := by
    have := asUsize_of_neg hn
    simp only [List.length_append] at hmax
    omega
  rw [new_of_two_le h₂, parserOf, if_neg hping, if_neg hconnect, parse_eq_none, Cursor.new,
    List.append_assoc, List.append_assoc, List.append_assoc, newPkg, bind_some (getVarint_append hl _ _),
    bind_some (getVarint_append hi _ _), if_neg (fun hne => hne rfl),
    bind_some (getVarint_append hv _ _)]
  refine bind_none ?_
  rw [getUtf8String, bind_some (getVarint_append hs _ _)]
  exact bind_none (need_short hshort)

/-- Enough further bytes make the parser accept or refuse the buffer. -/
def Decided (buf : List UInt8) : Prop :=
  ∃ n, buf.length + n ≤ ISIZE_MAX ∧ ∀ s : List UInt8, n ≤ s.length → (buf ++ s).length ≤ ISIZE_MAX →
    (∃ p, new (buf ++ s) = .ok (some p)) ∨ ∃ e, new (buf ++ s) = .err e

theorem Decided.append (h : Decided buf) {t : List UInt8} (hlen : (buf ++ t).length ≤ ISIZE_MAX) :
    Decided (buf ++ t) := by
  obtain ⟨n, hn, hdec⟩ := h
  rw [List.length_append] at hlen
  refine ⟨n - t.length, by rw [List.length_append]; omega, fun s hs hmax => ?_⟩
  rw [List.append_assoc] at hmax ⊢
  exact hdec (t ++ s) (by rw [List.length_append]; omega) hmax

theorem OpenForEver.not_decided (h : OpenForEver buf) : ¬ Decided buf := by
  rintro ⟨n, hn, hdec⟩
  have hlen : (buf ++ List.replicate n 0).length ≤ ISIZE_MAX := by
    rw [List.length_append, List.length_replicate]
    exact hn
  have hnone := (h.append (List.replicate n 0)).new_eq_none hlen
  rcases hdec (List.replicate n 0) (by rw [List.length_replicate]) hlen with ⟨p, hp⟩ | ⟨e, he⟩
  · rw [hnone] at hp
    cases hp
  · rw [hnone] at he
    cases he

/-- A buffer that the parser finds incomplete is decided by some number of further bytes if and only if it
cannot be continued to a host name of negative size. -/
theorem decided_iff (h : new buf = .ok none) : Decided buf ↔ ¬ ∃ s, OpenForEver (buf ++ s) := by
  constructor
  · rintro hdec ⟨s, hs⟩
    have hs := hs.take (le_max_right buf.length 20)
    rw [List.take_append, List.take_of_length_le (le_max_left _ _)] at hs
    have hconst : 20 ≤ ISIZE_MAX := by decide
    have hlen : (buf ++ s.take (max buf.length 20 - buf.length)).length ≤ ISIZE_MAX := by
      obtain ⟨n, hn, -⟩ := hdec
      rw [List.length_append, List.length_take]
      omega
    exact hs.not_decided (hdec.append hlen)
  · intro hopen
    have hlt : buf.length < 4294967296 := by
      rcases new_decides.wait h with hlt | hnow
      · exact hlt
      · exact absurd ⟨[], by rwa [List.append_nil]⟩ hopen
    have hconst : 8589934592 ≤ ISIZE_MAX := by decide
    refine ⟨4294967296, by omega, fun s hs hlen => ?_⟩
    rcases hnew : new (buf ++ s) with (_ | p) | e | _
    · rcases new_decides.wait hnew with hlt | hneg
      · rw [List.length_append] at hlt
        omega
      · exact absurd ⟨s, hneg⟩ hopen
    · exact .inl ⟨p, rfl⟩
    · exact .inr ⟨e, rfl⟩
    · have hpanic := new_decides.panic hnew
      have hmax : ISIZE_MAX < USIZE_MAX := by decide
      omega

/-- The first byte of a legacy connect packet leaves no such continuation. -/
theorem decided_connect : Decided [0x02] := by
  refine (decided_iff (by decide)).2 ?_
  rintro ⟨s, -, hconnect, -⟩
  exact hconnect ⟨s, rfl⟩

/-- A length, an id, a version and a size of -1. -/
theorem not_decided_negative :
    new [7, 0, 47, 0xFF, 0xFF, 0xFF, 0xFF, 0x0F] = .ok none ∧
      ¬ Decided [7, 0, 47, 0xFF, 0xFF, 0xFF, 0xFF, 0x0F] := by
  have hopen : OpenForEver [7, 0, 47, 0xFF, 0xFF, 0xFF, 0xFF, 0x0F] := by
    refine ⟨by decide, by decide, [7], 7, [0], [47], 47, [0xFF, 0xFF, 0xFF, 0xFF, 0x0F], -1, [],
      ⟨.last (by decide), by decide, by decide⟩, ⟨.last (by decide), by decide, by decide⟩,
      ⟨.last (by decide), by decide, by decide⟩, ⟨?_, by decide, by decide⟩, by decide, rfl⟩
    exact .more (by decide) (.more (by decide) (.more (by decide) (.more (by decide) (.last (by decide)))))
  exact ⟨by decide, hopen.not_decided⟩

end MinecraftHelloPacket
end CraftIP
