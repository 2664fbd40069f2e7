import CraftIP.Lib.Incremental
import CraftIP.Lib.Leb128
import CraftIP.Lib.Unicode
import CraftIP.SocketPacket

/-!
# The cursor over a read buffer (`protocol/src/cursor.rs`)

A `Parser` reads off the front of a buffer. `ok none` is the source's `Ok(None)`: more bytes are
needed. `bind` is the `propagate!` macro. The reads of `bytes::Buf`, a slice out of bounds and
arithmetic that overflows panic.
-/

namespace CraftIP
open ByteBuf Unicode Incremental

abbrev Cursor : Type := Incremental.Cursor UInt8
abbrev Parser (α : Type) : Type := Incremental.Parser UInt8 PacketError α

namespace Parser
open Incremental.Parser

def getU8 : Parser UInt8 := fun c =>
  match c.rest with
  | b :: rest => .ok (some (b, ⟨c.position + 1, rest⟩))
  | _ => .panic

def getU16 : Parser UInt16 := fun c =>
  match c.rest with
  | a :: b :: rest => .ok (some (ofBe16 a b, ⟨c.position + 2, rest⟩))
  | _ => .panic

def getU32 : Parser UInt32 := fun c =>
  match c.rest with
  | a :: b :: d :: e :: rest => .ok (some (ofBe32 a b d e, ⟨c.position + 4, rest⟩))
  | _ => .panic

/-- `(0..n).map(|_| get_u16())` -/
def getU16s : Nat → Parser (List UInt16)
  | 0 => pure []
  | n + 1 => do
    let u ← getU16
    let us ← getU16s n
    return u :: us

/-- The loop of `get_varint` with `n` rounds to go. -/
def getVarintLoop : Nat → Int32 → Int32 → Parser Int32
  | 0, _, _ => fail .notValid
  | n + 1, value, position => do
    need 1
    let currentByte ← getU8
    let value := value ||| (← checked (checkedShlI32 (currentByte &&& 0x7F).toUInt32.toInt32 position))
    let position ← checked (checkedAddI32 position 7)
    if currentByte &&& 0x80 == 0 then return value
    getVarintLoop n value position

def getVarint : Parser Int32 := getVarintLoop 5 0 0

/-- `as usize`: the sign is extended, so a negative number becomes a huge one. -/
def asUsize (v : Int32) : Nat := v.toInt64.toUInt64.toNat

def getUtf8String : Parser String := do
  let size := asUsize (← getVarint)
  need size
  let blob ← slice (← checked (checkedAdd (← position) size))
  skip size
  match fromUtf8 blob with
  | some s => return s
  | none => fail .notValidStringEncoding

/-- A string of exactly the bytes that are left counts as incomplete: the test is `<=`. -/
def getUtf16String : Parser String := do
  need 2
  let size := (← getU16).toNat
  let bytes ← checked (checkedMul size 2)
  if (← remaining) ≤ bytes then incomplete
  else
    match decodeUtf16 (← getU16s size) with
    | some s => return String.ofList s
    | none => fail .notValidStringEncoding

/-- The loop of `match_bytes` from its round `i` on. -/
def matchLoop : Nat → List UInt8 → Parser Bool
  | _, [] => return true
  | i, byte :: bytes => do
    if (← index (← checked (checkedAdd (← position) i))) != byte then return false
    matchLoop (i + 1) bytes

/-- Whether the given bytes come next; if so they are skipped. -/
def matchBytes (bytes : List UInt8) : Parser Bool := do
  if (← remaining) < bytes.length then return false
  if !(← matchLoop 0 bytes) then return false
  skip bytes.length
  return true

/-! ### What the reads give -/

theorem getU8_cons (i : Nat) (b : UInt8) (s : List UInt8) :
    getU8 ⟨i, b :: s⟩ = .ok (some (b, ⟨i + 1, s⟩)) := rfl

theorem getU16_append (i : Nat) (x : UInt16) (s : List UInt8) :
    getU16 ⟨i, be16 x ++ s⟩ = .ok (some (x, ⟨i + 2, s⟩)) := by
  simp [getU16, be16]

theorem getU32_append (i : Nat) (x : UInt32) (s : List UInt8) :
    getU32 ⟨i, be32 x ++ s⟩ = .ok (some (x, ⟨i + 4, s⟩)) := by
  simp [getU32, be32, ByteBuf.ofBe32_be32]

theorem getU16s_append (i : Nat) (us : List UInt16) (s : List UInt8) :
    getU16s us.length ⟨i, us.flatMap be16 ++ s⟩ = .ok (some (us, ⟨i + 2 * us.length, s⟩)) := by
  induction us generalizing i with
  | nil => rfl
  | cons u us ih =>
    rw [List.flatMap_cons, List.append_assoc, List.length_cons, getU16s,
      bind_some (getU16_append i u _), bind_some (ih (i + 2))]
    simp only [pure_apply]
    congr 4; omega

theorem matchLoop_append (i : Nat) (v bytes s : List UInt8) (hlen : bytes.length ≤ s.length)
    (hmax : i + (v.length + bytes.length) ≤ USIZE_MAX) :
    matchLoop v.length bytes ⟨i, v ++ s⟩ = .ok (some (bytes.isPrefixOf s, ⟨i, v ++ s⟩)) := by
  induction bytes generalizing v s with
  | nil => rfl
  | cons byte bytes ih =>
    obtain ⟨b, s, rfl⟩ := List.exists_cons_of_length_pos (Nat.lt_of_lt_of_le (Nat.succ_pos _) hlen)
    simp only [List.length_cons] at hlen hmax
    rw [matchLoop, bind_some (position_apply _), checkedAdd_le (show i + v.length ≤ USIZE_MAX by omega),
      checked_some_bind, bind_some (index_append i v b s)]
    by_cases hb : b = byte
    · subst hb
      have hv : (v ++ [b]).length = v.length + 1 := by simp
      have ih := ih (v ++ [b]) s (by omega) (by omega)
      rw [hv, List.append_assoc, List.singleton_append] at ih
      rw [bne_self_eq_false, if_neg Bool.false_ne_true, ih, List.isPrefixOf, beq_self_eq_true,
        Bool.true_and]
    · have hne : (byte == b) = false := beq_eq_false_iff_ne.2 fun h => hb h.symm
      rw [if_pos (bne_iff_ne.2 hb), List.isPrefixOf, hne, Bool.false_and]
      rfl

theorem matchBytes_apply {bytes : List UInt8} {c : Cursor}
    (hmax : c.position + bytes.length ≤ USIZE_MAX) :
    matchBytes bytes c =
      if bytes.isPrefixOf c.rest then
        .ok (some (true, ⟨c.position + bytes.length, c.rest.drop bytes.length⟩))
      else .ok (some (false, c)) := by
  rw [matchBytes, bind_some (remaining_apply c)]
  by_cases hlen : c.rest.length < bytes.length
  · have hp : ¬ bytes.isPrefixOf c.rest := fun h => by
      have := (List.isPrefixOf_iff_prefix.1 h).length_le
      omega
    rw [if_pos hlen, if_neg hp]
    rfl
  · have hloop := matchLoop_append c.position [] bytes c.rest (by omega) (by simpa using hmax)
    rw [if_neg hlen]
    rw [List.length_nil, List.nil_append] at hloop
    rw [bind_some hloop]
    by_cases hp : bytes.isPrefixOf c.rest = true
    · have hadv : (skip bytes.length : Parser Unit) c =
          .ok (some ((), ⟨c.position + bytes.length, c.rest.drop bytes.length⟩)) := by
        rw [skip, if_pos (by omega)]
      rw [if_pos hp, hp, Bool.not_true, if_neg Bool.false_ne_true, bind_some hadv]
      rfl
    · rw [if_neg hp, Bool.eq_false_iff.2 hp, Bool.not_false, if_pos rfl]
      rfl

theorem matchBytes_append {bytes : List UInt8} (i : Nat) (s : List UInt8)
    (hmax : i + bytes.length ≤ USIZE_MAX) :
    matchBytes bytes ⟨i, bytes ++ s⟩ = .ok (some (true, ⟨i + bytes.length, s⟩)) := by
  rw [matchBytes_apply hmax, if_pos (List.isPrefixOf_iff_prefix.2 (List.prefix_append bytes s)),
    List.drop_left]

/-- The wire form of a UTF-16 string: the number of units and the units. -/
def utf16String (s : List Char) : List UInt8 :=
  be16 (UInt16.ofNat (utf16 s).length) ++ (utf16 s).flatMap be16

theorem length_flatMap_be16 (us : List UInt16) : (us.flatMap be16).length = us.length * 2 := by
  induction us with
  | nil => rfl
  | cons u us ih => rw [List.flatMap_cons, List.length_append, ih]; simp; omega

theorem length_utf16String (s : List Char) :
    (utf16String s).length = 2 + (utf16 s).length * 2 := by
  rw [utf16String, List.length_append, length_flatMap_be16]; rfl

/-- Twice a 16-bit count does not overflow. -/
theorem checkedMul_units (n : UInt16) : checkedMul n.toNat 2 = some (n.toNat * 2) :=
  checkedMul_le (by have := n.toNat_lt; simp only [USIZE_MAX]; omega)

/-- A UTF-16 string with something behind it is read back. -/
theorem getUtf16String_append {s : List Char} (hs : (utf16 s).length ≤ 65535) (i : Nat)
    {rest : List UInt8} (hrest : rest ≠ []) :
    getUtf16String ⟨i, utf16String s ++ rest⟩ =
      .ok (some (String.ofList s, ⟨i + (2 + (utf16 s).length * 2), rest⟩)) := by
  have hn : (UInt16.ofNat (utf16 s).length).toNat = (utf16 s).length := by
    rw [UInt16.toNat_ofNat']; omega
  have hpos : 0 < rest.length := List.length_pos_iff.2 hrest
  have hlen := length_flatMap_be16 (utf16 s)
  rw [utf16String, List.append_assoc, getUtf16String, bind_some (need_apply (by simp)),
    bind_some (getU16_append i _ _), checkedMul_units, checked_some_bind,
    bind_some (remaining_apply _), hn, if_neg (by simp only [List.length_append]; omega),
    bind_some (getU16s_append _ _ _), decodeUtf16_utf16]
  simp only [pure_apply]
  congr 4; omega

end Parser
end CraftIP
