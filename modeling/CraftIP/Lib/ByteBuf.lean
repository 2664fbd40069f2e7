import Mathlib.Data.Nat.Bitwise

/-!
# Byte buffers

Reads that panic on a short buffer, and big-endian integers. A read that panics returns `none`; what
a whole function call comes to is an `Outcome`.
-/

/-- How a call of a fallible function ends. -/
inductive Outcome (ε α : Type) where
  | ok (a : α)
  | err (e : ε)
  | panic
deriving DecidableEq, Repr

namespace ByteBuf

/-- The largest `usize` of a 64-bit machine. -/
def USIZE_MAX : Nat := 18446744073709551615
/-- No allocation is larger. -/
def ISIZE_MAX : Nat := 9223372036854775807

/-- `a - b` on `usize` with overflow checks. -/
def checkedSub (a b : Nat) : Option Nat := if b ≤ a then some (a - b) else none
/-- `a + b` on `usize` with overflow checks. -/
def checkedAdd (a b : Nat) : Option Nat := if a + b ≤ USIZE_MAX then some (a + b) else none
/-- `a * b` on `usize` with overflow checks. -/
def checkedMul (a b : Nat) : Option Nat := if a * b ≤ USIZE_MAX then some (a * b) else none

/-- `a + b` on `i32` with overflow checks. -/
def checkedAddI32 (a b : Int32) : Option Int32 :=
  if -2147483648 ≤ a.toInt + b.toInt ∧ a.toInt + b.toInt ≤ 2147483647 then some (a + b) else none
/-- `a << n` on `i32` with overflow checks. -/
def checkedShlI32 (a n : Int32) : Option Int32 := if 0 ≤ n ∧ n < 32 then some (a <<< n) else none

def advance (n : Nat) (b : List UInt8) : Option (List UInt8) :=
  if n ≤ b.length then some (b.drop n) else none

/-- The first `n` bytes and the rest. -/
def splitTo (n : Nat) (b : List UInt8) : Option (List UInt8 × List UInt8) :=
  if n ≤ b.length then some (b.take n, b.drop n) else none

def ofBe16 (hi lo : UInt8) : UInt16 := UInt16.ofNat (hi.toNat * 256 + lo.toNat)

def be16 (x : UInt16) : List UInt8 := [(x / 256).toUInt8, x.toUInt8]

def getU16 : List UInt8 → Option (UInt16 × List UInt8)
  | hi :: lo :: b => some (ofBe16 hi lo, b)
  | _ => none

def ofBe32 (a b c d : UInt8) : UInt32 :=
  UInt32.ofNat (((a.toNat * 256 + b.toNat) * 256 + c.toNat) * 256 + d.toNat)

def be32 (x : UInt32) : List UInt8 :=
  [(x / 16777216).toUInt8, (x / 65536).toUInt8, (x / 256).toUInt8, x.toUInt8]

def ofBe64 (hi lo : UInt32) : UInt64 := UInt64.ofNat (hi.toNat * 4294967296 + lo.toNat)

def be64 (x : UInt64) : List UInt8 := be32 (x / 4294967296).toUInt32 ++ be32 x.toUInt32

def getU64 : List UInt8 → Option (UInt64 × List UInt8)
  | a :: b :: c :: d :: e :: f :: g :: h :: rest => some (ofBe64 (ofBe32 a b c d) (ofBe32 e f g h), rest)
  | _ => none

@[simp] theorem length_be16 (x : UInt16) : (be16 x).length = 2 := rfl

@[simp] theorem length_be32 (x : UInt32) : (be32 x).length = 4 := rfl

theorem toNat_ofBe16 (hi lo : UInt8) : (ofBe16 hi lo).toNat = hi.toNat * 256 + lo.toNat := by
  have := hi.toNat_lt; have := lo.toNat_lt
  rw [ofBe16, UInt16.toNat_ofNat']; omega

@[simp] theorem ofBe16_be16 (x : UInt16) : ofBe16 (x / 256).toUInt8 x.toUInt8 = x := by
  apply UInt16.toNat_inj.1
  have := x.toNat_lt
  simp only [toNat_ofBe16, UInt16.toNat_toUInt8, UInt16.toNat_div, UInt16.reduceToNat]; omega

@[simp] theorem be16_ofBe16 (hi lo : UInt8) : be16 (ofBe16 hi lo) = [hi, lo] := by
  have := hi.toNat_lt; have := lo.toNat_lt
  simp only [be16, List.cons.injEq, and_true, ← UInt8.toNat_inj, UInt16.toNat_toUInt8,
    UInt16.toNat_div, UInt16.reduceToNat, toNat_ofBe16]
  omega

theorem toNat_ofBe32 (a b c d : UInt8) :
    (ofBe32 a b c d).toNat = ((a.toNat * 256 + b.toNat) * 256 + c.toNat) * 256 + d.toNat := by
  have := a.toNat_lt; have := b.toNat_lt; have := c.toNat_lt; have := d.toNat_lt
  rw [ofBe32, UInt32.toNat_ofNat']; omega

theorem ofBe32_be32 (x : UInt32) :
    ofBe32 (x / 16777216).toUInt8 (x / 65536).toUInt8 (x / 256).toUInt8 x.toUInt8 = x := by
  apply UInt32.toNat_inj.1
  have := x.toNat_lt
  simp only [toNat_ofBe32, UInt32.toNat_toUInt8, UInt32.toNat_div, UInt32.reduceToNat]; omega

@[simp] theorem be32_ofBe32 (a b c d : UInt8) : be32 (ofBe32 a b c d) = [a, b, c, d] := by
  have := a.toNat_lt; have := b.toNat_lt; have := c.toNat_lt; have := d.toNat_lt
  simp only [be32, List.cons.injEq, and_true, ← UInt8.toNat_inj, UInt32.toNat_toUInt8,
    UInt32.toNat_div, UInt32.reduceToNat, toNat_ofBe32]
  omega

theorem checkedAdd_le {a b : Nat} (h : a + b ≤ USIZE_MAX) : checkedAdd a b = some (a + b) := if_pos h

theorem checkedMul_le {a b : Nat} (h : a * b ≤ USIZE_MAX) : checkedMul a b = some (a * b) := if_pos h

theorem checkedAdd_eq_some {a b n : Nat} (h : checkedAdd a b = some n) : n = a + b := by
  rw [checkedAdd] at h
  split at h
  · exact (Option.some.inj h).symm
  · cases h

theorem checkedAdd_eq_none {a b : Nat} (h : checkedAdd a b = none) : USIZE_MAX < a + b := by
  rw [checkedAdd] at h
  split at h
  · cases h
  · omega

@[simp] theorem getU16_be16_append (x : UInt16) (b : List UInt8) : getU16 (be16 x ++ b) = some (x, b) := by
  simp [be16, getU16]

theorem getU16_of_le {b : List UInt8} (h : 2 ≤ b.length) :
    ∃ x rest, getU16 b = some (x, rest) ∧ rest.length + 2 = b.length := by
  obtain _ | ⟨hi, _ | ⟨lo, rest⟩⟩ := b
  · exact absurd h (by simp)
  · exact absurd h (by simp)
  · exact ⟨ofBe16 hi lo, rest, rfl, rfl⟩

theorem getU16_eq_some {b rest : List UInt8} {x : UInt16} (h : getU16 b = some (x, rest)) : b = be16 x ++ rest := by
  obtain _ | ⟨hi, _ | ⟨lo, b⟩⟩ := b
  · cases h
  · cases h
  · cases h
    rw [be16_ofBe16]
    rfl

theorem be16_inj {x y : UInt16} : be16 x = be16 y ↔ x = y := by
  constructor
  · intro h
    have hget := congrArg getU16 (show be16 x ++ [] = be16 y ++ [] by rw [h])
    rw [getU16_be16_append, getU16_be16_append] at hget
    exact congrArg Prod.fst (Option.some.inj hget)
  · rintro rfl
    rfl

theorem toNat_ofBe64 (hi lo : UInt32) : (ofBe64 hi lo).toNat = hi.toNat * 4294967296 + lo.toNat := by
  have := hi.toNat_lt; have := lo.toNat_lt
  rw [ofBe64, UInt64.toNat_ofNat']; omega

@[simp] theorem be64_ofBe64 (hi lo : UInt32) : be64 (ofBe64 hi lo) = be32 hi ++ be32 lo := by
  have := hi.toNat_lt; have := lo.toNat_lt
  have hhi : (ofBe64 hi lo / 4294967296).toUInt32 = hi := by
    rw [← UInt32.toNat_inj]
    simp only [UInt64.toNat_toUInt32, UInt64.toNat_div, UInt64.reduceToNat, toNat_ofBe64]
    omega
  have hlo : (ofBe64 hi lo).toUInt32 = lo := by
    rw [← UInt32.toNat_inj, UInt64.toNat_toUInt32, toNat_ofBe64]
    omega
  rw [be64, hhi, hlo]

theorem getU64_eq_some {b rest : List UInt8} {x : UInt64} (h : getU64 b = some (x, rest)) : b = be64 x ++ rest := by
  obtain _ | ⟨b₁, _ | ⟨b₂, _ | ⟨b₃, _ | ⟨b₄, _ | ⟨b₅, _ | ⟨b₆, _ | ⟨b₇, _ | ⟨b₈, b⟩⟩⟩⟩⟩⟩⟩⟩ := b
  case cons.cons.cons.cons.cons.cons.cons.cons =>
    cases h
    rw [be64_ofBe64, be32_ofBe32, be32_ofBe32]
    rfl
  all_goals cases h

theorem getU64_of_le {b : List UInt8} (h : 8 ≤ b.length) :
    ∃ x rest, getU64 b = some (x, rest) ∧ rest.length + 8 = b.length := by
  obtain _ | ⟨b₁, _ | ⟨b₂, _ | ⟨b₃, _ | ⟨b₄, _ | ⟨b₅, _ | ⟨b₆, _ | ⟨b₇, _ | ⟨b₈, rest⟩⟩⟩⟩⟩⟩⟩⟩ := b
  case cons.cons.cons.cons.cons.cons.cons.cons => exact ⟨_, rest, rfl, rfl⟩
  all_goals exact absurd h (by simp)

/-! ### The top bit of a 16-bit word -/

theorem toNat_clear15 (x : UInt16) : (x &&& ~~~((1 : UInt16) <<< 15)).toNat = x.toNat % 32768 := by
  have h : (~~~((1 : UInt16) <<< 15)).toNat = 2 ^ 15 - 1 := by decide
  rw [UInt16.toNat_and, h, Nat.and_two_pow_sub_one_eq_mod]

theorem toNat_set15 (x : UInt16) : (x ||| ((1 : UInt16) <<< 15)).toNat = x.toNat % 32768 + 32768 := by
  have h : ((1 : UInt16) <<< 15).toNat = 2 ^ 15 := by decide
  have hx := x.toNat_lt
  rw [UInt16.toNat_or, h]
  obtain hlt | ⟨r, hr, hlt⟩ : x.toNat < 2 ^ 15 ∨ ∃ r, x.toNat = 2 ^ 15 + r ∧ r < 2 ^ 15 := by
    by_cases hlt : x.toNat < 2 ^ 15
    · exact .inl hlt
    · exact .inr ⟨x.toNat - 2 ^ 15, by omega, by omega⟩
  · have := Nat.two_pow_add_eq_or_of_lt hlt 1
    rw [Nat.mul_one] at this
    rw [Nat.or_comm, ← this]; omega
  · have := Nat.two_pow_add_eq_or_of_lt hlt 1
    rw [Nat.mul_one] at this
    rw [hr, this, Nat.or_comm, ← Nat.or_assoc, Nat.or_self, ← this]; omega

theorem bit15_ne_zero (x : UInt16) : (x &&& ((1 : UInt16) <<< 15) ≠ 0) ↔ 32768 ≤ x.toNat := by
  have h : ((1 : UInt16) <<< 15).toNat = 2 ^ 15 := by decide
  have hx := x.toNat_lt
  rw [ne_eq, ← UInt16.toNat_inj, UInt16.toNat_and, h, Nat.land_comm, Nat.two_pow_and,
    Nat.toNat_testBit, UInt16.toNat_zero]
  omega

end ByteBuf
