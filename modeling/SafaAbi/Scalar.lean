import Mathlib.Tactic.NormNum
/-!
# `SafaAbi.Scalar` — Rust's integer types on SafaOS's 64-bit targets

The crate refuses to build for anything but SafaOS or a freestanding target (`lib.rs`), and every
such target is 64-bit: `usize` and `isize` are 64-bit words. A value of an unsigned type is a natural
number below `2 ^ numBits`, a value of a signed type an integer in `[-2 ^ (numBits - 1),
2 ^ (numBits - 1))`; each carries its bound as a field, so no out-of-range value can be built.

Arithmetic is Rust's with overflow checks on, as in a debug build: `-x` on a signed value is `none`
(a panic) exactly at `MIN`. The `as` casts never fail: they keep the low bits (`%`) or read them back
as two's complement (`Int.bmod`).
-/

namespace SafaAbi.Scalar

/-! ## §1 — The twelve integer types -/

/-- The unsigned integer types. -/
inductive UTy
  | u8 | u16 | u32 | u64 | u128 | usize
  deriving DecidableEq, Repr

/-- The signed integer types. -/
inductive ITy
  | i8 | i16 | i32 | i64 | i128 | isize
  deriving DecidableEq, Repr

/-- Bit width; `usize` is pointer-sized, 64 bits on SafaOS. -/
def UTy.numBits : UTy → Nat
  | .u8 => 8 | .u16 => 16 | .u32 => 32 | .u64 => 64 | .u128 => 128 | .usize => 64

/-- Bit width; `isize` is pointer-sized, 64 bits on SafaOS. -/
def ITy.numBits : ITy → Nat
  | .i8 => 8 | .i16 => 16 | .i32 => 32 | .i64 => 64 | .i128 => 128 | .isize => 64

/-- A value of the unsigned type `ty`. -/
@[ext]
structure UScalar (ty : UTy) where
  val : Nat
  lt : val < 2 ^ ty.numBits
  deriving DecidableEq, Repr

/-- A value of the signed type `ty`. -/
@[ext]
structure IScalar (ty : ITy) where
  val : Int
  ge : -2 ^ (ty.numBits - 1) ≤ val
  lt : val < 2 ^ (ty.numBits - 1)
  deriving DecidableEq, Repr

abbrev U8 := UScalar .u8
abbrev U16 := UScalar .u16
abbrev U32 := UScalar .u32
abbrev Usize := UScalar .usize
abbrev Isize := IScalar .isize

/-- A signed width is twice its positive half. -/
theorem ITy.two_pow_numBits (ty : ITy) :
    ((2 ^ ty.numBits : Nat) : Int) = 2 * 2 ^ (ty.numBits - 1) := by
  cases ty <;> norm_num [ITy.numBits]

instance : Zero (UScalar ty) := ⟨⟨0, Nat.two_pow_pos _⟩⟩

instance : Zero (IScalar ty) := ⟨⟨0, by simp, by positivity⟩⟩

@[simp] theorem UScalar.val_zero : (0 : UScalar ty).val = 0 := rfl

@[simp] theorem IScalar.val_zero : (0 : IScalar ty).val = 0 := rfl

theorem UScalar.eq_zero_iff (x : UScalar ty) : x = 0 ↔ x.val = 0 := by
  rw [UScalar.ext_iff, UScalar.val_zero]

theorem IScalar.eq_zero_iff (x : IScalar ty) : x = 0 ↔ x.val = 0 := by
  rw [IScalar.ext_iff, IScalar.val_zero]

/-- `isize::MAX as usize`. -/
def isizeMax : Nat := 2 ^ 63 - 1

/-- `usize::MAX`. -/
def usizeMax : Nat := 2 ^ 64 - 1

/-! ## §2 — `as` casts and negation -/

/-- `x as ty'` between unsigned types: the low `numBits` bits. -/
def UScalar.cast (ty' : UTy) (x : UScalar ty) : UScalar ty' :=
  ⟨x.val % 2 ^ ty'.numBits, Nat.mod_lt _ (Nat.two_pow_pos _)⟩

/-- A cast there and back is the identity on a value that fits the other type. -/
theorem UScalar.cast_cast_of_lt {ty' : UTy} (x : UScalar ty) (h : x.val < 2 ^ ty'.numBits) :
    (x.cast ty').cast ty = x := by
  ext; simp only [cast, Nat.mod_eq_of_lt h, Nat.mod_eq_of_lt x.lt]

/-- Widening, then narrowing back, is the identity. -/
theorem UScalar.cast_cast_of_le {ty' : UTy} (x : UScalar ty) (h : ty.numBits ≤ ty'.numBits) :
    (x.cast ty').cast ty = x :=
  x.cast_cast_of_lt (lt_of_lt_of_le x.lt (Nat.pow_le_pow_right (by decide) h))

/-- `x as ty'` from a signed to an unsigned type: the value modulo `2 ^ numBits`. -/
def IScalar.toU (ty' : UTy) (x : IScalar ty) : UScalar ty' :=
  ⟨(x.val % ((2 ^ ty'.numBits : Nat) : Int)).toNat, by
    have hpos : (0 : Int) < ((2 ^ ty'.numBits : Nat) : Int) := by positivity
    have := Int.emod_lt_of_pos x.val hpos
    have := Int.emod_nonneg x.val hpos.ne'
    omega⟩

/-- `x as ty'` from an unsigned to a signed type: the low bits read as two's complement. -/
def UScalar.toI (ty' : ITy) (x : UScalar ty) : IScalar ty' :=
  ⟨Int.bmod x.val (2 ^ ty'.numBits), by
    have := Int.le_bmod (x := x.val) (Nat.two_pow_pos ty'.numBits)
    rw [ITy.two_pow_numBits] at this; omega, by
    have := Int.bmod_lt (x := x.val) (Nat.two_pow_pos ty'.numBits)
    rw [ITy.two_pow_numBits] at this; omega⟩

/-- `x.is_negative()`. -/
def IScalar.isNegative (x : IScalar ty) : Bool := decide (x.val < 0)

/-- `-x`: `none`, an overflow panic, when `x` is `MIN`. -/
def IScalar.neg (x : IScalar ty) : Option (IScalar ty) :=
  if h : -x.val < 2 ^ (ty.numBits - 1) then some ⟨-x.val, by have := x.lt; omega, h⟩ else none

@[simp] theorem IScalar.isNegative_iff (x : IScalar ty) : x.isNegative = true ↔ x.val < 0 := by
  simp [IScalar.isNegative]

theorem IScalar.neg_eq_none_iff (x : IScalar ty) :
    x.neg = none ↔ x.val = -2 ^ (ty.numBits - 1) := by
  unfold IScalar.neg; have := x.ge; split <;> simp <;> omega

theorem IScalar.neg_eq_some (x : IScalar ty) (h : x.val ≠ -2 ^ (ty.numBits - 1)) :
    ∃ y, x.neg = some y ∧ y.val = -x.val := by
  unfold IScalar.neg; have := x.ge
  rw [dif_pos (by omega)]; exact ⟨_, rfl, rfl⟩

/-- An unsigned value below the signed half keeps its value under `as`. -/
theorem UScalar.toI_val_of_lt (x : UScalar ty) (h : x.val < 2 ^ (ty'.numBits - 1)) :
    (x.toI ty').val = x.val := by
  have h2 := ITy.two_pow_numBits ty'
  have hx : (x.val : Int) < 2 ^ (ty'.numBits - 1) := by exact_mod_cast h
  simp only [UScalar.toI, Int.bmod_def]
  rw [Int.emod_eq_of_lt (by omega) (by omega), if_pos (by omega)]

/-- A `usize` read `as isize` is negative exactly when it exceeds `isize::MAX`. -/
theorem Usize.toI_isize_neg_iff (x : Usize) : (x.toI .isize).val < 0 ↔ isizeMax < x.val := by
  have hx := x.lt
  simp only [UTy.numBits] at hx
  simp only [UScalar.toI, Int.bmod_def, ITy.numBits, isizeMax]
  rw [Int.emod_eq_of_lt (by omega) (by omega)]
  split <;> omega

/-- A signed value that is not negative keeps its value under `as` into a wide enough type. -/
theorem IScalar.toU_val_of_nonneg (x : IScalar ty) (h0 : 0 ≤ x.val)
    (h : x.val < ((2 ^ ty'.numBits : Nat) : Int)) : ((x.toU ty').val : Int) = x.val := by
  simp only [IScalar.toU]
  rw [Int.emod_eq_of_lt h0 h, Int.toNat_of_nonneg h0]

/-! ## §3 — Checked results and byte order -/

/-- A `ty` computed with overflow checks: `n` when it fits, and `none`, the panic, when not. -/
def UScalar.ofNatChecked (ty : UTy) (n : Nat) : Option (UScalar ty) :=
  if h : n < 2 ^ ty.numBits then .some ⟨n, h⟩ else .none

theorem UScalar.ofNatChecked_of_lt (h : n < 2 ^ ty.numBits) :
    UScalar.ofNatChecked ty n = .some ⟨n, h⟩ := dif_pos h

/-- `u16::swap_bytes`. -/
def UScalar.swapBytes (x : U16) : U16 :=
  ⟨x.val % 256 * 256 + x.val / 256, by have := x.lt; simp only [UTy.numBits] at this ⊢; omega⟩

/-- `u16::to_be` on SafaOS's little-endian targets: the two bytes swapped. -/
def UScalar.toBe (x : U16) : U16 := x.swapBytes

/-- `u16::from_be`, likewise. -/
def UScalar.fromBe (x : U16) : U16 := x.swapBytes

end SafaAbi.Scalar
