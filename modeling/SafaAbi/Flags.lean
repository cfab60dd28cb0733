import SafaAbi.Scalar
/-!
# `SafaAbi.Flags` — the bit-flag types of the ABI

`PollEvents`, `MiceBtnStatus`, `MemMapFlags`, `ShmFlags`, `SockCreateKind`, `SockMsgFlags` and
`OpenOptions` (and `SpawnFlags`, `SafaAbi.Process`) are each `#[repr(transparent)]` over an unsigned
integer whose bits are the flags, and share a handful of operations: `contains` is
`self & other == other`, `intersects` is `self & other != 0`, `is_empty` is `self == 0`, `union` and
`|` are `|`, `intersection` and `&` are `&`, `not` and `!` are `!`, `difference` is `self & !other`.

The operations are defined once, for every width (§1), and read through `mem`, the flags a value
holds (§2). §3 names what each operation should be on those flags: inclusion, a common flag, no flag,
a flag-by-flag combination, the complement within the width. Each type keeps its own operations
under its own names (§4), and `flag_ops_are_set_ops` states the laws for the generic operations at
every width and for every type's own operations. Two types depart from the pattern:
`MemMapFlags::contains` is written through the structure's `&` and `==` (`MemMapFlags.contains_eq`
says it is still inclusion), and `OpenOptions::contains` is `self & other != 0`, a common flag and
not inclusion. Some constants are not single flags: `MiceBtnStatus::BTN_MID` is
`BTN_LEFT | BTN_RIGHT`, `SockCreateKind::SOCK_STREAM` is no flag at all, and
`SockMsgFlags::DONT_WAIT` and `PEEK` are the same flag.
-/
namespace SafaAbi.Flags

open SafaAbi.Scalar

variable {ty : UTy}

/-! ## §1 — The operations, once for every width -/

/-- `a & b`. -/
def bitand (a b : UScalar ty) : UScalar ty := ⟨a.val &&& b.val, Nat.and_lt_two_pow _ b.lt⟩

/-- `a | b`. -/
def bitor (a b : UScalar ty) : UScalar ty := ⟨a.val ||| b.val, Nat.or_lt_two_pow a.lt b.lt⟩

/-- `!a`: every bit of the width flipped. -/
def bitnot (a : UScalar ty) : UScalar ty :=
  ⟨(2 ^ ty.numBits - 1) ^^^ a.val,
    Nat.xor_lt_two_pow (Nat.sub_lt (Nat.two_pow_pos _) Nat.one_pos) a.lt⟩

/-- `contains`: `self & other == other`. -/
def contains (self other : UScalar ty) : Bool := bitand self other == other

/-- `intersects`: `self & other != 0`. -/
def intersects (self other : UScalar ty) : Bool := bitand self other != 0

/-- `is_empty`: `self == 0`. -/
def isEmpty (self : UScalar ty) : Bool := self == 0

/-- `difference`: `self & !other`. -/
def difference (self other : UScalar ty) : UScalar ty := bitand self (bitnot other)

/-! ## §2 — The flags a value holds -/

/-- Flag `i`, the bit of weight `2 ^ i`, is set in `a`. -/
def mem (a : UScalar ty) (i : Nat) : Bool := a.val.testBit i

theorem mem_of_numBits_le (a : UScalar ty) {i : Nat} (h : ty.numBits ≤ i) : mem a i = false :=
  Nat.testBit_lt_two_pow (lt_of_lt_of_le a.lt (Nat.pow_le_pow_right (by decide) h))

/-- A value is determined by its flags. -/
theorem eq_of_mem {a b : UScalar ty} (h : ∀ i, mem a i = mem b i) : a = b :=
  UScalar.ext (Nat.eq_of_testBit_eq h)

@[simp] theorem mem_zero (i : Nat) : mem (0 : UScalar ty) i = false := Nat.zero_testBit i

@[simp] theorem mem_bitand (a b : UScalar ty) (i : Nat) : mem (bitand a b) i = (mem a i && mem b i) :=
  Nat.testBit_and _ _ _

@[simp] theorem mem_bitor (a b : UScalar ty) (i : Nat) : mem (bitor a b) i = (mem a i || mem b i) :=
  Nat.testBit_or _ _ _

@[simp] theorem mem_bitnot (a : UScalar ty) (i : Nat) :
    mem (bitnot a) i = (decide (i < ty.numBits) && !mem a i) := by
  simp only [mem, bitnot, Nat.testBit_xor, Nat.testBit_two_pow_sub_one]
  by_cases h : i < ty.numBits
  · simp [h]
  · simp [h, show a.val.testBit i = false from mem_of_numBits_le a (by omega)]

@[simp] theorem mem_difference (a b : UScalar ty) (i : Nat) :
    mem (difference a b) i = (mem a i && !mem b i) := by
  simp only [difference, mem_bitand, mem_bitnot]
  by_cases h : i < ty.numBits
  · simp [h]
  · simp [h, mem_of_numBits_le a (Nat.le_of_not_lt h)]

theorem contains_iff (a b : UScalar ty) :
    contains a b = true ↔ ∀ i, mem b i = true → mem a i = true := by
  rw [contains, beq_iff_eq]
  constructor
  · intro h i hb
    rw [← h, mem_bitand, Bool.and_eq_true] at hb
    exact hb.1
  · intro h
    exact eq_of_mem fun i => by cases hb : mem b i <;> simp [hb, h i]

theorem intersects_iff (a b : UScalar ty) :
    intersects a b = true ↔ ∃ i, mem a i = true ∧ mem b i = true := by
  rw [intersects, bne_iff_ne, ne_eq, UScalar.eq_zero_iff]
  constructor
  · intro h
    obtain ⟨i, hi⟩ := Nat.ne_zero_implies_bit_true h
    exact ⟨i, by simpa [mem, bitand] using hi⟩
  · rintro ⟨i, ha, hb⟩ h
    have hi := mem_bitand a b i
    rw [mem, h, Nat.zero_testBit, ha, hb] at hi
    cases hi

theorem isEmpty_iff (a : UScalar ty) : isEmpty a = true ↔ ∀ i, mem a i = false := by
  rw [isEmpty, beq_iff_eq]
  exact ⟨fun h i => h ▸ mem_zero i, fun h => eq_of_mem fun i => (h i).trans (mem_zero i).symm⟩

/-! ## §3 — What a flag operation should be -/

section Laws

variable {F : Type}

/-- `c a b` holds exactly when every flag of `b` is a flag of `a`. -/
def IsInclusion (bits : F → UScalar ty) (c : F → F → Bool) : Prop :=
  ∀ a b, c a b = true ↔ ∀ i, mem (bits b) i = true → mem (bits a) i = true

/-- `c a b` holds exactly when `a` and `b` share a flag. -/
def IsIntersection (bits : F → UScalar ty) (c : F → F → Bool) : Prop :=
  ∀ a b, c a b = true ↔ ∃ i, mem (bits a) i = true ∧ mem (bits b) i = true

/-- `e a` holds exactly when `a` holds no flag. -/
def IsEmptiness (bits : F → UScalar ty) (e : F → Bool) : Prop :=
  ∀ a, e a = true ↔ ∀ i, mem (bits a) i = false

/-- `op` combines the flags of its arguments one by one with `f`. -/
def IsPointwise (bits : F → UScalar ty) (op : F → F → F) (f : Bool → Bool → Bool) : Prop :=
  ∀ a b i, mem (bits (op a b)) i = f (mem (bits a) i) (mem (bits b) i)

/-- `op` flips every flag of the width. -/
def IsComplement (bits : F → UScalar ty) (op : F → F) : Prop :=
  ∀ a i, mem (bits (op a)) i = (decide (i < ty.numBits) && !mem (bits a) i)

end Laws

/-! ## §4 — The flag types -/

/-- `PollEvents` (`poll.rs`), over a `u16`. -/
structure PollEvents where
  bits : U16
  deriving DecidableEq, Repr

namespace PollEvents

def NONE : PollEvents := ⟨⟨0, by decide⟩⟩
def DATA_AVAILABLE : PollEvents := ⟨⟨1 <<< 0, by decide⟩⟩
def CAN_WRITE : PollEvents := ⟨⟨1 <<< 1, by decide⟩⟩
def DISCONNECTED : PollEvents := ⟨⟨1 <<< 2, by decide⟩⟩
/-- `Self(u16::MAX)`. -/
def ALL : PollEvents := ⟨⟨2 ^ 16 - 1, by decide⟩⟩

def contains (self other : PollEvents) : Bool := Flags.contains self.bits other.bits
def intersects (self other : PollEvents) : Bool := Flags.intersects self.bits other.bits
def isEmpty (self : PollEvents) : Bool := Flags.isEmpty self.bits
def union (self other : PollEvents) : PollEvents := ⟨bitor self.bits other.bits⟩
def intersection (self other : PollEvents) : PollEvents := ⟨bitand self.bits other.bits⟩
def difference (self other : PollEvents) : PollEvents := ⟨Flags.difference self.bits other.bits⟩

end PollEvents

/-- `MiceBtnStatus` (`input.rs`), over a `u32`. -/
structure MiceBtnStatus where
  bits : U32
  deriving DecidableEq, Repr

namespace MiceBtnStatus

def BTN_LEFT : MiceBtnStatus := ⟨⟨1, by decide⟩⟩
def BTN_RIGHT : MiceBtnStatus := ⟨⟨2, by decide⟩⟩
def BTN_MID : MiceBtnStatus := ⟨⟨3, by decide⟩⟩
def NO_BUTTONS : MiceBtnStatus := ⟨⟨0, by decide⟩⟩

def contains (self other : MiceBtnStatus) : Bool := Flags.contains self.bits other.bits
def or (self other : MiceBtnStatus) : MiceBtnStatus := ⟨bitor self.bits other.bits⟩
def and (self other : MiceBtnStatus) : MiceBtnStatus := ⟨bitand self.bits other.bits⟩
def not (self : MiceBtnStatus) : MiceBtnStatus := ⟨bitnot self.bits⟩

end MiceBtnStatus

/-- `MemMapFlags` (`mem.rs`), over a `u8`. -/
structure MemMapFlags where
  bits : U8
  deriving DecidableEq, Repr

namespace MemMapFlags

def FIXED : MemMapFlags := ⟨⟨1 <<< 0, by decide⟩⟩
def WRITE : MemMapFlags := ⟨⟨1 <<< 1, by decide⟩⟩
def DISABLE_EXEC : MemMapFlags := ⟨⟨1 <<< 2, by decide⟩⟩
def MAP_RESOURCE : MemMapFlags := ⟨⟨1 <<< 3, by decide⟩⟩

def fromBitsRetaining (bits : U8) : MemMapFlags := ⟨bits⟩
def bitor (self rhs : MemMapFlags) : MemMapFlags := ⟨Flags.bitor self.bits rhs.bits⟩
def bitand (self rhs : MemMapFlags) : MemMapFlags := ⟨Flags.bitand self.bits rhs.bits⟩
/-- `contains`: `(self & other) == other`, through `BitAnd` and the derived `PartialEq`. -/
def contains (self other : MemMapFlags) : Bool := self.bitand other == other

/-- Written through the structure's `==`, `contains` is still the family's inclusion test. -/
theorem contains_eq (self other : MemMapFlags) :
    self.contains other = Flags.contains self.bits other.bits := by
  cases other
  apply Bool.eq_iff_iff.2
  simp only [contains, Flags.contains, bitand, beq_iff_eq, MemMapFlags.mk.injEq]

end MemMapFlags

/-- `ShmFlags` (`mem.rs`), over a `u32`. -/
structure ShmFlags where
  bits : U32
  deriving DecidableEq, Repr

namespace ShmFlags

def LOCAL : ShmFlags := ⟨⟨1 <<< 0, by decide⟩⟩

def fromBitsRetaining (bits : U32) : ShmFlags := ⟨bits⟩
def contains (self other : ShmFlags) : Bool := Flags.contains self.bits other.bits
def bitor (self rhs : ShmFlags) : ShmFlags := ⟨Flags.bitor self.bits rhs.bits⟩
def bitand (self rhs : ShmFlags) : ShmFlags := ⟨Flags.bitand self.bits rhs.bits⟩

end ShmFlags

/-- `SockCreateKind` (`sockets.rs`), over a `u16`: the socket type and the non-blocking flag. -/
structure SockCreateKind where
  bits : U16
  deriving DecidableEq, Repr

namespace SockCreateKind

def SOCK_STREAM : SockCreateKind := ⟨⟨0, by decide⟩⟩
def SOCK_SEQPACKET : SockCreateKind := ⟨⟨1, by decide⟩⟩
def SOCK_DGRAM : SockCreateKind := ⟨⟨2, by decide⟩⟩
def SOCK_NON_BLOCKING : SockCreateKind := ⟨⟨1 <<< 15, by decide⟩⟩

def contains (self other : SockCreateKind) : Bool := Flags.contains self.bits other.bits
def fromBitsRetaining (bits : U16) : SockCreateKind := ⟨bits⟩
def bitor (self rhs : SockCreateKind) : SockCreateKind := ⟨Flags.bitor self.bits rhs.bits⟩

end SockCreateKind

/-- `SockMsgFlags` (`sockets.rs`), over a `u32`. `DONT_WAIT` and `PEEK` are both `1`. -/
structure SockMsgFlags where
  bits : U32
  deriving DecidableEq, Repr

namespace SockMsgFlags

def NONE : SockMsgFlags := ⟨⟨0, by decide⟩⟩
def DONT_WAIT : SockMsgFlags := ⟨⟨1, by decide⟩⟩
def PEEK : SockMsgFlags := ⟨⟨1, by decide⟩⟩

def contains (self other : SockMsgFlags) : Bool := Flags.contains self.bits other.bits
def fromBitsRetaining (bits : U32) : SockMsgFlags := ⟨bits⟩
def intoBits (self : SockMsgFlags) : U32 := self.bits
def bitor (self rhs : SockMsgFlags) : SockMsgFlags := ⟨Flags.bitor self.bits rhs.bits⟩
def bitand (self rhs : SockMsgFlags) : SockMsgFlags := ⟨Flags.bitand self.bits rhs.bits⟩
def not (self : SockMsgFlags) : SockMsgFlags := ⟨bitnot self.bits⟩

end SockMsgFlags

/-- `OpenOptions` (`fs.rs`), over a `u8`. -/
structure OpenOptions where
  bits : U8
  deriving DecidableEq, Repr

namespace OpenOptions

def WRITE : OpenOptions := ⟨⟨1 <<< 0, by decide⟩⟩
def READ : OpenOptions := ⟨⟨1 <<< 1, by decide⟩⟩
def CREATE_FILE : OpenOptions := ⟨⟨1 <<< 2, by decide⟩⟩
def CREATE_DIRECTORY : OpenOptions := ⟨⟨1 <<< 3, by decide⟩⟩
def WRITE_TRUNCATE : OpenOptions := ⟨⟨1 <<< 4, by decide⟩⟩

def fromBits (bits : U8) : OpenOptions := ⟨bits⟩

/-- `BitOr for OpenOptions`. -/
def bitor (self other : OpenOptions) : OpenOptions := ⟨Flags.bitor self.bits other.bits⟩

/-- `contains`: `self.0 & other.0 != 0`. -/
def contains (self other : OpenOptions) : Bool := bitand self.bits other.bits != 0

def isWrite (self : OpenOptions) : Bool := self.contains WRITE
def isWriteTruncate (self : OpenOptions) : Bool := self.contains WRITE_TRUNCATE
def isRead (self : OpenOptions) : Bool := self.contains READ
def createFile (self : OpenOptions) : Bool := self.contains CREATE_FILE
def createDir (self : OpenOptions) : Bool := self.contains CREATE_DIRECTORY

end OpenOptions

/-- **The flag operations are the set operations on the flags a value holds.** At every width, the
shared `contains`, `intersects`, `is_empty`, `|`, `&`, `!` and `difference` are inclusion, a common
flag, no flag, union, intersection, complement within the width and set difference; and so is every
flag type's own operation of each kind, except `OpenOptions::contains`, which asks for a common
flag. -/
theorem flag_ops_are_set_ops :
    (∀ ty : UTy, IsInclusion id (@contains ty) ∧ IsIntersection id (@intersects ty) ∧
      IsEmptiness id (@isEmpty ty) ∧ IsPointwise id (@bitor ty) (· || ·) ∧
      IsPointwise id (@bitand ty) (· && ·) ∧ IsComplement id (@bitnot ty) ∧
      IsPointwise id (@difference ty) (fun x y => x && !y)) ∧
    (IsInclusion PollEvents.bits PollEvents.contains ∧
      IsIntersection PollEvents.bits PollEvents.intersects ∧
      IsEmptiness PollEvents.bits PollEvents.isEmpty ∧
      IsPointwise PollEvents.bits PollEvents.union (· || ·) ∧
      IsPointwise PollEvents.bits PollEvents.intersection (· && ·) ∧
      IsPointwise PollEvents.bits PollEvents.difference (fun x y => x && !y)) ∧
    (IsInclusion MiceBtnStatus.bits MiceBtnStatus.contains ∧
      IsPointwise MiceBtnStatus.bits MiceBtnStatus.or (· || ·) ∧
      IsPointwise MiceBtnStatus.bits MiceBtnStatus.and (· && ·) ∧
      IsComplement MiceBtnStatus.bits MiceBtnStatus.not) ∧
    (IsInclusion MemMapFlags.bits MemMapFlags.contains ∧
      IsPointwise MemMapFlags.bits MemMapFlags.bitor (· || ·) ∧
      IsPointwise MemMapFlags.bits MemMapFlags.bitand (· && ·)) ∧
    (IsInclusion ShmFlags.bits ShmFlags.contains ∧
      IsPointwise ShmFlags.bits ShmFlags.bitor (· || ·) ∧
      IsPointwise ShmFlags.bits ShmFlags.bitand (· && ·)) ∧
    (IsInclusion SockCreateKind.bits SockCreateKind.contains ∧
      IsPointwise SockCreateKind.bits SockCreateKind.bitor (· || ·)) ∧
    (IsInclusion SockMsgFlags.bits SockMsgFlags.contains ∧
      IsPointwise SockMsgFlags.bits SockMsgFlags.bitor (· || ·) ∧
      IsPointwise SockMsgFlags.bits SockMsgFlags.bitand (· && ·) ∧
      IsComplement SockMsgFlags.bits SockMsgFlags.not) ∧
    (IsIntersection OpenOptions.bits OpenOptions.contains ∧
      IsPointwise OpenOptions.bits OpenOptions.bitor (· || ·)) :=
  ⟨fun _ => ⟨contains_iff, intersects_iff, isEmpty_iff, mem_bitor, mem_bitand, mem_bitnot,
      mem_difference⟩,
    ⟨fun a b => contains_iff a.bits b.bits, fun a b => intersects_iff a.bits b.bits,
      fun a => isEmpty_iff a.bits, fun a b => mem_bitor a.bits b.bits,
      fun a b => mem_bitand a.bits b.bits, fun a b => mem_difference a.bits b.bits⟩,
    ⟨fun a b => contains_iff a.bits b.bits, fun a b => mem_bitor a.bits b.bits,
      fun a b => mem_bitand a.bits b.bits, fun a => mem_bitnot a.bits⟩,
    ⟨fun a b => MemMapFlags.contains_eq a b ▸ contains_iff a.bits b.bits,
      fun a b => mem_bitor a.bits b.bits, fun a b => mem_bitand a.bits b.bits⟩,
    ⟨fun a b => contains_iff a.bits b.bits, fun a b => mem_bitor a.bits b.bits,
      fun a b => mem_bitand a.bits b.bits⟩,
    ⟨fun a b => contains_iff a.bits b.bits, fun a b => mem_bitor a.bits b.bits⟩,
    ⟨fun a b => contains_iff a.bits b.bits, fun a b => mem_bitor a.bits b.bits,
      fun a b => mem_bitand a.bits b.bits, fun a => mem_bitnot a.bits⟩,
    ⟨fun a b => intersects_iff a.bits b.bits, fun a b => mem_bitor a.bits b.bits⟩⟩

/-- `BTN_MID` is `BTN_LEFT | BTN_RIGHT`: the left button alone does not contain it. -/
example : MiceBtnStatus.BTN_MID = MiceBtnStatus.BTN_LEFT.or .BTN_RIGHT ∧
    MiceBtnStatus.BTN_LEFT.contains .BTN_MID = false := by decide

/-- `SOCK_STREAM` holds no flag, so a datagram kind contains it. -/
example : SockCreateKind.SOCK_DGRAM.contains .SOCK_STREAM = true := by decide

/-- `DONT_WAIT` and `PEEK` are one flag. -/
example : SockMsgFlags.DONT_WAIT = SockMsgFlags.PEEK := rfl

/-- `READ` "contains" `READ | WRITE`, which it does not include. -/
example : OpenOptions.READ.contains (OpenOptions.READ.bitor .WRITE) = true ∧
    Flags.contains OpenOptions.READ.bits (OpenOptions.READ.bitor .WRITE).bits = false := by decide

end SafaAbi.Flags
