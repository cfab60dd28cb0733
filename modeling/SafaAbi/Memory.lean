import SafaAbi.Scalar
/-!
# `SafaAbi.Memory` — type layouts, the pointers the ABI passes, and byte memory

The FFI types hand raw pointers across the call gate, so the model needs what a pointer means: the
`size_of`/`align_of` of the pointee (`Layout`), the safety conditions `core::slice::from_raw_parts`
puts on a `(ptr, len)` pair (`SlicePtr.IsValid`, which every Rust `&[T]` meets), and a byte memory in
which arrays of 16-byte `(ptr, len)` records are stored little-endian, data pointer first, as rustc
lays out `&[T]` and as `#[repr(C)] Slice<T>` is declared.

The one memory fact the nested conversions rely on is `writeSlicePtr_readSlicePtr`: storing back the
pair just read from a cell leaves memory as it was.
-/

namespace SafaAbi.Memory

open SafaAbi.Scalar

/-! ## §1 — Layouts and pointers -/

/-- `size_of::<T>()` and `align_of::<T>()`. -/
class Layout (T : Type) where
  size : Nat
  align : Nat

/-- `()`, the zero-sized type. -/
instance : Layout Unit := ⟨0, 1⟩

instance : Layout (UScalar ty) := ⟨ty.numBits / 8, ty.numBits / 8⟩

instance : Layout (IScalar ty) := ⟨ty.numBits / 8, ty.numBits / 8⟩

/-- A thin raw pointer `*mut T`. -/
structure Ptr (T : Type) where
  addr : Usize
  deriving Repr

/-- A slice pointer: `*mut [T]`, `&[T]`, `&mut [T]`, and for `T = u8` also `*mut str` and `&str`;
the data address, then the element count. -/
structure SlicePtr (T : Type) where
  addr : Usize
  len : Usize
  deriving Repr

/-- `PartialEq for *mut T` compares the addresses, whatever `T` is. -/
instance : DecidableEq (Ptr T) := fun ⟨a⟩ ⟨b⟩ =>
  if h : a = b then isTrue (h ▸ rfl) else isFalse fun e => h (Ptr.mk.inj e)

/-- On a slice pointer, the addresses and the lengths. -/
instance : DecidableEq (SlicePtr T) := fun ⟨a, n⟩ ⟨b, m⟩ =>
  if h : a = b ∧ n = m then isTrue (h.1 ▸ h.2 ▸ rfl) else isFalse fun e => h (SlicePtr.mk.inj e)

instance : Layout (Ptr T) := ⟨8, 8⟩

/-- `ptr.is_null()`. -/
def Ptr.isNull (p : Ptr T) : Bool := p.addr.val == 0

@[simp] theorem Ptr.isNull_mk (a : Usize) : (⟨a⟩ : Ptr T).isNull = (a.val == 0) := rfl

/-- `ptr.is_aligned()`: the address is a multiple of `align_of::<T>()`. -/
def Ptr.isAligned [Layout T] (p : Ptr T) : Bool := p.addr.val % Layout.align T == 0

instance : Layout (SlicePtr T) := ⟨16, 8⟩

/-- A Rust reference `&T` to a sized `T`: never null. -/
structure Ref (T : Type) where
  addr : Usize
  nonnull : addr.val ≠ 0

/-- `r as *const _ as *mut _`: a reference as a raw pointer. -/
def Ref.asPtr (r : Ref T) : Ptr T := ⟨r.addr⟩

/-- The safety conditions of `core::slice::from_raw_parts(ptr, len)`, which every Rust `&[T]`
meets: non-null, aligned, at most `isize::MAX` bytes, and not wrapping past the address space. -/
structure SlicePtr.IsValid [Layout T] (s : SlicePtr T) : Prop where
  nonnull : s.addr.val ≠ 0
  aligned : s.addr.val % Layout.align T = 0
  size_le : s.len.val * Layout.size T ≤ isizeMax
  no_wrap : s.addr.val + s.len.val * Layout.size T ≤ usizeMax

instance [Layout T] (s : SlicePtr T) : Decidable s.IsValid :=
  decidable_of_iff (s.addr.val ≠ 0 ∧ s.addr.val % Layout.align T = 0 ∧
      s.len.val * Layout.size T ≤ isizeMax ∧ s.addr.val + s.len.val * Layout.size T ≤ usizeMax)
    ⟨fun ⟨a, b, c, d⟩ => ⟨a, b, c, d⟩, fun ⟨a, b, c, d⟩ => ⟨a, b, c, d⟩⟩

/-- A valid slice of a type that is not zero-sized has at most `isize::MAX` elements. -/
theorem SlicePtr.IsValid.len_le [Layout T] {s : SlicePtr T} (h : s.IsValid)
    (hsize : 0 < Layout.size T) : s.len.val ≤ isizeMax :=
  le_trans (Nat.le_mul_of_pos_right _ hsize) h.size_le

/-- The byte addresses a view spans, `ptr` up to `ptr + len * size_of::<T>() - 1`. -/
def SlicePtr.covers [Layout T] (s : SlicePtr T) (a : Nat) : Prop :=
  s.addr.val ≤ a ∧ a < s.addr.val + s.len.val * Layout.size T

instance [Layout T] (s : SlicePtr T) (a : Nat) : Decidable (s.covers a) :=
  inferInstanceAs (Decidable (_ ∧ _))

/-! ## §2 — Byte memory -/

/-- Byte-addressed memory. -/
abbrev Mem := Nat → U8

/-- The little-endian number held by the `n` bytes from `a`. -/
def readLE (mem : Mem) (a : Nat) : Nat → Nat
  | 0 => 0
  | n + 1 => (mem a).val + 256 * readLE mem (a + 1) n

/-- Store the low `n` bytes of `v` little-endian from `a`. -/
def writeLE (mem : Mem) (a v : Nat) : Nat → Mem
  | 0 => mem
  | n + 1 => writeLE (Function.update mem a ⟨v % 256, Nat.mod_lt _ (by decide)⟩) (a + 1) (v / 256) n

theorem readLE_lt (mem : Mem) (a : Nat) : ∀ n, readLE mem a n < 256 ^ n
  | 0 => Nat.one_pos
  | n + 1 => by
    have hb := (mem a).lt
    have ih := readLE_lt mem (a + 1) n
    simp only [UTy.numBits] at hb
    rw [readLE, Nat.pow_succ]; omega

/-- Storing back the bytes just read changes nothing. -/
theorem writeLE_readLE (mem : Mem) (a n : Nat) : writeLE mem a (readLE mem a n) n = mem := by
  induction n generalizing a with
  | zero => rfl
  | succ n ih =>
    have hb := (mem a).lt
    simp only [UTy.numBits] at hb
    have hlo : ((mem a).val + 256 * readLE mem (a + 1) n) % 256 = (mem a).val := by omega
    have hhi : ((mem a).val + 256 * readLE mem (a + 1) n) / 256 = readLE mem (a + 1) n := by omega
    simp only [readLE, writeLE, hlo, hhi]
    rw [show (⟨(mem a).val, _⟩ : U8) = mem a from rfl, Function.update_eq_self]
    exact ih (a + 1)

/-- The `usize` stored at `a`. -/
def readUsize (mem : Mem) (a : Nat) : Usize := ⟨readLE mem a 8, readLE_lt mem a 8⟩

/-- Store a `usize` at `a`. -/
def writeUsize (mem : Mem) (a : Nat) (v : Usize) : Mem := writeLE mem a v.val 8

@[simp] theorem writeUsize_readUsize (mem : Mem) (a : Nat) :
    writeUsize mem a (readUsize mem a) = mem :=
  writeLE_readLE mem a 8

/-- The `n` bytes from `a`. -/
def bytesAt (mem : Mem) (a n : Nat) : List U8 := (List.range n).map fun i => mem (a + i)

/-! ## §3 — 16-byte `(ptr, len)` records -/

/-- The slice pointer stored at `a`: data address at `a`, length at `a + 8`. -/
def readSlicePtr (mem : Mem) (a : Nat) : SlicePtr T := ⟨readUsize mem a, readUsize mem (a + 8)⟩

/-- Store a slice pointer at `a`. -/
def writeSlicePtr (mem : Mem) (a : Nat) (p : SlicePtr T) : Mem :=
  writeUsize (writeUsize mem a p.addr) (a + 8) p.len

/-- Storing back the record just read changes nothing. -/
@[simp] theorem writeSlicePtr_readSlicePtr (mem : Mem) (a : Nat) :
    writeSlicePtr mem a (readSlicePtr mem a : SlicePtr T) = mem := by
  simp only [writeSlicePtr, readSlicePtr, writeUsize_readUsize]

/-- The address of element `i` of an array of 16-byte records at `root`. -/
def cellAddr (root i : Nat) : Nat := root + 16 * i

/-- The elements of an array of slice pointers. -/
def SlicePtr.elems (mem : Mem) (v : SlicePtr (SlicePtr T)) : List (SlicePtr T) :=
  (List.range v.len.val).map fun i => readSlicePtr mem (cellAddr v.addr.val i)

end SafaAbi.Memory
