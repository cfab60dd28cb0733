import SafaAbi.Errors
import SafaAbi.Ffi.Option
/-!
# `SafaAbi.Ffi.Slice` — `Slice<T>` and its validating conversions

`Slice<T>` is the `#[repr(C)]` pair `(ptr, len)` a foreign caller writes for a `&[T]`. Before the
kernel may use it, `try_as_slice_mut_custom` runs three built-in checks in a fixed order (null
pointer, alignment, `len <= isize::MAX`), then hands the pointer, and only the pointer, to a
caller-supplied validator, and on success calls `core::slice::from_raw_parts_mut(ptr, len)`.

The validator is any Rust closure, so it is modelled as a monadic function `Usize → m Bool` over an
arbitrary monad `m`: a check that does not call the validator is a `pure` computation, in every monad
(`tryAsSliceMutCustom_eq`). With the pure validator `fun _ => pure true` in `Id` this gives
`try_as_slice_mut` and `try_as_slice`.

The length check bounds the element count, not the byte size, and nothing bounds `ptr + len * size`:
`tryAsSliceMut_accepts_invalid` exhibits accepted records that break `from_raw_parts`'s contract.
-/

namespace SafaAbi.Ffi

open SafaAbi.Scalar SafaAbi.Errors SafaAbi.Memory

/-! ## §1 — Errors and the record -/

/-- `InvalidSliceError`. -/
inductive InvalidSliceError
  | ptrNotAligned
  | ptrIsNull
  | lenTooLarge
  | other
  deriving DecidableEq, Repr

/-- `into_err`: a length that is too large is `StrTooLong`, anything else `InvalidPtr`. -/
def InvalidSliceError.intoErr : InvalidSliceError → ErrorStatus
  | .lenTooLarge => .strTooLong
  | _ => .invalidPtr

instance : IntoErr InvalidSliceError := ⟨InvalidSliceError.intoErr⟩

/-- `Slice<T>`, `#[repr(C)]`: a pointer, then a length. -/
structure Slice (T : Type) where
  ptr : Ptr T
  len : Usize
  deriving DecidableEq, Repr

instance : Layout (Slice T) := ⟨16, 8⟩

/-- `NotZeroable for Slice<T>`: a null pointer is the zero. -/
instance : NotZeroable (Slice T) := ⟨fun s => s.ptr.isNull⟩

instance : Zeroed (Slice T) := ⟨⟨⟨0⟩, 0⟩⟩

@[simp] theorem Slice.isZero_mk (ptr : Ptr T) (len : Usize) : isZero (⟨ptr, len⟩ : Slice T) = ptr.isNull :=
  rfl

namespace Slice

variable {T : Type} {m : Type → Type}

/-- `from_raw_parts`: asserts a non-null pointer and `len <= isize::MAX`; `none` is the panic. -/
def fromRawParts (ptr : Ptr T) (len : Usize) : Option (Slice T) :=
  if !ptr.isNull && len.val ≤ isizeMax then some ⟨ptr, len⟩ else none

/-- `from_slice_mut` and `from_slice`: the pointer and the length of a Rust slice. -/
def fromSlice (slice : SlicePtr T) : Slice T := ⟨⟨slice.addr⟩, slice.len⟩

/-- `as_slice_mut_unchecked` and `as_slice_unchecked`: `from_raw_parts(_mut)(self.ptr, self.len)`. -/
def asSliceMutUnchecked (self : Slice T) : SlicePtr T := ⟨self.ptr.addr, self.len⟩

/-- `try_as_slice_mut_custom`. -/
def tryAsSliceMutCustom [Layout T] [Monad m] (self : Slice T) (validator : Usize → m Bool) :
    m (Except InvalidSliceError (SlicePtr T)) :=
  if self.ptr.isNull then pure (.error .ptrIsNull)
  else if !self.ptr.isAligned then pure (.error .ptrNotAligned)
  else if self.len.val > isizeMax then pure (.error .lenTooLarge)
  else do
    if !(← validator self.ptr.addr) then return .error .other
    return .ok self.asSliceMutUnchecked

/-- `try_as_slice_custom`: the `&mut [T]` of `try_as_slice_mut_custom`, seen as a `&[T]`. -/
def tryAsSliceCustom [Layout T] [Monad m] (self : Slice T) (validator : Usize → m Bool) :
    m (Except InvalidSliceError (SlicePtr T)) :=
  self.tryAsSliceMutCustom validator

/-- `try_as_slice_mut`: the validator `|_| true`. -/
def tryAsSliceMut [Layout T] (self : Slice T) : Except InvalidSliceError (SlicePtr T) :=
  self.tryAsSliceMutCustom (m := Id) fun _ => pure true

/-- `try_as_slice`: the validator `|_| true`. -/
def tryAsSlice [Layout T] (self : Slice T) : Except InvalidSliceError (SlicePtr T) :=
  self.tryAsSliceCustom (m := Id) fun _ => pure true

/-! ## §2 — What the validating conversion computes -/

/-- The first of the three built-in checks of `try_as_slice_mut_custom` that fails. -/
def precheck [Layout T] (self : Slice T) : Option InvalidSliceError :=
  if self.ptr.isNull then some .ptrIsNull
  else if !self.ptr.isAligned then some .ptrNotAligned
  else if self.len.val > isizeMax then some .lenTooLarge
  else none

/-- The outcome once the validator has answered `ok`. -/
def afterValidator (self : Slice T) (ok : Bool) : Except InvalidSliceError (SlicePtr T) :=
  if ok then .ok self.asSliceMutUnchecked else .error .other

/-- **One spec for every monad.** A failed built-in check returns `pure`, without running the
validator; otherwise the validator runs once, on the pointer. -/
theorem tryAsSliceMutCustom_eq [Layout T] [Monad m] [LawfulMonad m] (self : Slice T) (validator : Usize → m Bool) :
    self.tryAsSliceMutCustom validator =
      match self.precheck with
      | some e => pure (.error e)
      | none => self.afterValidator <$> validator self.ptr.addr := by
  unfold tryAsSliceMutCustom precheck
  split
  · rfl
  split
  · rfl
  split
  · rfl
  rw [map_eq_pure_bind]
  exact bind_congr fun ok => by cases ok <;> simp [afterValidator]

/-- Every view a successful validation hands out is the record's own `(ptr, len)`. -/
theorem tryAsSliceMutCustom_map_view [Layout T] [Monad m] [LawfulMonad m] (self : Slice T)
    (validator : Usize → m Bool) :
    Except.map (fun _ => self.asSliceMutUnchecked) <$> self.tryAsSliceMutCustom validator =
      self.tryAsSliceMutCustom validator := by
  rw [tryAsSliceMutCustom_eq]
  split
  · rw [map_pure]; rfl
  · rw [← comp_map]; exact map_congr fun ok => by cases ok <;> rfl

/-- With a pure validator `V` the outcome is a value. -/
theorem tryAsSliceMutCustom_pure [Layout T] (self : Slice T) (V : Usize → Bool) :
    self.tryAsSliceMutCustom (m := Id) (fun p => pure (V p)) =
      match self.precheck with
      | some e => .error e
      | none => self.afterValidator (V self.ptr.addr) := by
  rw [tryAsSliceMutCustom_eq]; split <;> rfl

/-- With a pure validator, a success is the record's own `(ptr, len)`, at a pointer the validator
accepted. -/
theorem tryAsSliceMutCustom_pure_eq_ok [Layout T] {self : Slice T} {V : Usize → Bool}
    {v : SlicePtr T} (h : self.tryAsSliceMutCustom (m := Id) (fun p => pure (V p)) = .ok v) :
    self.precheck = none ∧ V self.ptr.addr = true ∧ v = self.asSliceMutUnchecked := by
  rw [tryAsSliceMutCustom_pure] at h
  split at h
  · cases h
  · rename_i hpre
    unfold afterValidator at h
    split at h
    · cases h; exact ⟨hpre, ‹_›, rfl⟩
    · cases h

/-- The three built-in checks pass exactly on a non-null, aligned pointer and at most `isize::MAX`
elements. -/
theorem precheck_eq_none_iff [Layout T] (self : Slice T) :
    self.precheck = none ↔
      self.ptr.addr.val ≠ 0 ∧ self.ptr.addr.val % Layout.align T = 0 ∧ self.len.val ≤ isizeMax := by
  unfold precheck Ptr.isNull Ptr.isAligned
  split_ifs <;> simp_all

/-- A Rust slice with at most `isize::MAX` elements comes back from its record unchanged. -/
theorem tryAsSliceMutCustom_fromSlice [Layout T] {s : SlicePtr T} (hs : s.IsValid)
    (hlen : s.len.val ≤ isizeMax) :
    (fromSlice s).tryAsSliceMutCustom (m := Id) (fun _ => pure true) = .ok s := by
  have hpre : (fromSlice s).precheck = none :=
    (precheck_eq_none_iff _).2 ⟨hs.nonnull, hs.aligned, hlen⟩
  rw [tryAsSliceMutCustom_pure, hpre]; rfl

/-! ## §3 — Acceptance does not establish `from_raw_parts`'s contract -/

/-- **Accepted records can break `from_raw_parts`'s contract.** A `Slice<u16>` of `isize::MAX`
elements spans `2 * isize::MAX` bytes, and a `Slice<u8>` at `usize::MAX` of length 2 wraps the
address space; `try_as_slice_mut` accepts both. -/
theorem tryAsSliceMut_accepts_invalid :
    (⟨⟨⟨2, by decide⟩⟩, ⟨isizeMax, by decide⟩⟩ : Slice U16).tryAsSliceMut =
        .ok ⟨⟨2, by decide⟩, ⟨isizeMax, by decide⟩⟩ ∧
      ¬(⟨⟨2, by decide⟩, ⟨isizeMax, by decide⟩⟩ : SlicePtr U16).IsValid ∧
    (⟨⟨⟨usizeMax, by decide⟩⟩, ⟨2, by decide⟩⟩ : Slice U8).tryAsSliceMut =
        .ok ⟨⟨usizeMax, by decide⟩, ⟨2, by decide⟩⟩ ∧
      ¬(⟨⟨usizeMax, by decide⟩, ⟨2, by decide⟩⟩ : SlicePtr U8).IsValid :=
  ⟨rfl, by decide, rfl, by decide⟩

end Slice

end SafaAbi.Ffi
