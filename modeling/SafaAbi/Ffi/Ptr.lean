import SafaAbi.Ffi.Num
import SafaAbi.Ffi.Str
/-!
# `SafaAbi.Ffi.Ptr` — `FFINonNull`, and the sentinel laws of every `NotZeroable` type

`FFINonNull<T: ?Sized>` wraps a raw pointer `*mut T` that should not be null, for use as the payload
of an `OptZero`. `T` may be unsized, so the pointer is thin (`Ptr T`) or a slice pointer
(`SlicePtr U`, for `T = [U]` and `T = str`); `is_null` on either asks whether the data address is
zero (`RawPtr`).

`SentinelLaws` (`SafaAbi.Ffi.Option`) follow from one fact per type, that `is_zero` recognises the
zeroed value; `not_zeroable_sentinel_laws` checks it for every `NotZeroable` implementation of the
crate: `ShouldNotBeZero` at each of the twelve widths, `FFINonNull`, `Slice` and `Str`.

`FFINonNull` derives `PartialEq` and `Hash`, which see the whole pointer, length included, while
`is_zero` sees only the address. `OptZero`'s hand-written `==` makes every zero value equal, so over
`FFINonNull<[u8]>` its derived `Hash` separates values that `==` identifies (`optZero_eq_hash`).
-/

namespace SafaAbi.Ffi

open SafaAbi.Scalar SafaAbi.Memory

/-! ## §1 — `FFINonNull` -/

/-- The raw pointers `*mut T`: `is_null` and the all-zero pointer. -/
class RawPtr (P : Type) where
  isNull : P → Bool

instance : RawPtr (Ptr T) := ⟨Ptr.isNull⟩

/-- `is_null` on a slice pointer looks at the data address only. -/
instance : RawPtr (SlicePtr T) := ⟨fun p => p.addr.val == 0⟩

instance : Zeroed (Ptr T) := ⟨⟨0⟩⟩

instance : Zeroed (SlicePtr T) := ⟨⟨0, 0⟩⟩

/-- `Hash for *mut T`: the address, then the pointer's metadata, which a thin pointer lacks. -/
instance : Hash (Ptr T) := ⟨fun p => [p.addr.val]⟩

/-- A slice pointer's metadata is its length, hashed as a `usize`. -/
instance : Hash (SlicePtr T) := ⟨fun p => [p.addr.val, p.len.val]⟩

theorem Ref.isNull_asPtr (r : Ref T) : RawPtr.isNull r.asPtr = false := by
  simpa [RawPtr.isNull, Ptr.isNull, Ref.asPtr] using r.nonnull

/-- `FFINonNull<T>`, `#[repr(transparent)]` over the raw pointer `P`. -/
structure FFINonNull (P : Type) where
  ptr : P
  deriving DecidableEq, Repr

namespace FFINonNull

variable {P : Type} [RawPtr P]

/-- `new`: `None` for a null pointer. -/
def new (ptr : P) : Option (FFINonNull P) :=
  if RawPtr.isNull ptr then .none else .some ⟨ptr⟩

/-- `new_unchecked`; its safety contract, a non-null pointer, is an argument (the `debug_assert!`
cannot fire). -/
def newUnchecked (ptr : P) (_h : RawPtr.isNull ptr = false) : FFINonNull P := ⟨ptr⟩

/-- `as_ptr`. -/
def asPtr (self : FFINonNull P) : P := self.ptr

/-- `NotZeroable for FFINonNull<T>`: `self.0.is_null()`. -/
instance : NotZeroable (FFINonNull P) := ⟨fun p => RawPtr.isNull p.ptr⟩

/-- `#[repr(transparent)]`: the zeroed wrapper wraps the null pointer. -/
instance [Zeroed P] : Zeroed (FFINonNull P) := ⟨⟨zeroed⟩⟩

/-- `#[derive(Hash)]`; the derived `PartialEq` is the `DecidableEq` above, on the whole pointer. -/
instance [Hash P] : Hash (FFINonNull P) := ⟨fun self => Hash.hash self.ptr⟩

/-- A thin `FFINonNull` has one null value. -/
theorem eq_of_isZero_thin {x y : FFINonNull (Ptr T)} (hx : isZero x = true) (hy : isZero y = true) :
    x = y := by
  obtain ⟨⟨a⟩⟩ := x; obtain ⟨⟨b⟩⟩ := y
  have hab : a = b := UScalar.ext ((beq_iff_eq.1 hx).trans (beq_iff_eq.1 hy).symm)
  rw [hab]

end FFINonNull

/-! ## §2 — Every `NotZeroable` type of the crate -/

/-- **The sentinel scheme is sound for every `NotZeroable` type of the crate.** For `ShouldNotBeZero`
at each width, `FFINonNull` over a thin or a slice pointer, `Slice<T>` and `Str`: `some` and
`from_option(Some(x))` of a non-zero `x` decode to `Some(x)`, `none()` stores a value `is_zero`
reports as zero, so `from_option(None)` decodes to `None`, `as_option` agrees with `into_option` on
every raw value, and `map` by a function whose results are never zero commutes with decoding. -/
theorem not_zeroable_sentinel_laws :
    (∀ ty : UTy, OptZero.SentinelLaws (ShouldNotBeZero (UScalar ty))) ∧
    (∀ ty : ITy, OptZero.SentinelLaws (ShouldNotBeZero (IScalar ty))) ∧
    (∀ T : Type, OptZero.SentinelLaws (FFINonNull (Ptr T))) ∧
    (∀ T : Type, OptZero.SentinelLaws (FFINonNull (SlicePtr T))) ∧
    (∀ T : Type, OptZero.SentinelLaws (Slice T)) ∧
    OptZero.SentinelLaws Str :=
  ⟨fun _ => OptZero.sentinelLaws_of_isZero_zeroed ((ZeroableThing.isZero_iff _).2 rfl),
    fun _ => OptZero.sentinelLaws_of_isZero_zeroed ((ZeroableThing.isZero_iff _).2 rfl),
    fun _ => OptZero.sentinelLaws_of_isZero_zeroed rfl,
    fun _ => OptZero.sentinelLaws_of_isZero_zeroed rfl,
    fun _ => OptZero.sentinelLaws_of_isZero_zeroed rfl,
    OptZero.sentinelLaws_of_isZero_zeroed rfl⟩

/-! ## §3 — Equality and hashing of `OptZero` -/

/-- **`OptZero`'s `==` compares the decoded options, but its derived `Hash` hashes the stored
value.** For every `T` whose `==` relates only values of equal zero-ness, `a == b` is
`a.into_option() == b.into_option()`, an equivalence when `T`'s `==` is one. `Hash` agrees with it
where `is_zero` accepts one value, as for thin `FFINonNull` pointers and `ShouldNotBeZero` integers;
but `FFINonNull<[u8]>`, whose `==` respects zero-ness, has a null pointer of every length, and the
two of lengths `0` and `1` are `==` while their hashes are fed different words. -/
theorem optZero_eq_hash :
    (∀ (T : Type) [NotZeroable T] [BEq T], (∀ x y : T, (x == y) = true → isZero x = isZero y) →
      ∀ a b : OptZero T, a.eq b = (a.intoOption == b.intoOption)) ∧
    (∀ (T : Type) [NotZeroable T] [BEq T], (∀ x y : T, (x == y) = true → isZero x = isZero y) →
      Equivalence (fun x y : T => (x == y) = true) →
      Equivalence (fun a b : OptZero T => a.eq b = true)) ∧
    (∀ (T : Type) (a b : OptZero (FFINonNull (Ptr T))), a.eq b = true →
      Hash.hash a = Hash.hash b) ∧
    (∀ (ty : UTy) (a b : OptZero (ShouldNotBeZero (UScalar ty))), a.eq b = true →
      Hash.hash a = Hash.hash b) ∧
    (∀ (ty : ITy) (a b : OptZero (ShouldNotBeZero (IScalar ty))), a.eq b = true →
      Hash.hash a = Hash.hash b) ∧
    (∀ x y : FFINonNull (SlicePtr U8), (x == y) = true → isZero x = isZero y) ∧
    OptZero.eq (⟨⟨⟨0, 0⟩⟩⟩ : OptZero (FFINonNull (SlicePtr U8)))
      ⟨⟨⟨0, ⟨1, by decide⟩⟩⟩⟩ = true ∧
    Hash.hash (⟨⟨⟨0, 0⟩⟩⟩ : OptZero (FFINonNull (SlicePtr U8))) ≠
      Hash.hash (⟨⟨⟨0, ⟨1, by decide⟩⟩⟩⟩ : OptZero (FFINonNull (SlicePtr U8))) :=
  ⟨fun _ _ _ hzero => OptZero.eq_eq_intoOption_beq hzero,
    fun _ _ _ hzero => OptZero.eq_equivalence hzero,
    fun _ _ _ => OptZero.hash_eq_of_eq (fun _ _ => FFINonNull.eq_of_isZero_thin)
      fun _ _ h => congrArg _ (eq_of_beq h),
    fun _ _ _ => OptZero.hash_eq_of_eq (fun _ _ => ShouldNotBeZero.eq_of_isZero)
      fun _ _ h => congrArg _ (eq_of_beq h),
    fun _ _ _ => OptZero.hash_eq_of_eq (fun _ _ => ShouldNotBeZero.eq_of_isZero)
      fun _ _ h => congrArg _ (eq_of_beq h),
    fun _ _ h => by rw [eq_of_beq h],
    rfl, by decide⟩

end SafaAbi.Ffi
