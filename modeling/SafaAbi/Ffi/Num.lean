import SafaAbi.Ffi.Option
/-!
# `SafaAbi.Ffi.Num` — `ShouldNotBeZero` and the conversions of `impl_zeroable_int!`

`impl_zeroable_int!` is instantiated for the twelve integer widths. Each instance makes the width a
`ZeroableThing` whose `is_zero` is `*self == Self::ZERO`, converts `NonZero<$ty>` into
`ShouldNotBeZero<$ty>`, and decodes an `OptZero<ShouldNotBeZero<$ty>>` into `Option<NonZero<$ty>>` by
calling `NonZero::new_unchecked` on whatever `into_option` lets through. Here the widths are
`UScalar ty` and `IScalar ty`, one instance each, and `NonZero.newUnchecked` takes the proof its
safety contract asks for: `NonZero.fromOptZero` is well-typed only because `into_option`'s test and
`is_zero` agree, so the types guarantee that `new_unchecked` never sees a zero.
-/

namespace SafaAbi.Ffi

open SafaAbi.Scalar

/-! ## §1 — `ZeroableThing` and `NonZero` -/

/-- `ZeroableThing`: a type valid as a zero. `isZero_iff` records what every implementation
(`impl_zeroable_int!`'s `*self == Self::ZERO`) computes. -/
class ZeroableThing (T : Type) where
  ZERO : T
  isZero : T → Bool
  isZero_iff : ∀ x, isZero x = true ↔ x = ZERO

/-- `impl_zeroable_int!` for the unsigned widths. -/
instance : ZeroableThing (UScalar ty) where
  ZERO := 0
  isZero x := x == 0
  isZero_iff x := by simp

/-- `impl_zeroable_int!` for the signed widths. -/
instance : ZeroableThing (IScalar ty) where
  ZERO := 0
  isZero x := x == 0
  isZero_iff x := by simp

instance : Zeroed (UScalar ty) := ⟨0⟩

instance : Zeroed (IScalar ty) := ⟨0⟩

/-- `Hash` for the integers: the value, as one word. -/
instance : Hash (UScalar ty) := ⟨fun x => [x.val]⟩

instance : Hash (IScalar ty) := ⟨fun x => [x.val]⟩

theorem ZeroableThing.isZero_eq_false_iff [ZeroableThing T] (x : T) :
    ZeroableThing.isZero x = false ↔ x ≠ ZeroableThing.ZERO := by
  rw [ne_eq, ← ZeroableThing.isZero_iff x]; simp

/-- `core::num::NonZero<T>`: a value other than `T`'s zero. -/
structure NonZero (T : Type) [ZeroableThing T] where
  get : T
  ne_zero : get ≠ ZeroableThing.ZERO

/-- `NonZero::new_unchecked`; its safety contract, `value != 0`, is an argument. -/
def NonZero.newUnchecked [ZeroableThing T] (value : T) (h : value ≠ ZeroableThing.ZERO) :
    NonZero T :=
  ⟨value, h⟩

/-! ## §2 — `ShouldNotBeZero` -/

/-- `ShouldNotBeZero<T>`: a value that should not be zero, though a foreign caller may store one. -/
structure ShouldNotBeZero (T : Type) where
  value : T
  deriving DecidableEq, Repr

namespace ShouldNotBeZero

variable [ZeroableThing T]

/-- `new`: `None` for a zero. -/
def new (value : T) : Option (ShouldNotBeZero T) :=
  if ZeroableThing.isZero value then .none else .some ⟨value⟩

/-- `new_unchecked`: no check at all. -/
def newUnchecked (value : T) : ShouldNotBeZero T := ⟨value⟩

/-- `From<NonZero<$ty>> for ShouldNotBeZero<$ty>`: `ShouldNotBeZero(value.into())`. -/
def fromNonZero (value : NonZero T) : ShouldNotBeZero T := ⟨value.get⟩

instance : NotZeroable (ShouldNotBeZero T) := ⟨fun x => ZeroableThing.isZero x.value⟩

@[simp] theorem isZero_eq (x : ShouldNotBeZero T) : isZero x = ZeroableThing.isZero x.value := rfl

/-- `#[repr(transparent)]`: the zeroed wrapper wraps the zeroed value. -/
instance [Zeroed T] : Zeroed (ShouldNotBeZero T) := ⟨⟨zeroed⟩⟩

/-- `#[derive(Hash)]`. -/
instance [Hash T] : Hash (ShouldNotBeZero T) := ⟨fun x => Hash.hash x.value⟩

/-- `is_zero` accepts one value, the wrapped zero. -/
theorem eq_of_isZero {x y : ShouldNotBeZero T} (hx : isZero x = true) (hy : isZero y = true) :
    x = y := by
  obtain ⟨x⟩ := x; obtain ⟨y⟩ := y
  rw [isZero_eq, ZeroableThing.isZero_iff] at hx hy
  exact congrArg _ (hx.trans hy.symm)

theorem new_isSome_iff (v : T) : (new v).isSome ↔ v ≠ ZeroableThing.ZERO := by
  rw [← ZeroableThing.isZero_eq_false_iff]
  cases h : ZeroableThing.isZero v <;> simp [new, h]

end ShouldNotBeZero

/-! ## §3 — Decoding `OptZero<ShouldNotBeZero<$ty>>` -/

theorem OptZero.intoOption_eq_some [NotZeroable T] {o : OptZero T} {v : T}
    (h : o.intoOption = .some v) : isZero o.inner = false ∧ o.inner = v := by
  unfold OptZero.intoOption at h
  cases hz : isZero o.inner <;> simp_all

/-- `From<OptZero<ShouldNotBeZero<$ty>>> for Option<NonZero<$ty>>`. -/
def NonZero.fromOptZero [ZeroableThing T] (value : OptZero (ShouldNotBeZero T)) :
    Option (NonZero T) :=
  match h : value.intoOption with
  | .some v => .some (NonZero.newUnchecked v.value (by
      obtain ⟨hz, rfl⟩ := OptZero.intoOption_eq_some h
      exact (ZeroableThing.isZero_eq_false_iff _).mp hz))
  | .none => .none

/-- The laws `impl_zeroable_int!` gives one width `T`. -/
structure NonZeroLaws (T : Type) [ZeroableThing T] [Zeroed T] : Prop where
  fromOptZero_eq_none : ∀ o : OptZero (ShouldNotBeZero T),
    NonZero.fromOptZero o = .none ↔ o.inner.value = ZeroableThing.ZERO
  fromOptZero_get : ∀ (o : OptZero (ShouldNotBeZero T)) (n : NonZero T),
    NonZero.fromOptZero o = .some n → n.get = o.inner.value
  fromOptZero_fromOption : ∀ s : Option (NonZero T),
    NonZero.fromOptZero (OptZero.fromOption (s.map ShouldNotBeZero.fromNonZero)) = s
  new_isSome : ∀ v : T, (ShouldNotBeZero.new v).isSome ↔ v ≠ ZeroableThing.ZERO

theorem fromOptZero_of_isZero [ZeroableThing T] {o : OptZero (ShouldNotBeZero T)}
    (h : ZeroableThing.isZero o.inner.value = true) : NonZero.fromOptZero o = .none := by
  unfold NonZero.fromOptZero
  split
  · next v hv =>
    have := (OptZero.intoOption_eq_some hv).1
    rw [ShouldNotBeZero.isZero_eq] at this; rw [this] at h; cases h
  · rfl

theorem fromOptZero_of_not_isZero [ZeroableThing T] {o : OptZero (ShouldNotBeZero T)}
    (h : ZeroableThing.isZero o.inner.value = false) :
    ∃ n, NonZero.fromOptZero o = .some n ∧ n.get = o.inner.value := by
  unfold NonZero.fromOptZero
  split
  · next v hv => exact ⟨_, rfl, by rw [(OptZero.intoOption_eq_some hv).2]; rfl⟩
  · next hv => exact absurd (OptZero.intoOption_of_not_isZero (o := o) h) (by rw [hv]; simp)

/-- **`impl_zeroable_int!` decodes soundly** once the width's zeroed value is its `ZERO`. -/
theorem nonZeroLaws_of_zeroed [ZeroableThing T] [Zeroed T] (h : (zeroed : T) = ZeroableThing.ZERO) :
    NonZeroLaws T where
  fromOptZero_eq_none o := by
    cases hz : ZeroableThing.isZero o.inner.value
    · obtain ⟨n, hn, -⟩ := fromOptZero_of_not_isZero hz
      rw [hn]; simpa using (ZeroableThing.isZero_eq_false_iff _).mp hz
    · simpa [fromOptZero_of_isZero hz] using (ZeroableThing.isZero_iff _).mp hz
  fromOptZero_get o n hn := by
    cases hz : ZeroableThing.isZero o.inner.value
    · obtain ⟨m, hm, hget⟩ := fromOptZero_of_not_isZero hz
      rw [hm] at hn; cases hn; exact hget
    · rw [fromOptZero_of_isZero hz] at hn; cases hn
  fromOptZero_fromOption s := by
    cases s with
    | none =>
      exact fromOptZero_of_isZero ((ZeroableThing.isZero_iff _).mpr h)
    | some n =>
      obtain ⟨m, hm, hget⟩ := fromOptZero_of_not_isZero (o := ⟨⟨n.get⟩⟩)
        ((ZeroableThing.isZero_eq_false_iff _).mpr n.ne_zero)
      exact hm.trans (congrArg _ (by cases m; cases n; simp_all))
  new_isSome := ShouldNotBeZero.new_isSome_iff

/-- **The twelve instances of `impl_zeroable_int!`.** For every width, the decoder of a raw
`OptZero<ShouldNotBeZero<$ty>>` yields `None` exactly on a stored zero and otherwise the stored value,
encoding an `Option<NonZero<$ty>>` and decoding it gives it back, and `ShouldNotBeZero::new` refuses
exactly zero. -/
theorem impl_zeroable_int_laws :
    (∀ ty : UTy, NonZeroLaws (UScalar ty)) ∧ (∀ ty : ITy, NonZeroLaws (IScalar ty)) :=
  ⟨fun _ => nonZeroLaws_of_zeroed rfl, fun _ => nonZeroLaws_of_zeroed rfl⟩

end SafaAbi.Ffi
