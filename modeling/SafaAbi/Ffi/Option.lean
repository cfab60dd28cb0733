import SafaAbi.Memory
/-!
# `SafaAbi.Ffi.Option` — `NotZeroable`, `COption` and the zero-sentinel `OptZero`

`OptZero<T>` is a `T` in which the zero bit pattern stands for `None`: `none()` stores
`core::mem::zeroed()`, and `into_option` asks `T`'s `NotZeroable::is_zero`. The scheme is sound for
`T` exactly when `is_zero` recognises the zeroed value (`SentinelLaws`, derived from that one fact in
`sentinelLaws_of_isZero_zeroed`); `SafaAbi.Ffi.Ptr` checks the fact for every `NotZeroable` type of
the crate. `COption<T>` is the tagged alternative, whose payload may be zero.

`OptZero`'s `==` is written by hand: two values are equal when both are zero or their payloads are
`==`. Where `T`'s `==` never relates a zero value to a non-zero one, that is `==` of the decoded
options (`eq_eq_intoOption_beq`), and an equivalence when `T`'s is (`eq_equivalence`). Its `Hash`
is derived, and hashes the stored value whether it is zero or not (§4).
-/

namespace SafaAbi.Ffi

/-! ## §1 — The two capabilities -/

/-- `NotZeroable` (`ffi/mod.rs`): types that are invalid when passed as a zero. -/
class NotZeroable (T : Type) where
  isZero : T → Bool

/-- `core::mem::zeroed::<T>()`: the value whose bytes are all zero. -/
class Zeroed (T : Type) where
  zeroed : T

export NotZeroable (isZero)
export Zeroed (zeroed)

/-! ## §2 — `COption` -/

/-- `COption<T>`, `#[repr(C, u8)]`: tag `0` is `None`, tag `1` is `Some`. -/
inductive COption (T : Type)
  | none
  | some (x : T)
  deriving DecidableEq, Repr

/-- `From<Option<T>> for COption<T>`. -/
def COption.fromOption : Option T → COption T
  | .none => .none
  | .some x => .some x

/-- `From<COption<T>> for Option<T>`. -/
def COption.toOption : COption T → Option T
  | .none => .none
  | .some x => .some x

@[simp] theorem COption.toOption_fromOption (o : Option T) : (COption.fromOption o).toOption = o := by
  cases o <;> rfl

@[simp] theorem COption.fromOption_toOption (c : COption T) : COption.fromOption c.toOption = c := by
  cases c <;> rfl

/-! ## §3 — `OptZero` -/

/-- `OptZero<T>`, `#[repr(transparent)]` over its one field. -/
structure OptZero (T : Type) where
  inner : T
  deriving DecidableEq, Repr

namespace OptZero

variable {T U : Type} [NotZeroable T]

/-- `some`: store `x` as it is. -/
def some (x : T) : OptZero T := ⟨x⟩

/-- `none`: store `core::mem::zeroed()`. -/
def none [Zeroed T] : OptZero T := ⟨zeroed⟩

/-- `from_option`. -/
def fromOption [Zeroed T] (opt : Option T) : OptZero T :=
  match opt with
  | .none => none
  | .some x => some x

/-- `into_option`: `None` exactly when the stored value `is_zero`. -/
def intoOption (self : OptZero T) : Option T :=
  if isZero self.inner then .none else .some self.inner

/-- `as_option`: the same test, handing out a reference to the stored value. -/
def asOption (self : OptZero T) : Option T :=
  if isZero self.inner then .none else .some self.inner

/-- `map`: apply `f` to a present value; an absent one stays absent as `OptZero::none()`. -/
def map [NotZeroable U] [Zeroed U] (self : OptZero T) (f : T → U) : OptZero U :=
  if isZero self.inner then none else some (f self.inner)

theorem intoOption_of_isZero {o : OptZero T} (h : isZero o.inner = true) : o.intoOption = .none := by
  simp [intoOption, h]

theorem intoOption_of_not_isZero {o : OptZero T} (h : isZero o.inner = false) :
    o.intoOption = .some o.inner := by
  simp [intoOption, h]

/-- Encoding an optional value by a conversion whose results are not zero, then decoding it, gives
the conversion back, once `is_zero` recognises the zeroed value. -/
theorem intoOption_fromOption_map {α : Type} [Zeroed T] (h : isZero (zeroed : T) = true)
    {f : α → T} : ∀ {o : Option α}, (∀ a ∈ o, isZero (f a) = false) →
      (fromOption (o.map f)).intoOption = o.map f
  | .none, _ => intoOption_of_isZero h
  | .some a, ha => intoOption_of_not_isZero (ha a rfl)

/-- Encoding, decoding and then converting back is one conversion of the original option. -/
theorem intoOption_fromOption_map_map {α β : Type} [Zeroed T] (h : isZero (zeroed : T) = true)
    {f : α → T} {g : T → β} {k : α → β} {o : Option α} (hf : ∀ a ∈ o, isZero (f a) = false)
    (hg : ∀ a ∈ o, g (f a) = k a) : (fromOption (o.map f)).intoOption.map g = o.map k := by
  rw [intoOption_fromOption_map h hf, Option.map_map]
  exact Option.map_congr hg

/-- The laws that make `OptZero T` a faithful optional `T`. -/
structure SentinelLaws (T : Type) [NotZeroable T] [Zeroed T] : Prop where
  none_isZero : isZero (none : OptZero T).inner = true
  some_intoOption : ∀ x : T, isZero x = false → (some x).intoOption = .some x
  fromOption_some : ∀ x : T, isZero x = false → (fromOption (.some x)).intoOption = .some x
  fromOption_none : (fromOption (.none : Option T)).intoOption = .none
  asOption_eq : ∀ o : OptZero T, o.asOption = o.intoOption
  map_intoOption : ∀ (U : Type) [NotZeroable U] [Zeroed U], isZero (zeroed : U) = true →
    ∀ (f : T → U) (o : OptZero T), (∀ x, isZero x = false → isZero (f x) = false) →
      (o.map f).intoOption = o.intoOption.map f

/-- **The sentinel scheme is sound as soon as `is_zero` recognises the zeroed value.** -/
theorem sentinelLaws_of_isZero_zeroed [Zeroed T] (h : isZero (zeroed : T) = true) :
    SentinelLaws T where
  none_isZero := h
  some_intoOption _ hx := intoOption_of_not_isZero hx
  fromOption_some _ hx := intoOption_of_not_isZero hx
  fromOption_none := intoOption_of_isZero h
  asOption_eq _ := rfl
  map_intoOption U _ _ hU f o hf := by
    cases hz : isZero o.inner
    · rw [intoOption_of_not_isZero hz]
      simp only [map, hz]
      exact intoOption_of_not_isZero (hf _ hz)
    · rw [intoOption_of_isZero hz]
      simp only [map, hz]
      exact intoOption_of_isZero hU

end OptZero

/-! ## §4 — Equality and hashing -/

/-- `Hash` (`core::hash`), as the words `hash` feeds to the hasher: values that feed the same words
hash alike under every hasher. -/
class Hash (T : Type) where
  hash : T → List Int

/-- `Option<T>`'s derived `PartialEq` is an equivalence when `T`'s is. -/
theorem option_beq_equivalence {T : Type} [BEq T] (h : Equivalence (fun x y : T => (x == y) = true)) :
    Equivalence (fun o p : Option T => (o == p) = true) where
  refl
    | .none => rfl
    | .some x => h.refl x
  symm {o p} := match o, p with
    | .none, .none => id
    | .some _, .some _ => h.symm
    | .none, .some _ | .some _, .none => nofun
  trans {o p q} := match o, p, q with
    | .none, .none, .none => fun _ => id
    | .some _, .some _, .some _ => h.trans
    | .none, .some _, _ | .some _, .none, _ | _, .none, .some _ | _, .some _, .none => nofun

namespace OptZero

variable {T : Type} [NotZeroable T]

/-- `PartialEq for OptZero<T>`: both values zero, or the payloads `==`. -/
def eq [BEq T] (self other : OptZero T) : Bool :=
  (isZero self.inner && isZero other.inner) || self.inner == other.inner

/-- `#[derive(Hash)]`: the stored value, zero or not. -/
instance [Hash T] : Hash (OptZero T) := ⟨fun self => Hash.hash self.inner⟩

section ZeroRespecting

/-! Throughout this section, `T`'s `==` relates only values of equal zero-ness. -/
variable [BEq T] (hzero : ∀ x y : T, (x == y) = true → isZero x = isZero y)
include hzero

theorem beq_eq_false_of_isZero_ne {x y : T} (h : isZero x ≠ isZero y) : (x == y) = false :=
  Bool.eq_false_iff.2 (mt (hzero x y) h)

/-- `==` on `OptZero<T>` is `==` of the decoded options. -/
theorem eq_eq_intoOption_beq (a b : OptZero T) : a.eq b = (a.intoOption == b.intoOption) := by
  cases ha : isZero a.inner <;> cases hb : isZero b.inner <;>
    simp [eq, intoOption, ha, hb, beq_eq_false_of_isZero_ne hzero (x := a.inner) (y := b.inner)]

/-- `impl Eq for OptZero<T>` is sound: `==` is an equivalence when `T`'s is. -/
theorem eq_equivalence (hequiv : Equivalence (fun x y : T => (x == y) = true)) :
    Equivalence (fun a b : OptZero T => a.eq b = true) := by
  have hopt := option_beq_equivalence hequiv
  simp only [eq_eq_intoOption_beq hzero]
  exact ⟨fun a => hopt.refl _, hopt.symm, hopt.trans⟩

end ZeroRespecting

/-- The derived `Hash` agrees with `==` when `T`'s does and `is_zero` accepts a single value. -/
theorem hash_eq_of_eq [BEq T] [Hash T]
    (hunique : ∀ x y : T, isZero x = true → isZero y = true → x = y)
    (hhash : ∀ x y : T, (x == y) = true → Hash.hash x = Hash.hash y) {a b : OptZero T}
    (h : a.eq b = true) : Hash.hash a = Hash.hash b := by
  simp only [eq, Bool.or_eq_true, Bool.and_eq_true] at h
  rcases h with ⟨ha, hb⟩ | h
  · exact congrArg (fun x : T => Hash.hash x) (hunique _ _ ha hb)
  · exact hhash _ _ h

end OptZero

end SafaAbi.Ffi
