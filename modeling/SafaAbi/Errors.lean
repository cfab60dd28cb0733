import SafaAbi.Scalar
/-!
# `SafaAbi.Errors` — `ErrorStatus` and the `SysResult` outcome word

`errors.rs` declares the error catalogue `ErrorStatus` (`repr(u16)`, discriminants `1 ..= 0x2A` in
declaration order) and `SysResult`, the single `isize` that every syscall returns: a non-negative
word is an `Ok` payload, a negative one the negated code of an error.

The decoder `into_result` negates the word and casts it `as u16` before the catalogue lookup. The
cast keeps only the low 16 bits, so a magnitude of `2 ^ 16` or more folds onto a code below `2 ^ 16`;
and the negation of `isize::MIN` overflows. Both are visible below (`intoResult_of_neg`,
`intoResult_isizeMin`). On the encoding side every path agrees with `try_from_result`, and
`try_from_result` followed by `into_result` is the identity (`tryFromResult_roundTrip`). A process
that returns a `SysResult` from `main` exits with the code of the outcome `into_result` decodes:
`0` exactly on success, the error's discriminant on failure, so that two words exit alike exactly
when they decode alike (`report_zero_iff_success`).
-/

namespace SafaAbi.Errors

open SafaAbi.Scalar

/-! ## §1 — The catalogue -/

/-- `ErrorStatus`, one constructor per declared variant, in declaration order. -/
inductive ErrorStatus
  | generic
  | operationNotSupported
  | notSupported
  | corrupted
  | invalidSyscall
  | unknownResource
  | invalidPid
  | invalidOffset
  | invalidPtr
  | invalidStr
  | strTooLong
  | invalidPath
  | noSuchAFileOrDirectory
  | notAFile
  | notADirectory
  | alreadyExists
  | notExecutable
  | directoryNotEmpty
  | missingPermissions
  | mmapError
  | busy
  | notEnoughArguments
  | outOfMemory
  | invalidTid
  | timeout
  | invalidCommand
  | invalidArgument
  | unknown
  | panic
  | notADevice
  | wouldBlock
  | connectionClosed
  | connectionRefused
  | unsupportedResource
  | resourceCloneFailed
  | typeMismatch
  | tooShort
  | addressNotFound
  | invalidSize
  | forceTerminated
  | addressAlreadyInUse
  | notBound
  deriving DecidableEq, Repr

namespace ErrorStatus

/-- The discriminant, `err as u16`. -/
def discr : ErrorStatus → Nat
  | .generic => 1
  | .operationNotSupported => 2
  | .notSupported => 3
  | .corrupted => 4
  | .invalidSyscall => 5
  | .unknownResource => 6
  | .invalidPid => 7
  | .invalidOffset => 8
  | .invalidPtr => 9
  | .invalidStr => 0xA
  | .strTooLong => 0xB
  | .invalidPath => 0xC
  | .noSuchAFileOrDirectory => 0xD
  | .notAFile => 0xE
  | .notADirectory => 0xF
  | .alreadyExists => 0x10
  | .notExecutable => 0x11
  | .directoryNotEmpty => 0x12
  | .missingPermissions => 0x13
  | .mmapError => 0x14
  | .busy => 0x15
  | .notEnoughArguments => 0x16
  | .outOfMemory => 0x17
  | .invalidTid => 0x18
  | .timeout => 0x19
  | .invalidCommand => 0x1A
  | .invalidArgument => 0x1B
  | .unknown => 0x1C
  | .panic => 0x1D
  | .notADevice => 0x1E
  | .wouldBlock => 0x1F
  | .connectionClosed => 0x20
  | .connectionRefused => 0x21
  | .unsupportedResource => 0x22
  | .resourceCloneFailed => 0x23
  | .typeMismatch => 0x24
  | .tooShort => 0x25
  | .addressNotFound => 0x26
  | .invalidSize => 0x27
  | .forceTerminated => 0x28
  | .addressAlreadyInUse => 0x29
  | .notBound => 0x2A

/-- Every variant, in discriminant order. -/
def all : List ErrorStatus :=
  [.generic, .operationNotSupported, .notSupported, .corrupted, .invalidSyscall,
   .unknownResource, .invalidPid, .invalidOffset, .invalidPtr, .invalidStr, .strTooLong,
   .invalidPath, .noSuchAFileOrDirectory, .notAFile, .notADirectory, .alreadyExists,
   .notExecutable, .directoryNotEmpty, .missingPermissions, .mmapError, .busy,
   .notEnoughArguments, .outOfMemory, .invalidTid, .timeout, .invalidCommand, .invalidArgument,
   .unknown, .panic, .notADevice, .wouldBlock, .connectionClosed, .connectionRefused,
   .unsupportedResource, .resourceCloneFailed, .typeMismatch, .tooShort, .addressNotFound,
   .invalidSize, .forceTerminated, .addressAlreadyInUse, .notBound]

/-- `const MAX: u16 = Self::NotBound as u16`. -/
def MAX : Nat := notBound.discr

theorem discr_pos_le (e : ErrorStatus) : 0 < e.discr ∧ e.discr ≤ MAX := by
  cases e <;> decide

/-- `err as u16`. -/
def asU16 (e : ErrorStatus) : U16 := ⟨e.discr, Nat.lt_of_le_of_lt (discr_pos_le e).2 (by decide)⟩

theorem length_all : all.length = MAX := rfl

/-- The discriminants are dense: the `i`-th variant of `all` has discriminant `i + 1`. -/
theorem discr_get_all (i : Fin all.length) : (all.get i).discr = i.val + 1 := by
  revert i; decide

theorem get_all_discr (e : ErrorStatus) :
    all.get ⟨e.discr - 1, by have := discr_pos_le e; rw [length_all]; omega⟩ = e := by
  cases e <;> rfl

/-- `core::mem::transmute::<u16, ErrorStatus>(value)`, defined exactly on the declared
discriminants: its caller must prove `value` is one. -/
def transmute (value : Nat) (h : 0 < value ∧ value ≤ MAX) : ErrorStatus :=
  all.get ⟨value - 1, by rw [length_all]; omega⟩

@[simp] theorem transmute_discr (value : Nat) (h : 0 < value ∧ value ≤ MAX) :
    (transmute value h).discr = value := by
  unfold transmute; rw [discr_get_all]; simp only; omega

theorem transmute_of_discr (e : ErrorStatus) (h : 0 < e.discr ∧ e.discr ≤ MAX) :
    transmute e.discr h = e :=
  get_all_discr e

/-- `try_from_u16`: the variant whose discriminant is `value`, if any. -/
def tryFromU16 (value : U16) : Except Unit ErrorStatus :=
  if h : value.val > 0 ∧ value.val ≤ MAX then .ok (transmute value.val h) else .error ()

/-- `from_u16`: `try_from_u16`, with `Unknown` for every value that names no variant. -/
def fromU16 (value : U16) : ErrorStatus :=
  match tryFromU16 value with
  | .ok k => k
  | .error () => .unknown

theorem fromU16_of_mem (value : U16) (h : 0 < value.val ∧ value.val ≤ MAX) :
    (fromU16 value).discr = value.val := by
  simp only [fromU16, tryFromU16, dif_pos h, transmute_discr]

@[simp] theorem fromU16_asU16 (e : ErrorStatus) : fromU16 e.asU16 = e := by
  simp only [fromU16, tryFromU16, asU16, dif_pos (discr_pos_le e), transmute_of_discr]

theorem discr_injective : Function.Injective discr := fun e e' h => by
  rw [← fromU16_asU16 e, ← fromU16_asU16 e', show e.asU16 = e'.asU16 from UScalar.ext h]

end ErrorStatus

/-! ## §2 — `SysResult` -/

/-- `SysResult(isize)`: a non-negative word is an `Ok` payload, a negative one an error. -/
structure SysResult where
  asIsize : Isize
  deriving DecidableEq, Repr

namespace SysResult

/-- `err`: `Self(-(err as isize))`. -/
def err (err : ErrorStatus) : Option SysResult :=
  SysResult.mk <$> (err.asU16.toI .isize).neg

/-- `into_result`: the sign picks the side; an error's code is the negated word `as u16`. -/
def intoResult (self : SysResult) : Option (Except ErrorStatus Usize) :=
  if self.asIsize.isNegative then
    (fun n => .error (ErrorStatus.fromU16 (n.toU .u16))) <$> self.asIsize.neg
  else some (.ok (self.asIsize.toU .usize))

/-- `try_ok`: `Err(())` when the payload read `as isize` is negative. -/
def tryOk (value : Usize) : Except Unit SysResult :=
  let value := value.toI .isize
  if value.isNegative then .error () else .ok ⟨value⟩

/-- `try_from_result`. -/
def tryFromResult (result : Except ErrorStatus Usize) : Option (Except Unit SysResult) :=
  match result with
  | .error err => Except.ok <$> SysResult.err err
  | .ok value => some (tryOk value)

/-- `ok`: `try_ok`, with a panic (`none`) where it fails. -/
def ok (value : Usize) : Option SysResult := (tryOk value).toOption

/-- `from_isize`. -/
def fromIsize (isize : Isize) : SysResult := ⟨isize⟩

/-- `From<ErrorStatus> for SysResult`. -/
def fromErrorStatus (value : ErrorStatus) : Option SysResult := err value

/-! ### Decoding: what `into_result` computes for every word -/

theorem intoResult_of_nonneg (w : Isize) (h : 0 ≤ w.val) :
    ∃ v : Usize, (fromIsize w).intoResult = some (.ok v) ∧ (v.val : Int) = w.val := by
  have hneg : w.isNegative = false := by simp [IScalar.isNegative, h]
  refine ⟨_, by simp only [intoResult, fromIsize, hneg]; rfl, ?_⟩
  exact IScalar.toU_val_of_nonneg w h (by have := w.lt; simp only [ITy.numBits, UTy.numBits] at *; omega)

/-- A negative word other than `isize::MIN` decodes through the low 16 bits of its negation. -/
theorem intoResult_of_neg (w : Isize) (h : w.val < 0) (hmin : w.val ≠ -2 ^ 63) :
    ∃ c : U16, (fromIsize w).intoResult = some (.error (ErrorStatus.fromU16 c)) ∧
      (c.val : Int) = (-w.val) % 2 ^ 16 := by
  obtain ⟨n, hn, hval⟩ := w.neg_eq_some hmin
  refine ⟨n.toU .u16, ?_, ?_⟩
  · simp only [intoResult, fromIsize, (IScalar.isNegative_iff w).mpr h, if_true, hn]; rfl
  · have h0 : 0 ≤ (-w.val) % 2 ^ 16 := Int.emod_nonneg _ (by norm_num)
    simp only [IScalar.toU, hval, UTy.numBits, Nat.cast_pow, Nat.cast_ofNat]
    exact Int.toNat_of_nonneg h0

/-- The negation of `isize::MIN` overflows: decoding it panics. -/
theorem intoResult_isizeMin (w : Isize) (h : w.val = -2 ^ 63) : (fromIsize w).intoResult = none := by
  have hneg : w.isNegative = true := by rw [IScalar.isNegative_iff, h]; norm_num
  simp only [intoResult, fromIsize, hneg, if_true, (IScalar.neg_eq_none_iff w).mpr h]; rfl

/-- Every code of the catalogue decodes to its own variant. -/
theorem intoResult_of_code (w : Isize) (h : 0 < -w.val ∧ -w.val ≤ ErrorStatus.MAX) :
    ∃ k : ErrorStatus, (fromIsize w).intoResult = some (.error k) ∧ (k.discr : Int) = -w.val := by
  obtain ⟨c, hc, hcv⟩ := intoResult_of_neg w (by omega)
    (by have : ErrorStatus.MAX = 42 := rfl; omega)
  have hc' : (c.val : Int) = -w.val := by
    rw [hcv, Int.emod_eq_of_lt (by omega) (by have : ErrorStatus.MAX = 42 := rfl; omega)]
  refine ⟨_, hc, ?_⟩
  rw [ErrorStatus.fromU16_of_mem c (by omega), hc']

/-- **`into_result` folds wide codes and panics at `isize::MIN`.** `-65537` is not a code, yet it
decodes to `Generic` (its negation is `1` modulo `2 ^ 16`); `isize::MIN` cannot be negated. -/
theorem intoResult_folds_wide_codes :
    (fromIsize ⟨-65537, by decide, by decide⟩).intoResult = some (.error .generic) ∧
    (fromIsize ⟨-2 ^ 63, by decide, by decide⟩).intoResult = none :=
  ⟨rfl, intoResult_isizeMin _ rfl⟩

/-! ### Encoding: `try_from_result` and the constructors that agree with it -/

theorem err_spec (e : ErrorStatus) :
    ∃ s, err e = some s ∧ s.asIsize.val = -(e.discr : Int) ∧ s.intoResult = some (.error e) := by
  have hd := e.discr_pos_le
  have hmax : ErrorStatus.MAX = 42 := rfl
  have hv : (e.asU16.toI .isize).val = e.discr :=
    UScalar.toI_val_of_lt _ (by simp only [ErrorStatus.asU16, ITy.numBits]; omega)
  obtain ⟨n, hn, hnv⟩ := (e.asU16.toI .isize).neg_eq_some (by rw [hv]; simp only [ITy.numBits]; omega)
  have hword : n.val = -(e.discr : Int) := by rw [hnv, hv]
  refine ⟨⟨n⟩, by simp only [err, hn]; rfl, hword, ?_⟩
  obtain ⟨c, hc, hcv⟩ := intoResult_of_neg n (by omega) (by omega)
  have hce : c = e.asU16 := by
    ext; simp only [ErrorStatus.asU16]
    rw [hword, neg_neg, Int.emod_eq_of_lt (by omega) (by omega)] at hcv; exact_mod_cast hcv
  rw [fromIsize] at hc; rw [hc, hce, ErrorStatus.fromU16_asU16]

theorem tryOk_of_gt (v : Usize) (h : isizeMax < v.val) : tryOk v = .error () := by
  have : (v.toI .isize).isNegative = true := by
    rw [IScalar.isNegative_iff, Usize.toI_isize_neg_iff]; exact h
  simp only [tryOk, this, if_true]

theorem tryOk_of_le (v : Usize) (h : v.val ≤ isizeMax) :
    ∃ s, tryOk v = .ok s ∧ s.asIsize.val = v.val ∧ s.intoResult = some (.ok v) := by
  have hv : (v.toI .isize).val = v.val :=
    UScalar.toI_val_of_lt _ (by simp only [ITy.numBits]; unfold isizeMax at h; omega)
  have hneg : (v.toI .isize).isNegative = false := by simp [IScalar.isNegative, hv]
  refine ⟨⟨v.toI .isize⟩, by simp only [tryOk, hneg]; rfl, hv, ?_⟩
  obtain ⟨u, hu, huv⟩ := intoResult_of_nonneg (v.toI .isize) (by omega)
  rw [fromIsize] at hu; rw [hu, show u = v from UScalar.ext (by omega)]

/-- **The outcome word round-trips.** `try_from_result` refuses exactly the `Ok` payloads above
`isize::MAX`; every other result is encoded as a word that `into_result` decodes back to it, an `Ok`
payload as itself and an error as its negated discriminant. `ok`, `try_ok` and `From<ErrorStatus>`
encode as `try_from_result` does. -/
theorem tryFromResult_roundTrip :
    (∀ r : Except ErrorStatus Usize,
      (tryFromResult r = some (.error ()) ↔ ∃ v, r = .ok v ∧ isizeMax < v.val) ∧
      ((¬∃ v, r = .ok v ∧ isizeMax < v.val) →
        ∃ s, tryFromResult r = some (.ok s) ∧ s.intoResult = some r ∧
          (∀ v, r = .ok v → s.asIsize.val = v.val) ∧
          (∀ e, r = .error e → s.asIsize.val = -(e.discr : Int)))) ∧
    (∀ v : Usize, v.val ≤ isizeMax → (ok v).map .ok = tryFromResult (.ok v)) ∧
    (∀ v : Usize, some (tryOk v) = tryFromResult (.ok v)) ∧
    (∀ e : ErrorStatus, (fromErrorStatus e).map .ok = tryFromResult (.error e)) := by
  refine ⟨fun r => ?_, fun v h => ?_, fun v => rfl, fun e => ?_⟩
  · cases r with
    | error e =>
      obtain ⟨s, hs, hval, hdec⟩ := err_spec e
      have henc : tryFromResult (.error e) = some (.ok s) := by simp only [tryFromResult, hs]; rfl
      refine ⟨by simp [henc], fun _ => ⟨s, henc, hdec, by simp, fun e' he => ?_⟩⟩
      cases he; exact hval
    | ok v =>
      by_cases hv : isizeMax < v.val
      · have henc : tryFromResult (.ok v) = some (.error ()) := by
          simp only [tryFromResult, tryOk_of_gt v hv]
        exact ⟨by simp [henc, hv], fun hn => absurd ⟨v, rfl, hv⟩ hn⟩
      · obtain ⟨s, hs, hval, hdec⟩ := tryOk_of_le v (by omega)
        have henc : tryFromResult (.ok v) = some (.ok s) := by simp only [tryFromResult, hs]
        refine ⟨by simp [henc, hv], fun _ => ⟨s, henc, hdec, fun v' he => ?_, by simp⟩⟩
        cases he; exact hval
  · obtain ⟨s, hs, -⟩ := tryOk_of_le v h
    simp only [ok, tryFromResult, hs]; rfl
  · rfl

/-! ### `Termination::report`, under the `std` feature -/

/-- `Termination::report`: exit code `0` for `Ok`, and for `Err` the error `as u16`, cut `as u8`;
`none` where `into_result` panics. -/
def report (self : SysResult) : Option U8 :=
  self.intoResult.map fun
    | .ok _ => 0
    | .error smth => smth.asU16.cast .u8

/-- The `u8` cast keeps an error's discriminant, which is at most `0x2A`. -/
theorem asU16_cast_u8_val (e : ErrorStatus) : (e.asU16.cast .u8).val = e.discr :=
  Nat.mod_eq_of_lt (lt_of_le_of_lt (ErrorStatus.discr_pos_le e).2 (by decide))

/-- Distinct errors exit with distinct codes. -/
theorem asU16_cast_u8_eq_iff (e e' : ErrorStatus) :
    e.asU16.cast .u8 = e'.asU16.cast .u8 ↔ e = e' :=
  ⟨fun h => ErrorStatus.discr_injective (by rw [← asU16_cast_u8_val, h, asU16_cast_u8_val]),
    fun h => h ▸ rfl⟩

/-- No error exits with `0`. -/
theorem asU16_cast_u8_ne_zero (e : ErrorStatus) : e.asU16.cast .u8 ≠ 0 := fun h => by
  have hv := asU16_cast_u8_val e
  rw [h, UScalar.val_zero] at hv
  exact (ErrorStatus.discr_pos_le e).1.ne hv

/-- **`report` exits with the code of the outcome `into_result` decodes.** For every word but
`isize::MIN` (where `into_result` panics), the exit code is `0` exactly when the word is
non-negative, a negative word exits with the discriminant of the error it decodes to, and the code
of the catalogue a word negates is its exit code. Two words exit alike exactly when they decode to
the same outcome, `Ok` payloads aside: no two errors share a code, and no error shares `0` with
success. -/
theorem report_zero_iff_success :
    (∀ w : Isize, w.val ≠ -2 ^ 63 →
      ((fromIsize w).report.map UScalar.val = some 0 ↔ 0 ≤ w.val) ∧
      (w.val < 0 → ∃ e, (fromIsize w).intoResult = some (.error e) ∧
        (fromIsize w).report.map UScalar.val = some e.discr) ∧
      (0 < -w.val → -w.val ≤ ErrorStatus.MAX →
        (fromIsize w).report.map (fun c => (c.val : Int)) = some (-w.val))) ∧
    ∀ w w' : Isize, (fromIsize w).report = (fromIsize w').report ↔
      (fromIsize w).intoResult.map (Except.map fun _ => ()) =
        (fromIsize w').intoResult.map (Except.map fun _ => ()) := by
  refine ⟨fun w hmin => ?_, fun w w' => ?_⟩
  · by_cases hw : 0 ≤ w.val
    · obtain ⟨v, hv, -⟩ := intoResult_of_nonneg w hw
      have hcode : (fromIsize w).report.map UScalar.val = some 0 := by rw [report, hv]; rfl
      exact ⟨iff_of_true hcode hw, fun h => absurd hw (not_le.2 h), fun h => absurd hw (by omega)⟩
    · obtain ⟨c, hc, -⟩ := intoResult_of_neg w (by omega) hmin
      have hcode : (fromIsize w).report.map UScalar.val = some (ErrorStatus.fromU16 c).discr := by
        rw [report, hc]
        exact congrArg some (asU16_cast_u8_val _)
      have hpos := (ErrorStatus.discr_pos_le (ErrorStatus.fromU16 c)).1
      refine ⟨?_, fun _ => ⟨_, hc, hcode⟩, fun hneg hle => ?_⟩
      · rw [hcode, Option.some.injEq]
        omega
      · obtain ⟨k, hk, hkv⟩ := intoResult_of_code w ⟨hneg, hle⟩
        rw [report, hk, ← hkv]
        exact congrArg (some ∘ Nat.cast) (asU16_cast_u8_val k)
  · simp only [report]
    generalize (fromIsize w).intoResult = r
    generalize (fromIsize w').intoResult = r'
    rcases r with _ | (e | v) <;> rcases r' with _ | (e' | v') <;>
      simp [Except.map, asU16_cast_u8_eq_iff, asU16_cast_u8_ne_zero, eq_comm (a := (0 : U8))]

end SysResult

/-- `IntoErr`: an error of a conversion, reported as an `ErrorStatus`. -/
class IntoErr (α : Type) where
  intoErr : α → ErrorStatus

end SafaAbi.Errors
