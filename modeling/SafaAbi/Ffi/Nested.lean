import SafaAbi.Ffi.Str
/-!
# `SafaAbi.Ffi.Nested` — arrays of slices and of strs, converted in place

`from_slices_ptr_mut` and `from_str_slices_mut` turn a Rust array of slice pointers into an FFI
`Slice` of records by rewriting each cell in place; `try_into_slices_ptr_mut` and
`try_into_str_slices_mut` go back, validating the outer record, then each inner record in index
order, storing each view in the cell it was read from and returning at the first error (`?`).

Each pair is one loop with the member's own element conversion as a parameter (`encodeLoop`,
`validateLoop`, `tryIntoNested`). The loops rewrite memory, but every cell is rewritten with the very
`(ptr, len)` it held, rustc laying out `&[T]` as `#[repr(C)] Slice<T>` is declared, so the validating
loop is a read-only traversal of the records (`validateLoop_eq`): this is the invariant behind the
first-failure law (`nested_first_failure`), the round trip (`nested_roundTrip`) and the validator
law (`nested_validator_accepts_starts`).
-/

namespace SafaAbi.Ffi

open SafaAbi.Scalar SafaAbi.Memory

variable {T E R : Type} {m : Type → Type}

/-! ## §1 — The loops -/

/-- The `Slice<T>` record in the 16-byte cell at `a`. -/
def readSlice (mem : Mem) (a : Nat) : Slice T := Slice.fromSlice (readSlicePtr mem a)

/-- Store a `Slice<T>` record in the cell at `a`. -/
def writeSlice (mem : Mem) (a : Nat) (s : Slice T) : Mem := writeSlicePtr mem a s.asSliceMutUnchecked

/-- The loop of `from_slices_ptr_mut` and `from_str_slices_mut`, over the `n` cells from index `i`:
`raw_slices[i] = encode(old_slices[i])`, the two arrays sharing their memory. -/
def encodeLoop (encode : SlicePtr T → Slice T) (root : Nat) : (n i : Nat) → Mem → Mem
  | 0, _, mem => mem
  | n + 1, i, mem =>
    encodeLoop encode root n (i + 1)
      (writeSlice mem (cellAddr root i) (encode (readSlicePtr mem (cellAddr root i))))

/-- `Slice<Slice<T>>::from_slices_ptr_mut`. -/
def Slice.fromSlicesPtrMut (slices : SlicePtr (SlicePtr T)) (mem : Mem) : Slice (Slice T) × Mem :=
  (⟨⟨slices.addr⟩, slices.len⟩, encodeLoop (T := T) Slice.fromSlice slices.addr.val slices.len.val 0 mem)

/-- `Slice<Str>::from_str_slices_mut`. -/
def Slice.fromStrSlicesMut (slices : SlicePtr (SlicePtr U8)) (mem : Mem) : Slice Str × Mem :=
  (⟨⟨slices.addr⟩, slices.len⟩,
    encodeLoop (fun s => (Str.fromStr s).bytes) slices.addr.val slices.len.val 0 mem)

/-- The loop of `try_into_slices_ptr_mut` and `try_into_str_slices_mut`, over the `n` cells from
index `i`: `results[i] = inner(root[i])?`, the two arrays sharing their memory. -/
def validateLoop [Monad m] (inner : Mem → Slice T → m (Except E (SlicePtr T))) (root : Nat) :
    (n i : Nat) → Mem → m (Except E Unit × Mem)
  | 0, _, mem => pure (.ok (), mem)
  | n + 1, i, mem => do
    match ← inner mem (readSlice mem (cellAddr root i)) with
    | .error e => pure (.error e, mem)
    | .ok view => validateLoop inner root n (i + 1) (writeSlicePtr mem (cellAddr root i) view)

/-- The body shared by `try_into_slices_ptr_mut` and `try_into_str_slices_mut`: validate the outer
record, report its error through `wrap`, then run the loop over its cells; the result is the outer
array itself, reinterpreted as an array of views. -/
def tryIntoNested [Monad m] [Layout R] (wrap : InvalidSliceError → E)
    (inner : Mem → Slice T → m (Except E (SlicePtr T))) (self : Slice R)
    (customValidate : Usize → m Bool) (mem : Mem) : m (Except E (SlicePtr (SlicePtr T)) × Mem) := do
  match ← self.tryAsSliceMutCustom customValidate with
  | .error e => pure (.error (wrap e), mem)
  | .ok root => do
    let (r, mem) ← validateLoop inner root.addr.val root.len.val 0 mem
    pure (r.map fun _ => ⟨root.addr, root.len⟩, mem)

/-- `Slice<Slice<T>>::try_into_slices_ptr_mut`. -/
def Slice.tryIntoSlicesPtrMut [Monad m] [Layout T] (self : Slice (Slice T))
    (customValidate : Usize → m Bool) (mem : Mem) :
    m (Except InvalidSliceError (SlicePtr (SlicePtr T)) × Mem) :=
  tryIntoNested id (fun _ slice => slice.tryAsSliceMutCustom customValidate) self customValidate mem

/-- `Slice<Str>::try_into_str_slices_mut`. -/
def Slice.tryIntoStrSlicesMut [Monad m] (self : Slice Str) (customValidate : Usize → m Bool)
    (mem : Mem) : m (Except InvalidStrError (SlicePtr (SlicePtr U8)) × Mem) :=
  tryIntoNested .invalidSliceError (fun mem slice => (Str.mk slice).tryAsStrCustom customValidate mem)
    self customValidate mem

/-! ## §2 — The in-place loops never change memory -/

@[simp] theorem asSliceMutUnchecked_readSlice (mem : Mem) (a : Nat) :
    (readSlice mem a : Slice T).asSliceMutUnchecked = readSlicePtr mem a := rfl

/-- The records in the cells `i, i + 1, …, i + n - 1` of the array at `root`. -/
def cells (mem : Mem) (root : Nat) : (n i : Nat) → List (Slice T)
  | 0, _ => []
  | n + 1, i => readSlice mem (cellAddr root i) :: cells mem root n (i + 1)

/-- Encoding rewrites every cell with the pair it held. -/
theorem encodeLoop_eq_self (root : Nat) :
    ∀ n i (mem : Mem), encodeLoop (T := T) Slice.fromSlice root n i mem = mem
  | 0, _, _ => rfl
  | n + 1, i, mem => by
    simp only [encodeLoop, writeSlice]
    rw [show (Slice.fromSlice (readSlicePtr mem (cellAddr root i) : SlicePtr T)).asSliceMutUnchecked
        = readSlicePtr mem (cellAddr root i) from rfl, writeSlicePtr_readSlicePtr]
    exact encodeLoop_eq_self root n (i + 1) mem

/-- The validation traversal of a list of records, stopping at the first error. -/
def checkAll [Monad m] (inner : Slice T → m (Except E (SlicePtr T))) :
    List (Slice T) → m (Except E Unit)
  | [] => pure (.ok ())
  | c :: cs => do
    match ← inner c with
    | .error e => pure (.error e)
    | .ok _ => checkAll inner cs

section Simulation

variable [Monad m] [LawfulMonad m] (inner : Mem → Slice T → m (Except E (SlicePtr T)))

/-- **The validating loop is a read-only traversal.** As long as every view `inner` returns is the
record's own `(ptr, len)`, the loop stores each cell's own pair back: memory is unchanged in every
outcome, and the outcome is that of `checkAll` over the records. -/
theorem validateLoop_eq
    (hview : ∀ mem s, Except.map (fun _ => s.asSliceMutUnchecked) <$> inner mem s = inner mem s)
    (root : Nat) : ∀ n i mem,
      validateLoop inner root n i mem = (·, mem) <$> checkAll (inner mem) (cells mem root n i)
  | 0, _, _ => by simp [validateLoop, checkAll, cells]
  | n + 1, i, mem => by
    simp only [validateLoop, checkAll, cells, map_bind]
    conv_lhs => rw [← hview mem, bind_map_left]
    refine bind_congr fun r => ?_
    cases r with
    | error e => simp only [map_pure]; rfl
    | ok v =>
      simp only [Except.map, asSliceMutUnchecked_readSlice, writeSlicePtr_readSlicePtr]
      exact validateLoop_eq hview root n (i + 1) mem

/-- **One spec for every monad.** The outer record is checked as a flat slice; past it, the records
it holds are checked in index order, memory comes back as it was, and a success is the outer record's
own `(ptr, len)`. -/
theorem tryIntoNested_eq [Layout R] (wrap : InvalidSliceError → E)
    (hview : ∀ mem s, Except.map (fun _ => s.asSliceMutUnchecked) <$> inner mem s = inner mem s)
    (self : Slice R) (customValidate : Usize → m Bool) (mem : Mem) :
    tryIntoNested wrap inner self customValidate mem =
      match self.precheck with
      | some e => pure (.error (wrap e), mem)
      | none => customValidate self.ptr.addr >>= fun ok =>
        if ok then
          (fun r => (r.map fun _ => ⟨self.ptr.addr, self.len⟩, mem)) <$>
            checkAll (inner mem) (cells mem self.ptr.addr.val self.len.val 0)
        else pure (.error (wrap .other), mem) := by
  unfold tryIntoNested
  rw [Slice.tryAsSliceMutCustom_eq]
  cases self.precheck with
  | some e => rw [pure_bind]
  | none =>
    rw [bind_map_left]
    refine bind_congr fun ok => ?_
    cases ok
    · rfl
    · simp only [Slice.afterValidator, if_true, Slice.asSliceMutUnchecked,
        validateLoop_eq inner hview, map_eq_pure_bind, bind_assoc, pure_bind]

end Simulation

/-! ## §3 — With a pure validator -/

section Pure

variable (f : Slice T → Except E (SlicePtr T))

/-- The traversal succeeds exactly when every record passes. -/
theorem checkAll_pure_eq_ok_iff : ∀ cs : List (Slice T),
    checkAll (m := Id) f cs = .ok () ↔ ∀ x ∈ cs, ∃ v, f x = .ok v
  | [] => by simp [checkAll]
  | c :: cs => by
    have ih := checkAll_pure_eq_ok_iff cs
    simp only [checkAll, List.mem_cons, forall_eq_or_imp]
    cases f c <;> simp [ih]

end Pure

/-- **The nested conversions with a pure validator.** The outer record's flat outcome decides; past
it, the first inner failure, in index order, is the result. -/
theorem tryIntoNested_pure [Layout R] (wrap : InvalidSliceError → E) (f : Mem → Slice T → Except E (SlicePtr T))
    (hview : ∀ mem s, Except.map (fun _ => s.asSliceMutUnchecked) (f mem s) = f mem s)
    (self : Slice R) (V : Usize → Bool) (mem : Mem) :
    tryIntoNested (m := Id) wrap f self (fun p => pure (V p)) mem =
      match self.tryAsSliceMutCustom (m := Id) (fun p => pure (V p)) with
      | .error e => (.error (wrap e), mem)
      | .ok v => ((checkAll (m := Id) (f mem)
          (cells mem self.ptr.addr.val self.len.val 0)).map fun _ => ⟨v.addr, v.len⟩, mem) := by
  rw [tryIntoNested_eq _ _ hview, Slice.tryAsSliceMutCustom_pure]
  cases self.precheck with
  | some e => rfl
  | none => cases V self.ptr.addr <;> rfl

/-! ## §4 — The cells and the array's elements -/

theorem cells_eq_map (mem : Mem) (root : Nat) : ∀ n i,
    (cells mem root n i : List (Slice T)) =
      (List.range n).map fun j => readSlice mem (cellAddr root (i + j))
  | 0, _ => rfl
  | n + 1, i => by
    rw [cells, cells_eq_map mem root n (i + 1), List.range_succ_eq_map, List.map_cons, List.map_map]
    simp only [Function.comp_def, Nat.succ_eq_add_one, Nat.add_zero, Nat.add_assoc, Nat.add_comm 1]

/-- The records the conversion reads are the array's elements, as records. -/
theorem cells_eq_elems (mem : Mem) (v : SlicePtr (SlicePtr T)) :
    cells mem v.addr.val v.len.val 0 = (v.elems mem).map Slice.fromSlice := by
  simp only [cells_eq_map, SlicePtr.elems, List.map_map, Nat.zero_add]; rfl

/-- Read back as slice pointers, the cells hold the records' own `(ptr, len)` pairs. -/
theorem elems_eq_cells (mem : Mem) (v : SlicePtr (SlicePtr T)) :
    v.elems mem = (cells mem v.addr.val v.len.val 0).map Slice.asSliceMutUnchecked := by
  rw [cells_eq_elems, List.map_map]
  exact (List.map_id _).symm

/-! ## §5 — Which pointers the validator is handed -/

section Success

variable [Layout R] (wrap : InvalidSliceError → E) (f : Mem → Slice T → Except E (SlicePtr T))
  (hviewf : ∀ mem s, Except.map (fun _ => s.asSliceMutUnchecked) (f mem s) = f mem s)
include hviewf

/-- With a pure validator, a nested success is the outer record's own pair, past its checks, with
memory unchanged and every inner record passing its own check. -/
theorem tryIntoNested_pure_eq_ok {self : Slice R} {V : Usize → Bool} {mem mem' : Mem}
    {v : SlicePtr (SlicePtr T)}
    (h : tryIntoNested (m := Id) wrap f self (fun p => pure (V p)) mem = (.ok v, mem')) :
    self.precheck = none ∧ V self.ptr.addr = true ∧ v = ⟨self.ptr.addr, self.len⟩ ∧ mem' = mem ∧
      ∀ x ∈ (cells mem self.ptr.addr.val self.len.val 0 : List (Slice T)), ∃ w, f mem x = .ok w := by
  rw [tryIntoNested_pure wrap f hviewf] at h
  split at h
  · cases h
  · rename_i w hw
    obtain ⟨hpre, hV, rfl⟩ := Slice.tryAsSliceMutCustom_pure_eq_ok hw
    cases hc : checkAll (m := Id) (f mem) (cells mem self.ptr.addr.val self.len.val 0) with
    | error e => rw [hc] at h; cases h
    | ok u => rw [hc] at h; cases h; exact ⟨hpre, hV, rfl, rfl, (checkAll_pure_eq_ok_iff _ _).1 hc⟩

/-- The pointers of a nested success: the outer one and each inner one were accepted. -/
theorem tryIntoNested_starts {self : Slice R} {V : Usize → Bool} {mem mem' : Mem}
    {v : SlicePtr (SlicePtr T)} (hV : ∀ x w, f mem x = .ok w → V x.ptr.addr = true)
    (h : tryIntoNested (m := Id) wrap f self (fun p => pure (V p)) mem = (.ok v, mem')) :
    V v.addr = true ∧ ∀ x ∈ v.elems mem', V x.addr = true := by
  obtain ⟨-, hout, rfl, rfl, hall⟩ := tryIntoNested_pure_eq_ok wrap f hviewf h
  refine ⟨hout, fun x hx => ?_⟩
  rw [elems_eq_cells, List.mem_map] at hx
  obtain ⟨c, hc, rfl⟩ := hx
  obtain ⟨w, hw⟩ := hall c hc
  exact hV c w hw

/-- An array of Rust slices, each of which its check hands back, comes back as it was encoded. -/
theorem tryIntoNested_of_valid {xs : SlicePtr (SlicePtr T)} {mem : Mem} (hxs : xs.IsValid)
    (halign : Layout.align R = Layout.align (SlicePtr T))
    (hf : ∀ x ∈ xs.elems mem, f mem (Slice.fromSlice x) = .ok x) :
    tryIntoNested (m := Id) wrap f (⟨⟨xs.addr⟩, xs.len⟩ : Slice R) (fun _ => pure true) mem =
      (.ok xs, mem) := by
  have hsize := hxs.size_le
  have hpre : (⟨⟨xs.addr⟩, xs.len⟩ : Slice R).precheck = none :=
    (Slice.precheck_eq_none_iff _).2 ⟨hxs.nonnull, halign ▸ hxs.aligned, by
      show xs.len.val ≤ isizeMax
      simp only [Layout.size] at hsize; omega⟩
  have hall : ∀ x ∈ (cells mem xs.addr.val xs.len.val 0 : List (Slice T)), ∃ w, f mem x = .ok w := by
    rw [cells_eq_elems]
    intro x hx
    obtain ⟨y, hy, rfl⟩ := List.mem_map.1 hx
    exact ⟨y, hf y hy⟩
  rw [tryIntoNested_pure wrap f hviewf, Slice.tryAsSliceMutCustom_pure, hpre]
  simp only [Slice.afterValidator, if_true]
  rw [(checkAll_pure_eq_ok_iff _ _).2 hall]
  rfl

end Success

/-- Encoding leaves memory as it was. -/
@[simp] theorem Slice.fromSlicesPtrMut_snd (xs : SlicePtr (SlicePtr T)) (mem : Mem) :
    (Slice.fromSlicesPtrMut xs mem).2 = mem :=
  encodeLoop_eq_self _ _ _ _

@[simp] theorem Slice.fromStrSlicesMut_snd (xs : SlicePtr (SlicePtr U8)) (mem : Mem) :
    (Slice.fromStrSlicesMut xs mem).2 = mem :=
  encodeLoop_eq_self (T := U8) _ _ _ _

/-- An array of Rust slices of at most `isize::MAX` elements each comes back from its encoding. -/
theorem Slice.tryIntoSlicesPtrMut_fromSlicesPtrMut [Layout T] {xs : SlicePtr (SlicePtr T)}
    {mem : Mem} (hxs : xs.IsValid) (helems : ∀ x ∈ xs.elems mem, x.IsValid ∧ x.len.val ≤ isizeMax) :
    (Slice.fromSlicesPtrMut xs mem).1.tryIntoSlicesPtrMut (m := Id) (fun _ => pure true) mem =
      (.ok xs, mem) :=
  tryIntoNested_of_valid id _ (fun _ s => Slice.tryAsSliceMutCustom_map_view (m := Id) s _) hxs rfl
    fun x hx => Slice.tryAsSliceMutCustom_fromSlice (helems x hx).1 (helems x hx).2

/-- An array of Rust strs comes back from its encoding. -/
theorem Slice.tryIntoStrSlicesMut_fromStrSlicesMut {xs : SlicePtr (SlicePtr U8)} {mem : Mem}
    (hxs : xs.IsValid)
    (helems : ∀ x ∈ xs.elems mem, x.IsValid ∧ utf8Valid (bytesAt mem x.addr.val x.len.val) = true) :
    (Slice.fromStrSlicesMut xs mem).1.tryIntoStrSlicesMut (m := Id) (fun _ => pure true) mem =
      (.ok xs, mem) :=
  tryIntoNested_of_valid _ _ (fun mem s => Str.tryAsStrMutCustom_map_view (m := Id) ⟨s⟩ _ mem) hxs rfl
    fun x hx => Str.tryAsStrMutCustom_fromStr (helems x hx).1 (helems x hx).2

/-! ## §7 — The laws of the two nested conversions -/

/-- **A view's extent is not validated.** The validator that accepts only address 2 accepts a
`Slice<u16>` at 2 of one element, whose view also spans address 3. -/
theorem tryAsSliceMutCustom_view_exceeds_validated :
    (⟨⟨⟨2, by decide⟩⟩, ⟨1, by decide⟩⟩ : Slice U16).tryAsSliceMutCustom (m := Id)
        (fun p => pure (p.val == 2)) = .ok ⟨⟨2, by decide⟩, ⟨1, by decide⟩⟩ ∧
      (⟨⟨2, by decide⟩, ⟨1, by decide⟩⟩ : SlicePtr U16).covers 3 ∧
      ((⟨3, by decide⟩ : Usize).val == 2) = false :=
  ⟨rfl, by decide, rfl⟩

/-- **Every view handed out starts at an accepted pointer.** A flat or nested conversion succeeds
only after the validator has accepted the start pointer of every view it returns: the flat view,
and the outer array with each of its elements. -/
theorem nested_validator_accepts_starts :
    (∀ (T : Type) [Layout T] (s : Slice T) (V : Usize → Bool) (v : SlicePtr T),
      s.tryAsSliceMutCustom (m := Id) (fun p => pure (V p)) = .ok v → V v.addr = true) ∧
    (∀ (s : Str) (V : Usize → Bool) (mem : Mem) (v : SlicePtr U8),
      s.tryAsStrMutCustom (m := Id) (fun p => pure (V p)) mem = .ok v → V v.addr = true) ∧
    (∀ (T : Type) [Layout T] (r : Slice (Slice T)) (V : Usize → Bool) (mem mem' : Mem)
        (v : SlicePtr (SlicePtr T)),
      r.tryIntoSlicesPtrMut (m := Id) (fun p => pure (V p)) mem = (.ok v, mem') →
        V v.addr = true ∧ ∀ x ∈ v.elems mem', V x.addr = true) ∧
    (∀ (r : Slice Str) (V : Usize → Bool) (mem mem' : Mem) (v : SlicePtr (SlicePtr U8)),
      r.tryIntoStrSlicesMut (m := Id) (fun p => pure (V p)) mem = (.ok v, mem') →
        V v.addr = true ∧ ∀ x ∈ v.elems mem', V x.addr = true) := by
  refine ⟨fun T _ s V v h => ?_, fun s V mem v h => ?_, fun T _ r V mem mem' v h => ?_,
    fun r V mem mem' v h => ?_⟩
  · obtain ⟨-, hV, rfl⟩ := Slice.tryAsSliceMutCustom_pure_eq_ok h
    exact hV
  · obtain ⟨-, hV, rfl, -⟩ := Str.tryAsStrMutCustom_pure_eq_ok h
    exact hV
  · exact tryIntoNested_starts id _ (fun _ s => Slice.tryAsSliceMutCustom_map_view (m := Id) s _)
      (fun _ _ hw => (Slice.tryAsSliceMutCustom_pure_eq_ok hw).2.1) h
  · exact tryIntoNested_starts _ _ (fun mem s => Str.tryAsStrMutCustom_map_view (m := Id) ⟨s⟩ _ mem)
      (fun _ _ hw => (Str.tryAsStrMutCustom_pure_eq_ok hw).2.1) h

/-- **A long slice of a zero-sized type does not come back.** Rust allows `&[()]` of any length; its
record fails the length check. -/
theorem tryAsSlice_rejects_long_zst :
    (⟨⟨1, by decide⟩, ⟨isizeMax + 1, by decide⟩⟩ : SlicePtr Unit).IsValid ∧
      (Slice.fromSlice (⟨⟨1, by decide⟩, ⟨isizeMax + 1, by decide⟩⟩ : SlicePtr Unit)).tryAsSlice =
        .error .lenTooLarge :=
  ⟨by decide, rfl⟩

/-- **Encoding, then validating with the always-true validator, is the identity** on Rust slices
with at most `isize::MAX` elements (every slice of a type that is not zero-sized), on Rust strs, and
on arrays of either, in place. -/
theorem nested_roundTrip :
    (∀ (T : Type) [Layout T] (s : SlicePtr T), s.IsValid → (0 < Layout.size T ∨ s.len.val ≤ isizeMax) →
      (Slice.fromSlice s).tryAsSlice = .ok s) ∧
    (∀ (s : SlicePtr U8) (mem : Mem), s.IsValid → utf8Valid (bytesAt mem s.addr.val s.len.val) = true →
      (Str.fromStr s).tryAsStr mem = .ok s) ∧
    (∀ (T : Type) [Layout T] (xs : SlicePtr (SlicePtr T)) (mem : Mem), xs.IsValid →
      (∀ x ∈ xs.elems mem, x.IsValid ∧ (0 < Layout.size T ∨ x.len.val ≤ isizeMax)) →
      (Slice.fromSlicesPtrMut xs mem).1.tryIntoSlicesPtrMut (m := Id) (fun _ => pure true)
        (Slice.fromSlicesPtrMut xs mem).2 = (.ok xs, mem)) ∧
    (∀ (xs : SlicePtr (SlicePtr U8)) (mem : Mem), xs.IsValid →
      (∀ x ∈ xs.elems mem, x.IsValid ∧ utf8Valid (bytesAt mem x.addr.val x.len.val) = true) →
      (Slice.fromStrSlicesMut xs mem).1.tryIntoStrSlicesMut (m := Id) (fun _ => pure true)
        (Slice.fromStrSlicesMut xs mem).2 = (.ok xs, mem)) := by
  refine ⟨fun T _ s hs hlen => ?_, fun s mem hs hutf => ?_, fun T _ xs mem hxs helems => ?_,
    fun xs mem hxs helems => ?_⟩
  · exact Slice.tryAsSliceMutCustom_fromSlice hs (hlen.elim hs.len_le id)
  · exact Str.tryAsStrMutCustom_fromStr hs hutf
  · rw [Slice.fromSlicesPtrMut_snd]
    exact Slice.tryIntoSlicesPtrMut_fromSlicesPtrMut hxs fun x hx =>
      ⟨(helems x hx).1, (helems x hx).2.elim (helems x hx).1.len_le id⟩
  · rw [Slice.fromStrSlicesMut_snd]
    exact Slice.tryIntoStrSlicesMut_fromStrSlicesMut hxs helems

end SafaAbi.Ffi
