import SafaAbi.Ffi.Nested
import SafaAbi.Ffi.Ptr
import SafaAbi.Flags
/-!
# `SafaAbi.Process` — the process and thread spawn configurations

`RawPSpawnConfig::new` encodes the Rust arguments of a process spawn into the FFI record the kernel
decodes: the name as a `Str`, `argv` and `envv` as arrays of records rewritten in place (`argv`
first), the stdio reference as an `FFINonNull`, and the stack size through `From<NonZero<usize>>`;
every optional argument becomes an `OptZero`. `RawTSpawnConfig::new` encodes a thread spawn, storing
its stack size through `ShouldNotBeZero::new_unchecked` instead.

`pspawn_config_decodes` is the agreement between the two sides: whatever the spawning process
passes, the kernel's decoders give it back, and the two encoders of the stack size agree.
-/

namespace SafaAbi.Process

open SafaAbi.Scalar SafaAbi.Memory SafaAbi.Ffi

/-! ## §1 — `ProcessStdio`, flags and priorities -/

/-- `ProcessStdio`, `#[repr(C)]`: the three standard descriptors. -/
structure ProcessStdio where
  stdout : COption Usize
  stdin : COption Usize
  stderr : COption Usize
  deriving DecidableEq, Repr

namespace ProcessStdio

/-- `ProcessStdio::new`: each `u32` descriptor widened to `usize`. -/
def new (stdout stdin stderr : Option U32) : ProcessStdio :=
  ⟨COption.fromOption (stdout.map (·.cast .usize)), COption.fromOption (stdin.map (·.cast .usize)),
    COption.fromOption (stderr.map (·.cast .usize))⟩

/-- One descriptor of `into_rust`: `COption::Some(fd) => Some(fd as u32)`. -/
def descriptorIntoRust : COption Usize → Option U32
  | .some fd => .some (fd.cast .u32)
  | .none => .none

/-- `into_rust`: `(stdout, stdin, stderr)`, each narrowed back to `u32`. -/
def intoRust (self : ProcessStdio) : Option U32 × Option U32 × Option U32 :=
  (descriptorIntoRust self.stdout, descriptorIntoRust self.stdin, descriptorIntoRust self.stderr)

theorem descriptorIntoRust_fromOption (fd : Option U32) :
    descriptorIntoRust (COption.fromOption (fd.map (·.cast .usize))) = fd := by
  cases fd with
  | none => rfl
  | some fd => exact congrArg _ (UScalar.cast_cast_of_le fd (by decide))

/-- **`into_rust` inverts `new`.** -/
theorem intoRust_new (stdout stdin stderr : Option U32) :
    (new stdout stdin stderr).intoRust = (stdout, stdin, stderr) := by
  simp only [intoRust, new, descriptorIntoRust_fromOption]

/-- Narrowing a descriptor to `u32` and widening it back loses nothing when it fits 32 bits. -/
theorem fromOption_descriptorIntoRust (c : COption Usize) (h : ∀ fd, c = .some fd → fd.val < 2 ^ 32) :
    COption.fromOption ((descriptorIntoRust c).map (·.cast .usize)) = c := by
  cases c with
  | none => rfl
  | some fd =>
    exact congrArg _ (UScalar.cast_cast_of_lt fd (show fd.val < 2 ^ UTy.u32.numBits from h fd rfl))

/-- **`ProcessStdio` round trips.** `into_rust` inverts `new` on every triple, in the order
`(stdout, stdin, stderr)`; and `new` inverts `into_rust` on every `ProcessStdio` whose present
descriptors are all below `2 ^ 32`, the resource ids the `u32` side can carry. -/
theorem stdio_roundTrip :
    (∀ stdout stdin stderr : Option U32, (new stdout stdin stderr).intoRust = (stdout, stdin, stderr)) ∧
    ∀ p : ProcessStdio,
      (∀ fd : Usize, p.stdout = .some fd ∨ p.stdin = .some fd ∨ p.stderr = .some fd →
        fd.val < 2 ^ 32) →
      new p.intoRust.1 p.intoRust.2.1 p.intoRust.2.2 = p := by
  refine ⟨intoRust_new, fun ⟨stdout, stdin, stderr⟩ h => ?_⟩
  simp only [new, intoRust]
  rw [fromOption_descriptorIntoRust stdout fun fd hfd => h fd (.inl hfd),
    fromOption_descriptorIntoRust stdin fun fd hfd => h fd (.inr (.inl hfd)),
    fromOption_descriptorIntoRust stderr fun fd hfd => h fd (.inr (.inr hfd))]

/-- The second round trip at a record with two descriptors present. -/
theorem stdio_roundTrip_two_present :
    new (ProcessStdio.mk (.some ⟨1, by decide⟩) .none (.some ⟨2, by decide⟩)).intoRust.1
        (ProcessStdio.mk (.some ⟨1, by decide⟩) .none (.some ⟨2, by decide⟩)).intoRust.2.1
        (ProcessStdio.mk (.some ⟨1, by decide⟩) .none (.some ⟨2, by decide⟩)).intoRust.2.2 =
      ProcessStdio.mk (.some ⟨1, by decide⟩) .none (.some ⟨2, by decide⟩) :=
  stdio_roundTrip.2 _ fun fd hfd => by
    rcases hfd with h | h | h <;> cases h <;> decide

end ProcessStdio

/-- `SpawnFlags`, `#[repr(C)]` over a `u8`, one of the flag types of `SafaAbi.Flags`. -/
structure SpawnFlags where
  bits : U8
  deriving DecidableEq, Repr

namespace SpawnFlags

def CLONE_RESOURCES : SpawnFlags := ⟨⟨1 <<< 0, by decide⟩⟩
def CLONE_CWD : SpawnFlags := ⟨⟨1 <<< 1, by decide⟩⟩
def EMPTY : SpawnFlags := ⟨⟨0, by decide⟩⟩

def bitor (self rhs : SpawnFlags) : SpawnFlags := ⟨Flags.bitor self.bits rhs.bits⟩

end SpawnFlags

/-- `RawContextPriority`, `#[repr(u8)]`. -/
inductive RawContextPriority
  | default
  | low
  | medium
  | high
  deriving DecidableEq, Repr

/-! ## §2 — `RawPSpawnConfig` -/

/-- `RawPSpawnConfig`, `#[repr(C)]`, without its reserved padding. -/
structure RawPSpawnConfig where
  revision : U8
  name : OptZero Str
  argv : OptZero (Slice Str)
  flags : SpawnFlags
  stdio : OptZero (FFINonNull (Ptr ProcessStdio))
  env : OptZero (Slice (Slice U8))
  priority : RawContextPriority
  customStackSize : OptZero (ShouldNotBeZero Usize)

/-- `Option::map` by a conversion that rewrites memory in place. -/
def mapInPlace {α β : Type} (f : α → Mem → β × Mem) : Option α → Mem → Option β × Mem
  | .none, mem => (.none, mem)
  | .some a, mem =>
    let (b, mem) := f a mem
    (.some b, mem)

namespace RawPSpawnConfig

/-- `new_from_raw`: revision 3. -/
def newFromRaw (name : OptZero Str) (argv : OptZero (Slice Str)) (env : OptZero (Slice (Slice U8)))
    (flags : SpawnFlags) (stdio : OptZero (FFINonNull (Ptr ProcessStdio)))
    (priority : RawContextPriority) (customStackSize : OptZero (ShouldNotBeZero Usize)) :
    RawPSpawnConfig :=
  ⟨⟨3, by decide⟩, name, argv, flags, stdio, env, priority, customStackSize⟩

/-- `new`: the arguments are encoded in order, `argv`'s cells and then `envv`'s rewritten in place;
the memory afterwards is returned with the record. -/
def new (name : Option (SlicePtr U8)) (argv envv : Option (SlicePtr (SlicePtr U8)))
    (flags : SpawnFlags) (stdio : Option (Ref ProcessStdio)) (priority : RawContextPriority)
    (customStackSize : Option (NonZero Usize)) (mem : Mem) : RawPSpawnConfig × Mem :=
  let (argv, mem) := mapInPlace Slice.fromStrSlicesMut argv mem
  let (env, mem) := mapInPlace Slice.fromSlicesPtrMut envv mem
  (newFromRaw (OptZero.fromOption (name.map Str.fromStr)) (OptZero.fromOption argv)
    (OptZero.fromOption env) flags
    (OptZero.fromOption (stdio.map fun v => FFINonNull.newUnchecked v.asPtr (Ref.isNull_asPtr v)))
    priority (OptZero.fromOption (customStackSize.map ShouldNotBeZero.fromNonZero)), mem)

end RawPSpawnConfig

/-! ## §3 — `RawTSpawnConfig` -/

/-- `RawTSpawnConfig`, `#[repr(C)]`, without its reserved padding. -/
structure RawTSpawnConfig where
  revision : U32
  argumentPtr : Ptr Unit
  priority : RawContextPriority
  cpu : COption U8
  customStackSize : OptZero (ShouldNotBeZero Usize)

namespace RawTSpawnConfig

/-- `new_from_raw`: revision 1. -/
def newFromRaw (argumentPtr : Ptr Unit) (priority : RawContextPriority) (cpu : COption U8)
    (customStackSize : OptZero (ShouldNotBeZero Usize)) : RawTSpawnConfig :=
  ⟨⟨1, by decide⟩, argumentPtr, priority, cpu, customStackSize⟩

/-- `new`: the stack size stored through `ShouldNotBeZero::new_unchecked(size.get())`. -/
def new (argumentPtr : Ptr Unit) (priority : RawContextPriority) (cpu : Option U8)
    (customStackSize : Option (NonZero Usize)) : RawTSpawnConfig :=
  newFromRaw argumentPtr priority (COption.fromOption cpu)
    (match customStackSize with
    | .some size => OptZero.some (ShouldNotBeZero.newUnchecked size.get)
    | .none => OptZero.none)

end RawTSpawnConfig

/-! ## §4 — What the kernel decodes -/

theorem mapInPlace_of_snd {α β : Type} {f : α → Mem → β × Mem} {mem : Mem}
    (hf : ∀ a, (f a mem).2 = mem) : ∀ o : Option α, mapInPlace f o mem = (o.map fun a => (f a mem).1, mem)
  | .none => rfl
  | .some a => by
    have h := hf a
    revert h
    simp only [mapInPlace, Option.map_some']
    cases f a mem
    rintro rfl; rfl

/-- Encoding a process spawn leaves memory as it was. -/
theorem RawPSpawnConfig.new_eq (name : Option (SlicePtr U8)) (argv envv : Option (SlicePtr (SlicePtr U8)))
    (flags : SpawnFlags) (stdio : Option (Ref ProcessStdio)) (priority : RawContextPriority)
    (customStackSize : Option (NonZero Usize)) (mem : Mem) :
    new name argv envv flags stdio priority customStackSize mem =
      (newFromRaw (OptZero.fromOption (name.map Str.fromStr))
        (OptZero.fromOption (argv.map fun xs => (Slice.fromStrSlicesMut xs mem).1))
        (OptZero.fromOption (envv.map fun xs => (Slice.fromSlicesPtrMut xs mem).1)) flags
        (OptZero.fromOption (stdio.map fun v => FFINonNull.newUnchecked v.asPtr (Ref.isNull_asPtr v)))
        priority (OptZero.fromOption (customStackSize.map ShouldNotBeZero.fromNonZero)), mem) := by
  simp only [new, mapInPlace_of_snd (Slice.fromStrSlicesMut_snd · mem),
    mapInPlace_of_snd (Slice.fromSlicesPtrMut_snd · mem)]

/-- **The kernel decodes a process spawn back to its arguments.** For Rust arguments (a valid `&str`
name, arrays of valid strs and byte slices), encoding leaves memory as it was; the name, `argv`, the
environment and the stdio pointer decode to `Some` exactly when they were given, and then to what was
given, through `try_as_str`, `try_into_str_slices_mut` and `try_into_slices_ptr_mut` with the
always-true validator, and `as_ptr`; the stack size decodes back through `Option<NonZero<usize>>`,
stored as `RawTSpawnConfig::new` stores it, whose `cpu` decodes back too. -/
theorem pspawn_config_decodes (name : Option (SlicePtr U8))
    (argv envv : Option (SlicePtr (SlicePtr U8))) (flags : SpawnFlags) (stdio : Option (Ref ProcessStdio))
    (priority : RawContextPriority) (customStackSize : Option (NonZero Usize)) (mem : Mem)
    (hname : ∀ s ∈ name, s.IsValid ∧ utf8Valid (bytesAt mem s.addr.val s.len.val) = true)
    (hargv : ∀ xs ∈ argv, xs.IsValid ∧
      ∀ x ∈ xs.elems mem, x.IsValid ∧ utf8Valid (bytesAt mem x.addr.val x.len.val) = true)
    (henvv : ∀ xs ∈ envv, xs.IsValid ∧ ∀ x ∈ xs.elems mem, x.IsValid) :
    let cfg := (RawPSpawnConfig.new name argv envv flags stdio priority customStackSize mem).1
    let mem' := (RawPSpawnConfig.new name argv envv flags stdio priority customStackSize mem).2
    mem' = mem ∧
      cfg.name.intoOption.map (fun s => s.tryAsStr mem') = name.map .ok ∧
      cfg.argv.intoOption.map (fun r => r.tryIntoStrSlicesMut (m := Id) (fun _ => pure true) mem') =
        argv.map (fun xs => (.ok xs, mem')) ∧
      cfg.env.intoOption.map (fun r => r.tryIntoSlicesPtrMut (m := Id) (fun _ => pure true) mem') =
        envv.map (fun xs => (.ok xs, mem')) ∧
      cfg.stdio.intoOption.map FFINonNull.asPtr = stdio.map Ref.asPtr ∧
      NonZero.fromOptZero cfg.customStackSize = customStackSize ∧
      ∀ (argumentPtr : Ptr Unit) (threadPriority : RawContextPriority) (cpu : Option U8),
        (RawTSpawnConfig.new argumentPtr threadPriority cpu customStackSize).customStackSize =
          cfg.customStackSize ∧
        (RawTSpawnConfig.new argumentPtr threadPriority cpu customStackSize).cpu.toOption = cpu := by
  simp only [RawPSpawnConfig.new_eq, RawPSpawnConfig.newFromRaw]
  refine ⟨trivial, ?_, ?_, ?_, ?_, (nonZeroLaws_of_zeroed rfl).fromOptZero_fromOption _,
    fun _ _ _ => ⟨by cases customStackSize <;> rfl, COption.toOption_fromOption _⟩⟩
  · exact OptZero.intoOption_fromOption_map_map rfl
      (fun s hs => by simpa [Str.fromStr, Slice.fromSlice] using (hname s hs).1.nonnull)
      fun s hs => Str.tryAsStrMutCustom_fromStr (hname s hs).1 (hname s hs).2
  · exact OptZero.intoOption_fromOption_map_map rfl
      (fun xs hxs => by simpa [Slice.fromStrSlicesMut] using (hargv xs hxs).1.nonnull)
      fun xs hxs => Slice.tryIntoStrSlicesMut_fromStrSlicesMut (hargv xs hxs).1 (hargv xs hxs).2
  · exact OptZero.intoOption_fromOption_map_map rfl
      (fun xs hxs => by simpa [Slice.fromSlicesPtrMut] using (henvv xs hxs).1.nonnull)
      fun xs hxs => Slice.tryIntoSlicesPtrMut_fromSlicesPtrMut (henvv xs hxs).1
        fun x hx => ⟨(henvv xs hxs).2 x hx, ((henvv xs hxs).2 x hx).len_le (by decide)⟩
  · exact OptZero.intoOption_fromOption_map_map rfl (fun r _ => Ref.isNull_asPtr r) fun _ _ => rfl

/-- A memory holding the name `"s"` at 1, the argument `"a"` at 2 and the environment entry `"e"`
at 3, with the one-cell argument array at 8 and the one-cell environment array at 24. -/
def spawnArgsMem : Mem := fun a =>
  if a = 1 then ⟨115, by decide⟩ else if a = 2 then ⟨97, by decide⟩
  else if a = 3 then ⟨101, by decide⟩ else if a = 8 then ⟨2, by decide⟩
  else if a = 24 then ⟨3, by decide⟩ else if a = 16 ∨ a = 32 then ⟨1, by decide⟩ else 0

/-- The spawn of a process named `"s"`, with the argument `"a"`, the environment entry `"e"`, a stdio
record at 64 and a 4096-byte stack, leaves memory as it was. -/
theorem pspawn_config_decodes_small :
    (∀ s ∈ (some ⟨⟨1, by decide⟩, ⟨1, by decide⟩⟩ : Option (SlicePtr U8)),
      s.IsValid ∧ utf8Valid (bytesAt spawnArgsMem s.addr.val s.len.val) = true) ∧
    (RawPSpawnConfig.new (some ⟨⟨1, by decide⟩, ⟨1, by decide⟩⟩) (some ⟨⟨8, by decide⟩, ⟨1, by decide⟩⟩)
      (some ⟨⟨24, by decide⟩, ⟨1, by decide⟩⟩) ⟨0⟩ (some ⟨⟨64, by decide⟩, by decide⟩) .default
      (some ⟨⟨4096, by decide⟩, by decide⟩) spawnArgsMem).2 = spawnArgsMem :=
  have hname : ∀ s ∈ (some ⟨⟨1, by decide⟩, ⟨1, by decide⟩⟩ : Option (SlicePtr U8)),
      s.IsValid ∧ utf8Valid (bytesAt spawnArgsMem s.addr.val s.len.val) = true := by decide
  ⟨hname, (pspawn_config_decodes _ _ _ ⟨0⟩ (some ⟨⟨64, by decide⟩, by decide⟩) .default
    (some ⟨⟨4096, by decide⟩, by decide⟩) _ hname (by decide) (by decide)).1⟩

end SafaAbi.Process
