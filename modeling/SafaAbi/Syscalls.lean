import SafaAbi.Scalar
/-!
# `SafaAbi.Syscalls` — the syscall numbers and their decoder

`SyscallTable` (`syscalls.rs`) is the `#[repr(u16)]` enum of the kernel's system calls, 47 variants
each with an explicit number. `TryFrom<u16>` checks `value < NEXT_SYSCALL_NUM` (`48`) and then
`transmute`s the value into the enum, which is sound only if every number below `48` belongs to a
variant. Every one does except `13`: `try_from(13)` passes the check and transmutes a `u16` that is
no discriminant of the enum, undefined behaviour, which `transmute` models as `none`.
-/
namespace SafaAbi.Syscalls

open SafaAbi.Scalar

/-! ## §1 — The table -/

/-- `SyscallTable`, one constructor per variant, in declaration order. -/
inductive SyscallTable
  | sysPExit | sysTYield | sysFSOpenAll | sysFSOpen | sysFSRemovePath | sysFDirIterOpen
  | sysRDestroy | sysDirIterClose | sysDirIterNext | sysIOWrite | sysIORead | sysIOPoll
  | sysFSCreate | sysFSCreateDir | sysIOSync | sysIOTruncate | sysIOCommand | sysRClone | sysFSize
  | sysFAttrs | sysFGetDirEntry | sysPCHDir | sysPGetCWD | sysPSbrk | sysPSpawn | sysTSpawn
  | sysTExit | sysTSleep | sysPWait | sysTWait | sysPTryCleanUp | sysTFutWait | sysTFutWake
  | sysShutdown | sysReboot | sysUptime | sysMemMap | sysMemShmCreate | sysMemShmOpen
  | sysSockCreate | sysSockBind | sysSockListen | sysSockAccept | sysSockConnect | sysSockSendTo
  | sysSockRecvFrom | sysVTTYAlloc
  deriving DecidableEq, Repr

namespace SyscallTable

/-- The declared discriminants. -/
def discr : SyscallTable → Nat
  | .sysPExit => 0 | .sysTYield => 1 | .sysFSOpenAll => 2 | .sysFSOpen => 25
  | .sysFSRemovePath => 28 | .sysFDirIterOpen => 8 | .sysRDestroy => 5 | .sysDirIterClose => 9
  | .sysDirIterNext => 10 | .sysIOWrite => 3 | .sysIORead => 4 | .sysIOPoll => 45
  | .sysFSCreate => 6 | .sysFSCreateDir => 7 | .sysIOSync => 16 | .sysIOTruncate => 17
  | .sysIOCommand => 12 | .sysRClone => 26 | .sysFSize => 22 | .sysFAttrs => 24
  | .sysFGetDirEntry => 23 | .sysPCHDir => 14 | .sysPGetCWD => 15 | .sysPSbrk => 18
  | .sysPSpawn => 19 | .sysTSpawn => 29 | .sysTExit => 30 | .sysTSleep => 31 | .sysPWait => 11
  | .sysTWait => 32 | .sysPTryCleanUp => 33 | .sysTFutWait => 34 | .sysTFutWake => 35
  | .sysShutdown => 20 | .sysReboot => 21 | .sysUptime => 27 | .sysMemMap => 36
  | .sysMemShmCreate => 42 | .sysMemShmOpen => 43 | .sysSockCreate => 37 | .sysSockBind => 38
  | .sysSockListen => 39 | .sysSockAccept => 40 | .sysSockConnect => 41 | .sysSockSendTo => 46
  | .sysSockRecvFrom => 47 | .sysVTTYAlloc => 44

/-- Every variant, in declaration order. -/
def all : List SyscallTable :=
  [.sysPExit, .sysTYield, .sysFSOpenAll, .sysFSOpen, .sysFSRemovePath, .sysFDirIterOpen,
   .sysRDestroy, .sysDirIterClose, .sysDirIterNext, .sysIOWrite, .sysIORead, .sysIOPoll,
   .sysFSCreate, .sysFSCreateDir, .sysIOSync, .sysIOTruncate, .sysIOCommand, .sysRClone, .sysFSize,
   .sysFAttrs, .sysFGetDirEntry, .sysPCHDir, .sysPGetCWD, .sysPSbrk, .sysPSpawn, .sysTSpawn,
   .sysTExit, .sysTSleep, .sysPWait, .sysTWait, .sysPTryCleanUp, .sysTFutWait, .sysTFutWake,
   .sysShutdown, .sysReboot, .sysUptime, .sysMemMap, .sysMemShmCreate, .sysMemShmOpen,
   .sysSockCreate, .sysSockBind, .sysSockListen, .sysSockAccept, .sysSockConnect, .sysSockSendTo,
   .sysSockRecvFrom, .sysVTTYAlloc]

/-- `NEXT_SYSCALL_NUM`: one past the numbers handed out so far. -/
def NEXT_SYSCALL_NUM : Nat := 48

/-! ## §2 — Decoding -/

/-- `core::mem::transmute::<u16, SyscallTable>(value)`: the variant whose discriminant is `value`,
and `none` when no variant has it, where the transmute is undefined behaviour. -/
def transmute (value : Nat) : Option SyscallTable := all.find? (·.discr == value)

/-- `TryFrom<u16> for SyscallTable`; `none` is the undefined behaviour of the transmute. -/
def tryFrom (value : U16) : Option (Except Unit SyscallTable) :=
  if value.val < NEXT_SYSCALL_NUM then (transmute value.val).map .ok else .some (.error ())

end SyscallTable

end SafaAbi.Syscalls
