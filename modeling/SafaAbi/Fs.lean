import Mathlib.Data.Vector.Basic
import SafaAbi.Ffi.Str
/-!
# `SafaAbi.Fs` — the VFS structures: directory entries

`DirEntry` (`fs.rs`) keeps a name in a fixed buffer of `MAX_NAME_LENGTH` bytes, of which the first
`name_length` are used. `DirEntry::new` computes that length as `min(name.len(), MAX_NAME_LENGTH)`,
then writes the name with `name_bytes[..name_length].copy_from_slice(name.as_bytes())`; but
`copy_from_slice` panics unless its source and destination have the same length, and the source is
the whole name. A name of at most `MAX_NAME_LENGTH` bytes is stored as meant, its bytes followed by
zeros (`DirEntry.new_of_le`); a longer name is not truncated, the copy panics
(`DirEntry.new_eq_none_iff`). `dirEntry_new_long_name_panics` states both. (`OpenOptions`, the
flags of `fs.rs`, sits with the other flag types in `SafaAbi.Flags`.)
-/

namespace SafaAbi.Fs

open SafaAbi.Scalar SafaAbi.Ffi

/-- `consts::MAX_NAME_LENGTH`: the longest file or process name, in bytes. -/
def MAX_NAME_LENGTH : Nat := 128

/-! ## §1 — Writing a prefix of a fixed buffer -/

/-- `buf[..n].copy_from_slice(src)` on an array `buf`: the range `..n` panics past the end of `buf`,
and `copy_from_slice` panics unless `src` has exactly `n` elements; the elements from `n` on are
kept. -/
def copyPrefix (buf : Mathlib.Vector α k) (n : Nat) (src : List α) : Option (Mathlib.Vector α k) :=
  if h : n ≤ k ∧ src.length = n then
    .some ⟨src ++ buf.toList.drop n, by
      rw [List.length_append, List.length_drop, Mathlib.Vector.toList_length, h.2]; omega⟩
  else .none

theorem copyPrefix_of_length_eq (buf : Mathlib.Vector α k) (src : List α) (h : src.length ≤ k) :
    (copyPrefix buf src.length src).map Mathlib.Vector.toList =
      .some (src ++ buf.toList.drop src.length) := by
  simp [copyPrefix, h]

theorem copyPrefix_eq_none_iff (buf : Mathlib.Vector α k) (n : Nat) (src : List α) :
    copyPrefix buf n src = .none ↔ ¬(n ≤ k ∧ src.length = n) := by
  unfold copyPrefix; split_ifs with h <;> simp [h]

/-! ## §2 — Directory entries -/

/-- `FSObjectType`, `#[repr(u8)]`. -/
inductive FSObjectType
  | file | directory | device
  deriving DecidableEq, Repr

/-- `FileAttr`, `#[repr(C)]`. -/
structure FileAttr where
  kind : FSObjectType
  size : Usize
  deriving DecidableEq, Repr

/-- `FileAttr::new`. -/
def FileAttr.new (kind : FSObjectType) (size : Usize) : FileAttr := ⟨kind, size⟩

/-- `DirEntry`, `#[repr(C)]`: the name is a fixed `[u8; MAX_NAME_LENGTH]` buffer. -/
structure DirEntry where
  attrs : FileAttr
  nameLength : Usize
  name : Mathlib.Vector U8 MAX_NAME_LENGTH
  deriving DecidableEq

namespace DirEntry

/-- `DirEntry::new`, for the bytes of `name : &str`; `none` is the panic of `copy_from_slice`. -/
def new (name : List U8) (attrs : FileAttr) : Option DirEntry :=
  let nameLength : Usize :=
    ⟨min name.length MAX_NAME_LENGTH, lt_of_le_of_lt (min_le_right _ _) (by decide)⟩
  (copyPrefix (Mathlib.Vector.replicate MAX_NAME_LENGTH 0) nameLength.val name).map fun nameBytes =>
    ⟨attrs, nameLength, nameBytes⟩

/-- A name that fits is stored with its length, its bytes and then zeros. -/
theorem new_of_le (name : List U8) (attrs : FileAttr) (h : name.length ≤ MAX_NAME_LENGTH) :
    ∃ e, new name attrs = .some e ∧ e.attrs = attrs ∧ e.nameLength.val = name.length ∧
      e.name.toList = name ++ List.replicate (MAX_NAME_LENGTH - name.length) 0 := by
  have hcopy := copyPrefix_of_length_eq (Mathlib.Vector.replicate MAX_NAME_LENGTH (0 : U8)) name h
  rw [Option.map_eq_some'] at hcopy
  obtain ⟨nameBytes, hbytes, htoList⟩ := hcopy
  refine ⟨⟨attrs, ⟨name.length, ?_⟩, nameBytes⟩, ?_, rfl, rfl, ?_⟩
  · exact lt_of_le_of_lt h (by decide)
  · simp only [new, min_eq_left h, hbytes, Option.map_some']
  · rw [htoList]; exact congrArg (name ++ ·) (List.drop_replicate _ _ _)

/-- `new` panics exactly on the names longer than `MAX_NAME_LENGTH`. -/
theorem new_eq_none_iff (name : List U8) (attrs : FileAttr) :
    new name attrs = .none ↔ MAX_NAME_LENGTH < name.length := by
  simp only [new, Option.map_eq_none', copyPrefix_eq_none_iff]
  omega

end DirEntry

/-- **`DirEntry::new` stores a short name as meant, and panics on a long one.** For a name of at
most `MAX_NAME_LENGTH` bytes, `new` returns an entry with the attributes unchanged,
`name_length = min(name.len(), MAX_NAME_LENGTH)`, the name's first `name_length` bytes at the
front of the buffer and zeros after them; for every longer name the copy panics, among them the
valid `&str` of 129 ASCII letters. -/
theorem dirEntry_new_long_name_panics :
    (∀ (name : List U8) (attrs : FileAttr), name.length ≤ MAX_NAME_LENGTH →
      ∃ e, DirEntry.new name attrs = .some e ∧ e.attrs = attrs ∧
        e.nameLength.val = min name.length MAX_NAME_LENGTH ∧
        e.name.toList = name.take e.nameLength.val ++
          List.replicate (MAX_NAME_LENGTH - e.nameLength.val) 0) ∧
    (∀ (name : List U8) (attrs : FileAttr), MAX_NAME_LENGTH < name.length →
      DirEntry.new name attrs = .none) ∧
    utf8Valid (List.replicate 129 ⟨97, by decide⟩) = true ∧
      DirEntry.new (List.replicate 129 ⟨97, by decide⟩) (FileAttr.new .file 0) = .none := by
  refine ⟨fun name attrs h => ?_, fun name attrs h => (DirEntry.new_eq_none_iff name attrs).2 h, rfl,
    (DirEntry.new_eq_none_iff _ _).2 (by rw [List.length_replicate]; decide)⟩
  obtain ⟨e, he, hattrs, hlen, hname⟩ := DirEntry.new_of_le name attrs h
  exact ⟨e, he, hattrs, by rw [hlen, min_eq_left h], by rw [hname, hlen, List.take_length]⟩

end SafaAbi.Fs
