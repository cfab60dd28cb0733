import SafaAbi.Fs
/-!
# `SafaAbi.Sockets` — socket addresses and their bytes

A socket address crosses the syscall boundary as bytes (`sockets.rs`): a `#[repr(C)]` structure that
begins with a `u32` family word, handed over as a pointer and a length. `SocketAddr` is that first
word alone; the `unsafe trait ToSocketAddr` marks the structures of one family, whose family word is
`DOMAIN.0 as u32`.

The one computation of the module is `LocalSocketAddr::new_abstract_from`: it copies a name to the
front of a zeroed buffer and returns, with the address, the length the socket calls are to read. It
panics exactly on the names longer than `MAX_NAME_LENGTH`, as its documentation says, and otherwise
the length covers the family word and the name, nothing more (`new_abstract_from_encodes_name`).
`InetV4SocketAddr` stores its port `to_be`; its `as_bytes` hands out the two bytes of padding that
round its ten bytes up to twelve, which nothing writes.
-/

namespace SafaAbi.Sockets

open SafaAbi.Scalar SafaAbi.Fs

/-! ## §1 — Little-endian words as bytes -/

/-- The `k` low bytes of `v`, least significant first, as a little-endian store writes them. -/
def leBytes (v : Nat) : Nat → List U8
  | 0 => []
  | k + 1 => ⟨v % 256, Nat.mod_lt _ (by decide)⟩ :: leBytes (v / 256) k

/-- The bytes of `x` as a little-endian store writes them. -/
def toLE (x : UScalar ty) : List U8 := leBytes x.val (ty.numBits / 8)

/-! ## §2 — Families and the generic address -/

/-- `SockDomain`, `#[repr(transparent)]` over a `u8`. -/
structure SockDomain where
  bits : U8
  deriving DecidableEq, Repr

namespace SockDomain

/-- Unix domain sockets. -/
def LOCAL : SockDomain := ⟨0⟩

/-- The internet domain, IPv4. -/
def INETV4 : SockDomain := ⟨⟨1, by decide⟩⟩

end SockDomain

/-- `SocketAddr`, `#[repr(C)]`: the family word every address begins with. -/
structure SocketAddr where
  sinFamily : U32
  deriving DecidableEq, Repr

/-- `size_of::<SocketAddr>()`. -/
def SocketAddr.SIZE : Nat := 4

/-- `ToSocketAddr` (an `unsafe trait`): the address structures of one family. -/
class ToSocketAddr (T : Type) where
  DOMAIN : SockDomain

/-- `ToSocketAddr::FAMILY`, by its default `Self::DOMAIN.0 as u32`. -/
def FAMILY (T : Type) [ToSocketAddr T] : U32 := (ToSocketAddr.DOMAIN T).bits.cast .u32

/-! ## §3 — Local addresses -/

/-- `LocalSocketAddr`, `#[repr(C)]`: the family, then a name buffer of `MAX_NAME_LENGTH` bytes
(`132` bytes, no padding). -/
structure LocalSocketAddr where
  sinFamily : U32
  sinName : Mathlib.Vector U8 MAX_NAME_LENGTH
  deriving DecidableEq

namespace LocalSocketAddr

/-- `as_bytes`: the `size_of::<Self>()` bytes of the structure. -/
def asBytes (self : LocalSocketAddr) : List U8 := (toLE self.sinFamily) ++ self.sinName.toList

instance : ToSocketAddr LocalSocketAddr := ⟨.LOCAL⟩

/-- `new`. -/
def new (name : Mathlib.Vector U8 MAX_NAME_LENGTH) : LocalSocketAddr :=
  ⟨FAMILY LocalSocketAddr, name⟩

/-- `new_abstract_from`: the name copied to the front of a zeroed buffer (the range
`..name.len()` panics past `MAX_NAME_LENGTH`), and the length handed to the socket calls,
`name.len() + size_of::<SocketAddr>()`. -/
def newAbstractFrom (name : List U8) : Option (LocalSocketAddr × Usize) := do
  let bytes ← copyPrefix (Mathlib.Vector.replicate MAX_NAME_LENGTH 0) name.length name
  let len ← UScalar.ofNatChecked .usize (name.length + SocketAddr.SIZE)
  pure (⟨FAMILY LocalSocketAddr, bytes⟩, len)

theorem newAbstractFrom_of_le (name : List U8) (h : name.length ≤ MAX_NAME_LENGTH) :
    ∃ bytes : Mathlib.Vector U8 MAX_NAME_LENGTH,
      bytes.toList = name ++ List.replicate (MAX_NAME_LENGTH - name.length) 0 ∧
      ∃ hlen, newAbstractFrom name = .some (new bytes, ⟨name.length + SocketAddr.SIZE, hlen⟩) := by
  have hcopy := copyPrefix_of_length_eq (Mathlib.Vector.replicate MAX_NAME_LENGTH (0 : U8)) name h
  rw [Option.map_eq_some'] at hcopy
  obtain ⟨bytes, hbytes, htoList⟩ := hcopy
  have hlen : name.length + SocketAddr.SIZE < 2 ^ UTy.usize.numBits :=
    lt_of_le_of_lt (Nat.add_le_add_right h _) (by decide)
  refine ⟨bytes, by rw [htoList]; exact congrArg (name ++ ·) (List.drop_replicate _ _ _), hlen, ?_⟩
  simp only [newAbstractFrom, hbytes, UScalar.ofNatChecked_of_lt hlen]
  rfl

theorem newAbstractFrom_eq_none_iff (name : List U8) :
    newAbstractFrom name = .none ↔ MAX_NAME_LENGTH < name.length := by
  by_cases h : name.length ≤ MAX_NAME_LENGTH
  · obtain ⟨bytes, -, hlen, he⟩ := newAbstractFrom_of_le name h
    simp only [he, reduceCtorEq, false_iff]
    omega
  · have hnone : copyPrefix (Mathlib.Vector.replicate MAX_NAME_LENGTH (0 : U8)) name.length name =
        .none := (copyPrefix_eq_none_iff _ _ _).2 fun hc => h hc.1
    simp only [newAbstractFrom, hnone]
    exact ⟨fun _ => by omega, fun _ => rfl⟩

end LocalSocketAddr

/-! ## §4 — IPv4 addresses -/

/-- `core::net::Ipv4Addr`: its four octets, in network order. -/
structure Ipv4Addr where
  octets : Mathlib.Vector U8 4
  deriving DecidableEq

/-- `InetV4SocketAddr`, `#[repr(C)]`: the family at `0`, the port at `4`, the address at `6`, and,
the `u32` alignment rounding its ten bytes up to twelve, two bytes of padding at `10`. -/
structure InetV4SocketAddr where
  sinFamily : U32
  sinPort : U16
  sinAddr : Ipv4Addr
  deriving DecidableEq

namespace InetV4SocketAddr

/-- `as_bytes`: the `size_of::<Self>()` bytes of the structure; the padding is never written. -/
def asBytes (self : InetV4SocketAddr) : List (Option U8) :=
  ((toLE self.sinFamily) ++ (toLE self.sinPort) ++ self.sinAddr.octets.toList).map .some ++
    [.none, .none]

instance : ToSocketAddr InetV4SocketAddr := ⟨.INETV4⟩

/-- `new`: the port stored `to_be`. -/
def new (port : U16) (addr : Ipv4Addr) : InetV4SocketAddr :=
  ⟨FAMILY InetV4SocketAddr, port.toBe, addr⟩

/-- `ip`. -/
def ip (self : InetV4SocketAddr) : Ipv4Addr := self.sinAddr

/-- `port`: the stored port `from_be`. -/
def port (self : InetV4SocketAddr) : U16 := self.sinPort.fromBe

end InetV4SocketAddr

/-! ## §5 — What `new_abstract_from` guarantees -/

/-- **`new_abstract_from` encodes the name and its length.** It panics exactly on the names longer
than `MAX_NAME_LENGTH`, as documented. Otherwise it returns the local address made by `new` from the
name padded with zeros, and the length `name.len() + size_of::<SocketAddr>()`: the first that many
bytes of the address are the family word followed by the name, and every byte after them is zero. -/
theorem new_abstract_from_encodes_name :
    ∀ name : List U8,
      (LocalSocketAddr.newAbstractFrom name = .none ↔ MAX_NAME_LENGTH < name.length) ∧
      (name.length ≤ MAX_NAME_LENGTH →
        ∃ (a : LocalSocketAddr) (len : Usize), LocalSocketAddr.newAbstractFrom name = .some (a, len) ∧
          a = LocalSocketAddr.new a.sinName ∧ len.val = name.length + SocketAddr.SIZE ∧
          a.asBytes.take len.val = toLE (FAMILY LocalSocketAddr) ++ name ∧
          a.asBytes.drop len.val = List.replicate (MAX_NAME_LENGTH - name.length) 0) := by
  refine fun name => ⟨LocalSocketAddr.newAbstractFrom_eq_none_iff name, fun h => ?_⟩
  obtain ⟨bytes, hbytes, hlen, he⟩ := LocalSocketAddr.newAbstractFrom_of_le name h
  have hfam : (toLE (FAMILY LocalSocketAddr)).length = SocketAddr.SIZE := rfl
  refine ⟨_, _, he, rfl, rfl, ?_, ?_⟩
  · show (toLE (FAMILY LocalSocketAddr) ++ bytes.toList).take (name.length + SocketAddr.SIZE) = _
    rw [hbytes, Nat.add_comm, ← hfam, ← List.append_assoc, List.take_left' (by simp)]
  · show (toLE (FAMILY LocalSocketAddr) ++ bytes.toList).drop (name.length + SocketAddr.SIZE) = _
    rw [hbytes, Nat.add_comm, ← hfam, ← List.append_assoc, List.drop_left' (by simp)]

end SafaAbi.Sockets
