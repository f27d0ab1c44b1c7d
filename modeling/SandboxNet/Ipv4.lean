import SandboxNet.Text.Number

/-! # IPv4 addresses and networks

An address is its four octets. A network is an address with the length of its leading part; the
address may have bits set beyond that length until `Ipv4Net.network` clears them.
-/

namespace SandboxNet

/-- An IPv4 address, most significant octet first. -/
structure Ipv4 where
  a : UInt8
  b : UInt8
  c : UInt8
  d : UInt8
  deriving DecidableEq, Repr

namespace Ipv4

/-- The address `0.0.0.0`, which stands for no address. -/
def unspecified : Ipv4 := ⟨0, 0, 0, 0⟩

/-- The bits that two addresses share, octet by octet. -/
def and (x y : Ipv4) : Ipv4 :=
  ⟨x.a &&& y.a, x.b &&& y.b, x.c &&& y.c, x.d &&& y.d⟩

/-- Dotted decimal notation. -/
def text (x : Ipv4) : String :=
  ".".intercalate ([x.a, x.b, x.c, x.d].map fun octet => Text.digits 10 octet.toNat)

/-- The address whose first octet is the least significant byte of a 32-bit word. -/
def ofLittleEndian (word : Nat) : Ipv4 :=
  ⟨UInt8.ofNat word, UInt8.ofNat (word / 0x100), UInt8.ofNat (word / 0x10000),
    UInt8.ofNat (word / 0x1000000)⟩

/-- Reads an address as the kernel's route table prints it: the hexadecimal of its four bytes taken
as a little-endian word. -/
def ofKernelHex? (cs : List Char) : Option Ipv4 :=
  (Text.unsigned? 16 0x100000000 cs).map ofLittleEndian

end Ipv4

/-- An address with the length of the network it is in. -/
structure Ipv4Net where
  addr : Ipv4
  len : Fin 33
  deriving DecidableEq, Repr

namespace Ipv4Net

/-- An octet whose `bits` leading bits are set, all of them from eight on. -/
def maskOctet (bits : Nat) : UInt8 :=
  UInt8.ofNat (0x100 - Nat.pow 2 (8 - bits))

/-- The mask of a network of the given length. -/
def maskOfLen (len : Fin 33) : Ipv4 :=
  ⟨maskOctet len, maskOctet (len - 8), maskOctet (len - 16), maskOctet (len - 24)⟩

/-- The length of the network with the given mask; none for a mask with a set bit after a clear
one. -/
def lenOfMask? (mask : Ipv4) : Option (Fin 33) :=
  (List.finRange 33).find? fun len => maskOfLen len == mask

def netmask (net : Ipv4Net) : Ipv4 :=
  maskOfLen net.len

/-- The network itself: every address bit beyond its length is cleared. -/
def network (net : Ipv4Net) : Ipv4Net :=
  { net with addr := net.addr.and net.netmask }

/-- Address and length, with a slash between them. -/
def text (net : Ipv4Net) : String :=
  net.addr.text ++ "/" ++ Text.digits 10 net.len

end Ipv4Net

end SandboxNet
