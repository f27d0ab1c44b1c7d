import SandboxNet.Ipv4

/-! # Links and their addresses -/

namespace SandboxNet

/-- A hardware address. -/
structure Mac where
  bytes : Vector UInt8 6
  deriving DecidableEq, Repr

namespace Mac

/-- The address of a device that has none. -/
def zero : Mac := ⟨#v[0, 0, 0, 0, 0, 0]⟩

def byteText (b : UInt8) : String :=
  String.ofList [Nat.digitChar (b.toNat / 16), Nat.digitChar (b.toNat % 16)]

/-- The bytes in hexadecimal, with colons between them. -/
def text (mac : Mac) : String :=
  ":".intercalate (mac.bytes.toList.map byteText)

end Mac

/-- A resolved link of the host. -/
structure Link where
  index : UInt32
  name : String
  mtu : UInt32
  deriving DecidableEq, Repr

/-- What a new TAP device is to be. -/
structure TapSpec where
  name : String
  /-- How many queues are opened on the device. -/
  queues : UInt32
  /-- The MTU; none keeps the kernel's default. -/
  mtu : Option UInt32
  owner : UInt32
  group : UInt32
  deriving DecidableEq, Repr

/-- The hardware and IPv4 addressing of an interface. -/
structure LinkAddrs where
  mac : Option Mac
  ipv4 : Option Ipv4
  netmask : Option Ipv4
  deriving DecidableEq, Repr

/-- The addressing of an interface without any address. -/
def LinkAddrs.none : LinkAddrs := ⟨.none, .none, .none⟩

end SandboxNet
