import SandboxNet.Ipv4

/-! # Address plans

The index of a TAP device fixes its name and the subnet of its sandbox, `172.16.(index + 1).0/24`.
The third octet stops at 255, so the last two indices share a subnet.
-/

namespace SandboxNet

/-- What the names of all TAP devices start with. -/
def tapStem : String := "tap"

/-- What the names of the sandboxes' TAP devices end with. -/
def tapTail : String := "_urunc"

/-- The name of the TAP device with an index. -/
def tapName (index : Nat) : String :=
  tapStem ++ Text.digits 10 index ++ tapTail

/-- The name of a sandbox's device and the addresses at its two ends. -/
structure AddressPlan where
  tapName : String
  /-- The address of the device, which is the sandbox's gateway. -/
  tapAddr : Ipv4Net
  sandboxAddr : Ipv4Net
  deriving DecidableEq, Repr

namespace AddressPlan

/-- The third octet of the subnet of an index. -/
def octet (index : UInt8) : UInt8 :=
  if index = 255 then 255 else index + 1

def ofIndex (index : UInt8) : AddressPlan where
  tapName := SandboxNet.tapName index.toNat
  tapAddr := ⟨⟨172, 16, octet index, 1⟩, 24⟩
  sandboxAddr := ⟨⟨172, 16, octet index, 2⟩, 24⟩

/-- The plan of the static scheme. -/
def fixed : AddressPlan := ofIndex 0

/-- What stands between the stem and the tail of a device name. -/
def middle? (name : List Char) : Option (List Char) :=
  if tapStem.toList.isPrefixOf name then
    let rest := name.drop tapStem.length
    if tapTail.toList.isSuffixOf rest then some (rest.take (rest.length - tapTail.length))
    else none
  else none

/-- The plan behind a device name, whose middle must be a number of one byte. -/
def ofTapName? (name : String) : Option AddressPlan := do
  let middle ← middle? name.toList
  let index ← Text.unsigned? 10 0x100 middle
  return ofIndex (UInt8.ofNat index)

/-- The network of the sandbox. -/
def subnet (plan : AddressPlan) : Ipv4Net := plan.sandboxAddr.network

def sandboxIp (plan : AddressPlan) : String := plan.sandboxAddr.addr.text

def gatewayIp (plan : AddressPlan) : String := plan.tapAddr.addr.text

def mask (plan : AddressPlan) : String := plan.sandboxAddr.netmask.text

end AddressPlan

end SandboxNet
