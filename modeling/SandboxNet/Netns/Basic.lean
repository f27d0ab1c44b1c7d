import SandboxNet.Kernel.Call
import SandboxNet.NameMap

/-! # Network namespaces in memory

A namespace holds links with their addresses, queueing disciplines and filters, the masquerade
rules, the routes and the forwarding switch. A link takes the next index, which no later link takes
again.
-/

namespace SandboxNet

/-- A link and what is attached to it. -/
structure LinkRecord where
  link : Link
  up : Bool
  /-- What the link was created from, when it is a TAP device. -/
  tap : Option TapSpec
  addrs : LinkAddrs
  extraAddrs : List Ipv4Net
  qdiscs : List Tc.Qdisc
  filters : List Tc.Filter
  deriving DecidableEq, Repr

/-- The state of a network namespace. -/
structure Netns where
  links : NameMap LinkRecord
  nextIndex : UInt32
  nat : List NatRule
  forwarding : Bool
  routes : List Route
  /-- The name of the change that fails the next time it is asked for. A name that no change has is
  kept and fails nothing. -/
  failNext : Option String

namespace Netns

def empty : Netns := ⟨NameMap.empty, 0, [], false, [], none⟩

/-- Stores a link that is up, under a new index and over any link of that name. -/
def insertLink (s : Netns) (name : String) (mtu : UInt32) (addrs : LinkAddrs) : Netns :=
  let index := s.nextIndex + 1
  { s with
    nextIndex := index
    links := s.links.insert name ⟨⟨index, name, mtu⟩, true, none, addrs, [], [], []⟩ }

/-- The namespace with the loopback interface alone. -/
def loopback : Netns :=
  empty.insertLink "lo" 65536 ⟨none, some ⟨127, 0, 0, 1⟩, some ⟨255, 0, 0, 0⟩⟩

/-- The namespace with the loopback interface and a configured `eth0`. -/
def withEth0 : Netns :=
  { loopback.insertLink "eth0" 1500
      ⟨some ⟨#v[0x02, 0x42, 0xac, 0x11, 0x00, 0x02]⟩, some ⟨172, 17, 0, 2⟩,
        some ⟨255, 255, 0, 0⟩⟩ with
    routes := [
      ⟨"eth0", ⟨⟨0, 0, 0, 0⟩, ⟨0, by decide⟩⟩, some ⟨172, 17, 0, 1⟩⟩,
      ⟨"eth0", ⟨⟨172, 17, 0, 0⟩, ⟨16, by decide⟩⟩, none⟩] }

/-- The record of a resolved link, as long as that link is still there. -/
def record? (s : Netns) (link : Link) : Option LinkRecord :=
  (s.links.get? link.name).filter (·.link.index == link.index)

end Netns

end SandboxNet
