import SandboxNet.Kernel.Run
import SandboxNet.Netns.Basic
import SandboxNet.Netns.Sweep

/-! # A namespace as a kernel

`Netns.perform` carries a call out; a call that cannot be carried out leaves no state at all, so a
failed call changes nothing. `Netns.kernel` puts the armed failure in front of it.
-/

namespace SandboxNet

namespace LinkRecord

/-- Gives a link an address; the first one is also the address that the link reports. -/
def addAddress (r : LinkRecord) (addr : Ipv4Net) : Except Error LinkRecord :=
  if addr ∈ r.extraAddrs then .error (.kernelOperation "add address" "file exists")
  else .ok { r with
    extraAddrs := r.extraAddrs ++ [addr]
    addrs := if r.addrs.ipv4.isNone then
        { r.addrs with ipv4 := some addr.addr, netmask := some addr.netmask }
      else r.addrs }

/-- Attaches a queueing discipline under a handle that is free. -/
def addQdisc (r : LinkRecord) (q : Tc.Qdisc) : Except Error LinkRecord :=
  if r.qdiscs.any (·.handle == q.handle) then .error (.kernelOperation "add qdisc" "file exists")
  else .ok { r with qdiscs := r.qdiscs ++ [q] }

/-- Deletes a queueing discipline, those below it, and the filters that an ingress one holds. -/
def delQdisc (r : LinkRecord) (q : Tc.Qdisc) : Except Error LinkRecord :=
  if q ∈ r.qdiscs then .ok { r with
    qdiscs := Tc.Qdisc.sweep [q.handle.major] (r.qdiscs.filter (· ≠ q))
    filters := if q.isIngress then r.filters.filter (·.parent ≠ Tc.Handle.ingress) else r.filters }
  else .error (.kernelOperation "del qdisc" "no such file or directory")

/-- Attaches a filter to a queueing discipline that is there. -/
def addFilter (r : LinkRecord) (f : Tc.Filter) : Except Error LinkRecord :=
  if r.qdiscs.any (·.handle == f.parent) then .ok { r with filters := r.filters ++ [f] }
  else .error (.kernelOperation "add filter" "parent qdisc does not exist")

/-- Deletes the filters with the parent and priority of the given one. -/
def delFilter (r : LinkRecord) (f : Tc.Filter) : LinkRecord :=
  { r with
    filters := r.filters.filter fun g => !(g.parent == f.parent && g.priority == f.priority) }

end LinkRecord

namespace Netns

/-- The record of a resolved link, or the error that the link is gone. -/
def resolve (s : Netns) (link : Link) : Except Error LinkRecord :=
  match s.record? link with
  | some r => .ok r
  | none => .error (.linkNotFound link.name)

/-- Changes the record of a resolved link. -/
def onLink (s : Netns) (link : Link) (change : LinkRecord → Except Error LinkRecord) :
    Except Error (Unit × Netns) := do
  let r ← s.resolve link
  let r ← change r
  return ((), { s with links := s.links.insert link.name r })

/-- What is stored under a new TAP device. -/
def device (s : Netns) (spec : TapSpec) : LinkRecord :=
  let index := s.nextIndex + 1
  let mac : Mac := ⟨#v[0x6e, 0x0f, 0x00, 0x00, 0x00, index.toUInt8]⟩
  ⟨⟨index, spec.name, spec.mtu.getD 1500⟩, false, some spec, ⟨some mac, none, none⟩, [], [], []⟩

/-- Creates a TAP device under a free name. -/
def addTap (s : Netns) (spec : TapSpec) : Except Error (Link × Netns) :=
  if s.links.contains spec.name then .error (.kernelOperation "add tap" "file exists")
  else
    let r := s.device spec
    .ok (r.link, { s with
      nextIndex := r.link.index
      links := s.links.insert spec.name r })

/-- Deletes the first masquerade rule equal to the given one. -/
def deleteNatRule (s : Netns) (rule : NatRule) : Except Error (Unit × Netns) :=
  if rule ∈ s.nat then .ok ((), { s with nat := s.nat.erase rule })
  else .error (.kernelOperation "delete nat rule" "bad rule")

/-- Carries a call out. -/
def perform : (request : Call) → Netns → Except Error (request.Answer × Netns)
  | .linkNames, s => .ok (s.links.names, s)
  | .linkByName name, s =>
      match s.links.get? name with
      | some r => .ok (r.link, s)
      | none => .error (.linkNotFound name)
  | .addTap spec, s => s.addTap spec
  | .setLinkUp link, s => s.onLink link fun r => .ok { r with up := true }
  | .addAddress link addr, s => s.onLink link (·.addAddress addr)
  | .deleteLink link, s => do
      let _ ← s.resolve link
      return ((), { s with links := s.links.erase link.name })
  | .qdiscs link, s => do
      let r ← s.resolve link
      return (r.qdiscs, s)
  | .addQdisc link q, s => s.onLink link (·.addQdisc q)
  | .delQdisc link q, s => s.onLink link (·.delQdisc q)
  | .filters link parent, s => do
      let r ← s.resolve link
      return (r.filters.filter (·.parent == parent), s)
  | .addFilter link f, s =>
      match f.redirectTo.filter (!s.links.contains ·) with
      | some target => .error (.linkNotFound target)
      | none => s.onLink link (·.addFilter f)
  | .delFilter link f, s => s.onLink link fun r => .ok (r.delFilter f)
  | .natRuleExists rule, s => .ok (s.nat.contains rule, s)
  | .appendNatRule rule, s => .ok ((), { s with nat := s.nat ++ [rule] })
  | .deleteNatRule rule, s => s.deleteNatRule rule
  | .ipv4Forwarding, s => .ok (s.forwarding, s)
  | .setIpv4Forwarding on, s => .ok ((), { s with forwarding := on })
  | .linkAddrs name, s =>
      match s.links.get? name with
      | some r => .ok (r.addrs, s)
      | none => .error (.noSuchInterface name)
  | .routes, s => .ok (s.routes, s)

/-- Whether a call meets the armed failure. -/
def isArmedFor (s : Netns) (request : Call) : Bool :=
  request.kind.isChange && s.failNext == some request.kind.name

/-- The kernel that a namespace is: an armed failure fires once, and any other call is carried out
or changes nothing. -/
def kernel : Kernel Netns where
  answer request s :=
    if s.isArmedFor request then
      (.error (.kernelOperation request.kind.name "operation not permitted"),
        { s with failNext := none })
    else match s.perform request with
      | .ok (answer, s) => (.ok answer, s)
      | .error e => (.error e, s)

end Netns

end SandboxNet
