import SandboxNet.Tc.Handle

/-! # Queueing disciplines -/

namespace SandboxNet.Tc

/-- A queueing discipline attached to a link. -/
structure Qdisc where
  kind : String
  handle : Handle
  parent : Handle
  deriving DecidableEq, Repr

namespace Qdisc

/-- The interception point on the receive path of a link. -/
def ingress : Qdisc := ⟨"ingress", Handle.ingress, Handle.ingressParent⟩

/-- Whether a queueing discipline is of the ingress kind. -/
def isIngress (q : Qdisc) : Bool := q.kind == "ingress"

/-- Whether the kernel attached a queueing discipline on its own. -/
def isKernelDefault (q : Qdisc) : Bool := q.handle == Handle.unspecified

/-- Whether a queueing discipline hangs off the link itself. Any other one hangs off a class and
goes with the root of its tree. -/
def isTopLevel (q : Qdisc) : Bool :=
  q.parent == Handle.root || q.parent == Handle.ingressParent

/-- Whether a queueing discipline hangs off a class of the one with the given major number. -/
def hangsBelow (q : Qdisc) (major : UInt16) : Bool :=
  !q.isTopLevel && q.parent.major == major

end Qdisc

end SandboxNet.Tc
