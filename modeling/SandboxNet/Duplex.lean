import SandboxNet.Kernel.Program

/-! # Full-duplex redirection

No bridge joins the physical interface and the TAP device. Each of the two links has an ingress
queueing discipline, and a filter there sends every packet to the other link. A filter can be
attached only where its queueing discipline is, so that one always comes first.
-/

namespace SandboxNet.Duplex

open Program Log Tc

/-- The link, which must be given for the purpose `what`. -/
def require (what : String) : Option Link → Program Link
  | some link => pure link
  | none => fail (.invalidParameter (what ++ " link is required"))

/-- Attaches the ingress queueing discipline to a link. -/
def addIngress (link : Option Link) : Program Unit := do
  let link ← require "ingress qdisc" link
  ask (.addQdisc link Qdisc.ingress)
  note .debug "Added ingress qdisc" [("link", .shown link.name)]

/-- Redirects everything that enters `source` to `target`. -/
def addRedirect (source target : Option Link) : Program Unit := do
  let source ← require "redirect source" source
  let target ← require "redirect target" target
  ask (.addFilter source (Filter.redirect target.name))
  note .info "Installed redirect filter"
    [("from", .shown source.name), ("to", .shown target.name)]

/-- Deletes the top-level queueing disciplines of a link that the kernel did not attach itself;
those below them go with them. -/
def deleteQdiscs (link : Option Link) : Program Unit := do
  let link ← require "qdisc cleanup" link
  let qdiscs ← ask (.qdiscs link)
  (qdiscs.filter fun q => !q.isKernelDefault && q.isTopLevel).forM fun q => do
    ask (.delQdisc link q)
    note .debug "Deleted qdisc" [
      ("link", .shown link.name), ("kind", .shown q.kind), ("handle", .shown q.handle.text)]

/-- Deletes every ingress filter of a link. -/
def deleteFilters (link : Option Link) : Program Unit := do
  let link ← require "filter cleanup" link
  let filters ← ask (.filters link Handle.ingress)
  filters.forM fun f => do
    ask (.delFilter link f)
    note .debug "Deleted filter"
      [("link", .shown link.name), ("priority", .number f.priority.toNat)]

/-- Deletes the ingress filters of a link that redirect to `target`, and answers how many of the
listed ones remain. -/
def deleteRedirectsTo (link : Link) (target : String) : Program Nat := do
  let filters ← ask (.filters link Handle.ingress)
  let redirects := filters.filter (·.redirectsTo target)
  redirects.forM fun f => do
    ask (.delFilter link f)
    note .debug "Deleted redirect filter" [
      ("link", .shown link.name), ("to", .quoted target), ("priority", .number f.priority.toNat)]
  return filters.length - redirects.length

/-- Joins two links in both directions, over whatever filters and queueing disciplines they had. -/
def install (physical tap : Link) : Program Unit := do
  deleteFilters physical
  deleteQdiscs physical
  deleteFilters tap
  deleteQdiscs tap
  addIngress physical
  addIngress tap
  addRedirect physical tap
  addRedirect tap physical

end SandboxNet.Duplex
