import SandboxNet.Tc.Handle

/-! # Filters -/

namespace SandboxNet.Tc

/-- A classifier that matches every packet, with the device it redirects to. -/
structure Filter where
  parent : Handle
  priority : UInt16
  /-- The link-layer protocol matched. -/
  protocol : String
  /-- The device packets go to, when the action is a redirect. -/
  redirectTo : Option String
  deriving DecidableEq, Repr

namespace Filter

/-- Sends everything that enters a link to `target`. -/
def redirect (target : String) : Filter :=
  ⟨Handle.ingress, 1, "all", some target⟩

/-- Whether a filter redirects to the device of the given name. -/
def redirectsTo (f : Filter) (name : String) : Bool :=
  f.redirectTo == some name

section

variable {f : Filter} {name : String} (target : String)

theorem redirectsTo_iff : f.redirectsTo name = true ↔ f.redirectTo = some name := beq_iff_eq

@[simp] theorem parent_redirect : (redirect target).parent = Handle.ingress := rfl

@[simp] theorem redirectTo_redirect : (redirect target).redirectTo = some target := rfl

@[simp] theorem redirectsTo_redirect : (redirect target).redirectsTo name = true ↔ target = name := by
  simp [redirectsTo_iff]

end

end Filter

end SandboxNet.Tc
