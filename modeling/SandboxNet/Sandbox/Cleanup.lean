import SandboxNet.Duplex
import SandboxNet.Masquerade
import SandboxNet.Plan
import SandboxNet.Tap
import SandboxNet.Uplink

/-! # Tearing a sandbox network down

Filters, queueing disciplines and the masquerade rule are removed as far as they can be, and what
fails there is only logged. The device goes last, and its deletion alone decides the outcome.
-/

namespace SandboxNet.Cleanup

open Program Log

/-- Runs a step whose failure is logged as a warning and ends nothing. -/
def tolerate {α : Type} (step : Program α) (message : String) (fields : List (String × Value)) :
    Program Unit := do
  match ← step.attempt with
  | .ok _ => return ()
  | .error e => note .warn message (fields ++ [("error", .shown e.message)])

/-- Deletes the ingress queueing disciplines of a link. -/
def deleteIngress (link : Link) : Program Unit := do
  let qdiscs ← ask (.qdiscs link)
  (qdiscs.filter (·.isIngress)).forM fun q => ask (.delQdisc link q)

/-- Deletes the redirects from the physical link to the device, and then the ingress queueing
discipline if no filter is left on it. -/
def releasePhysical (physical : Link) (tap : String) : Program Unit := do
  match ← (Duplex.deleteRedirectsTo physical tap).attempt with
  | .error e =>
      note .warn "Failed to delete redirect filters"
        [("link", .shown physical.name), ("error", .shown e.message)]
  | .ok remaining =>
      if 0 < remaining then
        note .debug "Keeping ingress qdisc in use"
          [("link", .shown physical.name), ("remaining", .number remaining)]
      else
        tolerate (deleteIngress physical) "Failed to delete ingress qdisc"
          [("link", .shown physical.name)]

/-- Removes the masquerade rule of the subnet that a device name stands for, if it stands for
one. -/
def releaseSubnet (tap : String) : Program Unit :=
  match AddressPlan.ofTapName? tap with
  | some plan =>
      tolerate (Masquerade.remove Uplink.name plan.subnet) "Failed to remove NAT rule"
        [("tap", .quoted tap)]
  | none => pure ()

/-- Tears down the sandbox network behind a device. The physical interface is refused. -/
def run (tap : String) : Program Unit :=
  if tap = Uplink.name then
    fail (.invalidParameter ("refusing to clean up physical interface " ++ tap))
  else do
    let link ← ask (.linkByName tap)
    tolerate (Duplex.deleteFilters link) "Failed to delete TAP filters" [("tap", .quoted tap)]
    tolerate (Duplex.deleteQdiscs link) "Failed to delete TAP qdiscs" [("tap", .quoted tap)]
    match ← (ask (.linkByName Uplink.name)).attempt with
    | .ok physical => releasePhysical physical tap
    | .error e => note .debug "Skipping physical interface rules" [("error", .shown e.message)]
    releaseSubnet tap
    Tap.delete link
    note .info "Sandbox network removed" [("tap", .quoted tap)]

end SandboxNet.Cleanup
