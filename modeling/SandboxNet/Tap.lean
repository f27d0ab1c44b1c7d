import SandboxNet.Kernel.Program

/-! # TAP devices

A TAP device is the host's end of a sandbox's network path. It belongs to the user of the sandbox,
who can then open its queues.
-/

namespace SandboxNet.Tap

open Program Log

/-- Creates a device and brings it up. It has at least one queue. -/
def create (name : String) (queues : Int32) (mtu : Option UInt32) (uid gid : UInt32) :
    Program Link :=
  if name = "" then fail (.invalidParameter "TAP device name must not be empty")
  else if queues < 0 then
    fail (.invalidParameter ("negative queue count " ++ toString queues.toInt ++ " for " ++ name))
  else do
    let spec : TapSpec := ⟨name, max queues.toUInt32 1, mtu, uid, gid⟩
    let link ← ask (.addTap spec)
    ask (.setLinkUp link)
    note .info "Created TAP device" [
      ("tap", .shown link.name), ("queues", .number spec.queues.toNat),
      ("mtu", .number link.mtu.toNat), ("uid", .number uid.toNat), ("gid", .number gid.toNat)]
    return link

/-- Deletes a device, which the caller must have resolved. -/
def delete : Option Link → Program Unit
  | none => fail .unresolvedDevice
  | some link => do
      ask (.deleteLink link)
      note .debug "Deleted TAP device" [("tap", .shown link.name)]

end SandboxNet.Tap
