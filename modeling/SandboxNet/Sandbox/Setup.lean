import SandboxNet.Duplex
import SandboxNet.Masquerade
import SandboxNet.Scheme
import SandboxNet.Tap
import SandboxNet.TapIndex
import SandboxNet.Uplink

/-! # Setting up a sandbox network

A setup makes the TAP device, addresses it, joins it to the physical interface, and answers what the
sandbox is to be told. It never takes anything back: after a failure, the cleanup reclaims what was
made.
-/

namespace SandboxNet

open Program Log

/-- How setups are done: the scheme, and how many queues a device has. -/
structure Strategy where
  scheme : Scheme
  queues : UInt32
  deriving DecidableEq, Repr

namespace Strategy

/-- The strategy of a scheme with one queue. -/
def ofScheme (scheme : Scheme) : Strategy := ⟨scheme, 1⟩

/-- The strategy of a scheme given by name. -/
def ofName (s : String) : Except Error Strategy :=
  (Scheme.ofName s).map ofScheme

/-- What a strategy is called. -/
def title : Scheme → String
  | .static => "StaticNetwork"
  | .dynamic => "DynamicNetwork"

/-- A strategy in diagnostics. -/
def text (strategy : Strategy) : String :=
  title strategy.scheme ++ " \x7b queues: " ++ Text.digits 10 strategy.queues.toNat ++ ", .. \x7d"

/-- Makes the device of a plan, addresses it and joins it to the physical link. -/
def wire (plan : AddressPlan) (queues : UInt32) (physical : Link) (uid gid : UInt32) :
    Program Link :=
  if 0x80000000 ≤ queues then
    fail (.invalidParameter ("queue count " ++ Text.digits 10 queues.toNat ++ " too large"))
  else do
    let tap ← Tap.create plan.tapName queues.toInt32 (some physical.mtu) uid gid
    ask (.addAddress tap plan.tapAddr)
    note .debug "Assigned TAP address"
      [("tap", .shown tap.name), ("addr", .shown plan.tapAddr.text)]
    Duplex.install physical tap
    return tap

/-- What a sandbox with the given plan is told, with the label and the hardware address that were
reported of the physical interface. -/
def descriptor (plan : AddressPlan) (uplink : Interface) : Descriptor where
  tapDevice := plan.tapName
  ethDevice := {
    ip := plan.sandboxIp
    defaultGateway := plan.gatewayIp
    mask := plan.mask
    interface := uplink.interface
    mac := uplink.mac }

/-- The address of a sandbox of the static scheme. -/
def staticIp : String := "172.16.1.2"

/-- The gateway of a sandbox of the static scheme. -/
def staticGatewayIp : String := "172.16.1.1"

/-- What a sandbox of the static scheme is told. Of the report on the physical interface it takes
over the hardware address alone. -/
def staticDescriptor (uplink : Interface) : Descriptor where
  tapDevice := AddressPlan.fixed.tapName
  ethDevice := {
    ip := staticIp
    defaultGateway := staticGatewayIp
    mask := AddressPlan.fixed.mask
    interface := Uplink.name
    mac := uplink.mac }

/-- A setup with the fixed subnet, which is masqueraded. -/
def setupStatic (queues uid gid : UInt32) : Program Descriptor := do
  Uplink.require
  let plan := AddressPlan.fixed
  let physical ← ask (.linkByName Uplink.name)
  let _ ← wire plan queues physical uid gid
  Masquerade.install Uplink.name plan.subnet
  let uplink ← Uplink.describe Uplink.name
  note .info "Static network ready"
    [("tap", .shown plan.tapName), ("sandbox_ip", .quoted staticIp)]
  return staticDescriptor uplink

/-- A setup with the subnet of the next index, which must be the first one. -/
def setupDynamic (queues uid gid : UInt32) : Program Descriptor := do
  Uplink.require
  let index ← TapIndex.next
  if 0 < index then fail .multipleSandboxes
  else
    let plan := AddressPlan.ofIndex (UInt8.ofNat index)
    let physical ← ask (.linkByName Uplink.name)
    let _ ← wire plan queues physical uid gid
    let uplink ← Uplink.describe Uplink.name
    note .info "Dynamic network ready"
      [("tap", .shown plan.tapName), ("sandbox_ip", .shown plan.sandboxIp)]
    return descriptor plan uplink

/-- Sets up the network of one sandbox, for the user and group that own it. -/
def setup (strategy : Strategy) (uid gid : UInt32) : Program Descriptor :=
  match strategy.scheme with
  | .static => setupStatic strategy.queues uid gid
  | .dynamic => setupDynamic strategy.queues uid gid

end Strategy

end SandboxNet
