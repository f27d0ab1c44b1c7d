import SandboxNet.Interface
import SandboxNet.Kernel.Program

/-! # The physical interface

Every sandbox is joined to one physical interface, whose addressing can be reported.
-/

namespace SandboxNet.Uplink

open Program Log

def name : String := "eth0"

/-- Fails unless the physical interface exists. -/
def require : Program Unit := do
  if name ∈ (← ask .linkNames) then return ()
  else fail (.deviceNotFound name)

/-- The value of an attribute that an interface must have. -/
def present {α : Type} (interface : String) (missing : MissingAttribute) :
    Option α → Program α
  | some value => pure value
  | none => fail (.introspection interface missing)

/-- The gateway of the first default route through an interface. -/
def gatewayOf (interface : String) (routes : List Route) : Option Ipv4 :=
  (routes.find? fun r => r.interface == interface && r.isDefault).bind (·.gateway)

/-- An optional gateway in a log line. -/
def gatewayText : Option Ipv4 → String
  | some gateway => "Some(" ++ gateway.text ++ ")"
  | none => "None"

/-- Reports the addressing of an interface. The report is labelled with the physical interface,
whichever one was asked for, and has no gateway if there is no default route. -/
def describe (interface : String) : Program Interface := do
  let addrs ← ask (.linkAddrs interface)
  let mac ← present interface .mac addrs.mac
  let mask ← present interface .mask addrs.netmask
  let ip ← present interface .ipv4 addrs.ipv4
  let gateway := gatewayOf interface (← ask .routes)
  note .debug "Introspected interface" [
    ("iface", .quoted interface), ("ip", .shown ip.text), ("mask", .shown mask.text),
    ("gateway", .shown (gatewayText gateway))]
  return {
    ip := ip.text
    defaultGateway := (gateway.map Ipv4.text).getD ""
    mask := mask.text
    interface := name
    mac := mac.text }

end SandboxNet.Uplink
