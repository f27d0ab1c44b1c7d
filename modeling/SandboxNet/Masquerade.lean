import SandboxNet.Kernel.Program

/-! # Masquerading a subnet

The subnet of the static scheme is private to the host and leaves it under the host's address, which
needs a masquerade rule and the forwarding of packets.
-/

namespace SandboxNet.Masquerade

open Program Log

/-- Turns forwarding on if it is off. Nothing here turns it off again. -/
def enableForwarding : Program Unit := do
  if ← ask .ipv4Forwarding then return ()
  ask (.setIpv4Forwarding true)
  note .info "Enabled IPv4 forwarding" []

/-- Makes sure that there is a rule for a subnet and that packets are forwarded. -/
def install (outInterface : String) (subnet : Ipv4Net) : Program Unit := do
  let rule := NatRule.masquerade outInterface subnet
  if ← ask (.natRuleExists rule) then
    note .debug "NAT rule already present" [("rule", .shown rule.text)]
  else
    ask (.appendNatRule rule)
    note .info "Added NAT rule" [("rule", .shown rule.text)]
  enableForwarding

/-- Removes the rule for a subnet, and answers whether there was one. -/
def remove (outInterface : String) (subnet : Ipv4Net) : Program Bool := do
  let rule := NatRule.masquerade outInterface subnet
  if ← ask (.natRuleExists rule) then
    ask (.deleteNatRule rule)
    note .info "Removed NAT rule" [("rule", .shown rule.text)]
    return true
  else return false

end SandboxNet.Masquerade
