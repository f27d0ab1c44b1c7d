import SandboxNet.Ipv4

/-! # Masquerade rules

A rule of the `nat` table that gives the packets of a private network the address of the interface
they leave by.
-/

namespace SandboxNet

/-- Gives packets from `source` that leave by `outInterface` a new source address. -/
structure NatRule where
  outInterface : String
  source : Ipv4Net
  deriving DecidableEq, Repr

namespace NatRule

def table : String := "nat"

/-- The chain of the table that holds the rules. -/
def chain : String := "POSTROUTING"

/-- The rule for the network that `net` lies in. -/
def masquerade (outInterface : String) (net : Ipv4Net) : NatRule :=
  ⟨outInterface, net.network⟩

/-- The arguments that follow the name of the chain. -/
def spec (rule : NatRule) : List String :=
  ["-s", rule.source.text, "-o", rule.outInterface, "-j", "MASQUERADE"]

/-- The rule as arguments that append it. -/
def text (rule : NatRule) : String :=
  " ".intercalate (["-t", table, "-A", chain] ++ rule.spec)

end NatRule

end SandboxNet
