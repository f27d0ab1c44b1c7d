import SandboxNet.Error
import SandboxNet.Link
import SandboxNet.NatRule
import SandboxNet.Route
import SandboxNet.Tc.Filter
import SandboxNet.Tc.Qdisc

/-! # Kernel calls

Every piece of host state that a sandbox network touches is read and changed by one of these calls.
A call carries its arguments; `Call.Answer` is the type of what it answers when it succeeds.
-/

namespace SandboxNet

/-- A call without its arguments. -/
inductive CallKind where
  | linkNames
  | linkByName
  | addTap
  | setLinkUp
  | addAddress
  | deleteLink
  | qdiscs
  | addQdisc
  | delQdisc
  | filters
  | addFilter
  | delFilter
  | natRuleExists
  | appendNatRule
  | deleteNatRule
  | ipv4Forwarding
  | setIpv4Forwarding
  | linkAddrs
  | routes
  deriving DecidableEq, Repr

namespace CallKind

/-- The name of a call in error texts. -/
def name : CallKind → String
  | linkNames => "link_names"
  | linkByName => "link_by_name"
  | addTap => "add_tap"
  | setLinkUp => "set_link_up"
  | addAddress => "add_address"
  | deleteLink => "delete_link"
  | qdiscs => "qdiscs"
  | addQdisc => "add_qdisc"
  | delQdisc => "del_qdisc"
  | filters => "filters"
  | addFilter => "add_filter"
  | delFilter => "del_filter"
  | natRuleExists => "nat_rule_exists"
  | appendNatRule => "append_nat_rule"
  | deleteNatRule => "delete_nat_rule"
  | ipv4Forwarding => "ipv4_forwarding"
  | setIpv4Forwarding => "set_ipv4_forwarding"
  | linkAddrs => "link_addrs"
  | routes => "routes"

def all : List CallKind :=
  [linkNames, linkByName, addTap, setLinkUp, addAddress, deleteLink, qdiscs, addQdisc, delQdisc,
    filters, addFilter, delFilter, natRuleExists, appendNatRule, deleteNatRule, ipv4Forwarding,
    setIpv4Forwarding, linkAddrs, routes]

/-- The kind of call with the given name. -/
def ofName? (s : String) : Option CallKind :=
  all.find? fun kind => kind.name == s

/-- Whether a call may change something. -/
def isChange : CallKind → Bool
  | addTap | setLinkUp | addAddress | deleteLink | addQdisc | delQdisc | addFilter | delFilter
  | appendNatRule | deleteNatRule | setIpv4Forwarding => true
  | _ => false

end CallKind

/-- A call with its arguments. -/
inductive Call where
  | linkNames
  | linkByName (name : String)
  | addTap (spec : TapSpec)
  | setLinkUp (link : Link)
  | addAddress (link : Link) (addr : Ipv4Net)
  | deleteLink (link : Link)
  | qdiscs (link : Link)
  | addQdisc (link : Link) (qdisc : Tc.Qdisc)
  /-- Deletes a queueing discipline and what hangs below it. -/
  | delQdisc (link : Link) (qdisc : Tc.Qdisc)
  /-- The filters of a link under one parent. -/
  | filters (link : Link) (parent : Tc.Handle)
  | addFilter (link : Link) (filter : Tc.Filter)
  /-- Deletes the filters with the parent and priority of the given one. -/
  | delFilter (link : Link) (filter : Tc.Filter)
  | natRuleExists (rule : NatRule)
  | appendNatRule (rule : NatRule)
  | deleteNatRule (rule : NatRule)
  | ipv4Forwarding
  /-- Turns the forwarding of IPv4 packets on or off. -/
  | setIpv4Forwarding (on : Bool)
  | linkAddrs (name : String)
  | routes
  deriving DecidableEq, Repr

namespace Call

/-- What a call answers when it succeeds. -/
@[reducible] def Answer : Call → Type
  | linkNames => List String
  | linkByName _ => Link
  | addTap _ => Link
  | setLinkUp _ => Unit
  | addAddress _ _ => Unit
  | deleteLink _ => Unit
  | qdiscs _ => List Tc.Qdisc
  | addQdisc _ _ => Unit
  | delQdisc _ _ => Unit
  | filters _ _ => List Tc.Filter
  | addFilter _ _ => Unit
  | delFilter _ _ => Unit
  | natRuleExists _ => Bool
  | appendNatRule _ => Unit
  | deleteNatRule _ => Unit
  | ipv4Forwarding => Bool
  | setIpv4Forwarding _ => Unit
  | linkAddrs _ => LinkAddrs
  | routes => List Route

/-- A call without its arguments. -/
def kind : Call → CallKind
  | linkNames => .linkNames
  | linkByName _ => .linkByName
  | addTap _ => .addTap
  | setLinkUp _ => .setLinkUp
  | addAddress _ _ => .addAddress
  | deleteLink _ => .deleteLink
  | qdiscs _ => .qdiscs
  | addQdisc _ _ => .addQdisc
  | delQdisc _ _ => .delQdisc
  | filters _ _ => .filters
  | addFilter _ _ => .addFilter
  | delFilter _ _ => .delFilter
  | natRuleExists _ => .natRuleExists
  | appendNatRule _ => .appendNatRule
  | deleteNatRule _ => .deleteNatRule
  | ipv4Forwarding => .ipv4Forwarding
  | setIpv4Forwarding _ => .setIpv4Forwarding
  | linkAddrs _ => .linkAddrs
  | routes => .routes

def link? : Call → Option Link
  | setLinkUp link | addAddress link _ | deleteLink link | qdiscs link | addQdisc link _
  | delQdisc link _ | filters link _ | addFilter link _ | delFilter link _ => some link
  | _ => none

end Call

end SandboxNet
