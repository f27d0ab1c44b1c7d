import SandboxNet.Proofs.Kernel.FailStop
import SandboxNet.Sandbox.Cleanup
import SandboxNet.Sandbox.Setup

/-! # The calls that operations make

Whatever the replies are, a setup creates no device but its own and deletes nothing, a cleanup
deletes links and creates none, and no queueing discipline is ever attached but the ingress one.
All operations but the cleanup stop at the first call that fails.
-/

namespace SandboxNet

open Program

namespace Call

/-- A call that changes nothing. -/
def Reading (request : Call) : Prop := request.kind.isChange = false

/-- A call that takes no link away. -/
def Sparing (request : Call) : Prop := request.kind ≠ .deleteLink

/-- A call that keeps the links there are, and that attaches no other queueing discipline than the
ingress one. -/
def Plain : Call → Prop
  | addTap _ | deleteLink _ => False
  | addQdisc _ q => q = Tc.Qdisc.ingress
  | _ => True

/-- A plain call, or the creation of a device of the given name. -/
def Creating (name : String) (request : Call) : Prop :=
  request.Plain ∨ ∃ spec, request = .addTap spec ∧ spec.name = name

/-- A plain call, or the deletion of a link. -/
def Deleting (request : Call) : Prop :=
  request.Plain ∨ ∃ link, request = .deleteLink link

/-- A call that attaches no other queueing discipline than the ingress one. -/
def Orderly (request : Call) : Prop := ∀ link q, request = .addQdisc link q → q = Tc.Qdisc.ingress

/-- A call about the filters of a link. -/
def OnFilters (link : Option Link) : Call → Prop
  | filters l _ | addFilter l _ | delFilter l _ => link = some l
  | _ => False

/-- A call about the queueing disciplines of a link, which attaches none but the ingress one. -/
def OnQdiscs (link : Option Link) : Call → Prop
  | qdiscs l | delQdisc l _ => link = some l
  | addQdisc l q => link = some l ∧ q = Tc.Qdisc.ingress
  | _ => False

/-- A call about the traffic control of some link. -/
def OnTraffic (request : Call) : Prop := ∃ link, request.OnFilters link ∨ request.OnQdiscs link

/-- A call that makes or readies a device of the given name. -/
def OnDevice (name : String) : Call → Prop
  | addTap spec => spec.name = name
  | setLinkUp _ | addAddress _ _ => True
  | _ => False

/-- A call towards a masquerade rule that is in the table and packets that are forwarded. -/
def Adopting (rule : NatRule) : Call → Prop
  | natRuleExists r | appendNatRule r => r = rule
  | ipv4Forwarding => True
  | setIpv4Forwarding on => on = true
  | _ => False

/-- A call towards a table without a masquerade rule. -/
def Dropping (rule : NatRule) : Call → Prop
  | natRuleExists r | deleteNatRule r => r = rule
  | _ => False

/-- A call of a setup. -/
inductive OfSetup (scheme : Scheme) (request : Call) : Prop where
  | reads (h : request.Reading)
  | device (h : request.OnDevice AddressPlan.fixed.tapName)
  | traffic (h : request.OnTraffic)
  | rule (static : scheme = .static)
      (h : request.Adopting (NatRule.masquerade Uplink.name AddressPlan.fixed.subnet))

/-- A call of a cleanup. -/
inductive OfCleanup (tap : String) (request : Call) : Prop where
  | reads (h : request.Reading)
  | traffic (h : request.OnTraffic)
  | rule {plan : AddressPlan} (found : AddressPlan.ofTapName? tap = some plan)
      (h : request.Dropping (NatRule.masquerade Uplink.name plan.subnet))
  | device {link : Link} (h : request = .deleteLink link)

variable {request : Call} {link : Option Link} {name : String} {rule : NatRule}

theorem OnFilters.traffic (h : request.OnFilters link) : request.OnTraffic := ⟨link, .inl h⟩

theorem OnQdiscs.traffic (h : request.OnQdiscs link) : request.OnTraffic := ⟨link, .inr h⟩

theorem Reading.plain (reads : request.Reading) : request.Plain := by
  cases request with
  | addTap | addQdisc | deleteLink => cases reads
  | _ => trivial

theorem OnTraffic.plain (h : request.OnTraffic) : request.Plain := by
  obtain ⟨link, filters | qdiscs⟩ := h
  · cases request with
    | filters | addFilter | delFilter => trivial
    | _ => exact filters.elim
  · cases request with
    | qdiscs | delQdisc => trivial
    | addQdisc => exact qdiscs.2
    | _ => exact qdiscs.elim

theorem Adopting.plain (h : request.Adopting rule) : request.Plain := by
  cases request with
  | addTap | addQdisc | deleteLink => exact h.elim
  | _ => trivial

theorem Dropping.plain (h : request.Dropping rule) : request.Plain := by
  cases request with
  | addTap | addQdisc | deleteLink => exact h.elim
  | _ => trivial

theorem OnDevice.creating (h : request.OnDevice name) : request.Creating name := by
  cases request with
  | addTap spec => exact .inr ⟨spec, rfl, h⟩
  | setLinkUp | addAddress => exact .inl trivial
  | _ => exact h.elim

theorem OfSetup.creating {scheme : Scheme} (h : request.OfSetup scheme) :
    request.Creating AddressPlan.fixed.tapName := by
  cases h with
  | reads h => exact .inl h.plain
  | device h => exact h.creating
  | traffic h => exact .inl h.plain
  | rule _ h => exact .inl h.plain

theorem OfCleanup.deleting {tap : String} (h : request.OfCleanup tap) : request.Deleting := by
  cases h with
  | reads h => exact .inl h.plain
  | traffic h => exact .inl h.plain
  | rule _ h => exact .inl h.plain
  | device h => exact .inr ⟨_, h⟩

theorem Plain.sparing (plain : request.Plain) : request.Sparing := by
  cases request with
  | deleteLink => exact absurd plain id
  | _ => nofun

theorem Plain.orderly (plain : request.Plain) : request.Orderly := by
  rintro link q rfl
  exact plain

theorem Creating.sparing (h : request.Creating name) : request.Sparing := by
  rcases h with plain | ⟨spec, rfl, _⟩
  · exact plain.sparing
  · nofun

theorem Creating.orderly (h : request.Creating name) : request.Orderly := by
  rcases h with plain | ⟨spec, rfl, _⟩
  · exact plain.orderly
  · nofun

theorem Deleting.orderly (h : request.Deleting) : request.Orderly := by
  rcases h with plain | ⟨link, rfl⟩
  · exact plain.orderly
  · nofun

end Call

open Call

namespace Duplex

theorem failStop_require {α : Type} {P : Call → Prop} {what : String} {link : Option Link}
    {f : Link → Program α} (rest : ∀ l, link = some l → (f l).FailStop P) :
    (require what link >>= f).FailStop P := by
  cases link with
  | none => trivial
  | some l => exact rest l rfl

theorem failStop_deleteFilters_of {P : Call → Prop} {link : Option Link}
    (lists : ∀ l, link = some l → P (.filters l Tc.Handle.ingress))
    (deletes : ∀ l f, link = some l → P (.delFilter l f)) : (deleteFilters link).FailStop P := by
  apply failStop_require
  intro l given
  refine FailStop.bind (FailStop.ask (lists l given)) fun filters => FailStop.forM fun f => ?_
  exact FailStop.bind (FailStop.ask (deletes l f given)) fun _ => FailStop.note _ _ _

theorem failStop_deleteQdiscs_of {P : Call → Prop} {link : Option Link}
    (lists : ∀ l, link = some l → P (.qdiscs l))
    (deletes : ∀ l q, link = some l → P (.delQdisc l q)) : (deleteQdiscs link).FailStop P := by
  apply failStop_require
  intro l given
  refine FailStop.bind (FailStop.ask (lists l given)) fun qdiscs => FailStop.forM fun q => ?_
  exact FailStop.bind (FailStop.ask (deletes l q given)) fun _ => FailStop.note _ _ _

theorem failStop_deleteFilters (link : Option Link) : (deleteFilters link).FailStop (OnFilters link) :=
  failStop_deleteFilters_of (fun _ given => given) fun _ _ given => given

theorem failStop_deleteQdiscs (link : Option Link) : (deleteQdiscs link).FailStop (OnQdiscs link) :=
  failStop_deleteQdiscs_of (fun _ given => given) fun _ _ given => given

theorem failStop_deleteRedirectsTo (link : Link) (target : String) :
    (deleteRedirectsTo link target).FailStop (OnFilters (some link)) := by
  refine FailStop.bind (FailStop.ask ?_) fun filters => ?_
  · exact rfl
  refine FailStop.bind (FailStop.forM fun f => ?_) fun _ => FailStop.pure _
  refine FailStop.bind (FailStop.ask ?_) fun _ => FailStop.note _ _ _
  exact rfl

theorem failStop_addIngress (link : Option Link) : (addIngress link).FailStop (OnQdiscs link) := by
  apply failStop_require
  intro l given
  refine FailStop.bind (FailStop.ask ?_) fun _ => FailStop.note _ _ _
  exact ⟨given, rfl⟩

theorem failStop_addRedirect (source target : Option Link) :
    (addRedirect source target).FailStop (OnFilters source) := by
  apply failStop_require
  intro l given
  apply failStop_require
  intro _ _
  refine FailStop.bind (FailStop.ask ?_) fun _ => FailStop.note _ _ _
  exact given

theorem failStop_install (physical tap : Link) : (install physical tap).FailStop OnTraffic := by
  have filters : ∀ link, (deleteFilters (some link)).FailStop OnTraffic := fun link =>
    (failStop_deleteFilters link).mono fun _ => OnFilters.traffic
  have qdiscs : ∀ link, (deleteQdiscs (some link)).FailStop OnTraffic := fun link =>
    (failStop_deleteQdiscs link).mono fun _ => OnQdiscs.traffic
  have ingress : ∀ link, (addIngress (some link)).FailStop OnTraffic := fun link =>
    (failStop_addIngress link).mono fun _ => OnQdiscs.traffic
  have redirect : ∀ source target : Link, (addRedirect source target).FailStop OnTraffic :=
    fun source target => (failStop_addRedirect source target).mono fun _ => OnFilters.traffic
  refine FailStop.bind (filters physical) fun _ => FailStop.bind (qdiscs physical) fun _ => ?_
  refine FailStop.bind (filters tap) fun _ => FailStop.bind (qdiscs tap) fun _ => ?_
  refine FailStop.bind (ingress physical) fun _ => FailStop.bind (ingress tap) fun _ => ?_
  exact FailStop.bind (redirect physical tap) fun _ => redirect tap physical

end Duplex

namespace Masquerade

variable {rule : NatRule}

theorem failStop_enableForwarding : enableForwarding.FailStop (Adopting rule) := by
  refine FailStop.bind (FailStop.ask trivial) fun on => ?_
  cases on with
  | true => exact FailStop.pure ()
  | false =>
      refine FailStop.bind (FailStop.ask ?_) fun _ => FailStop.note _ _ _
      exact rfl

theorem failStop_install (outInterface : String) (subnet : Ipv4Net) :
    (install outInterface subnet).FailStop (Adopting (NatRule.masquerade outInterface subnet)) := by
  refine FailStop.bind (FailStop.ask ?_) fun present => ?_
  · exact rfl
  cases present with
  | true => exact failStop_enableForwarding
  | false =>
      refine FailStop.bind (FailStop.ask ?_) fun _ => FailStop.bind (FailStop.note _ _ _) fun _ => ?_
      · exact rfl
      · exact failStop_enableForwarding

theorem failStop_remove (outInterface : String) (subnet : Ipv4Net) :
    (remove outInterface subnet).FailStop (Dropping (NatRule.masquerade outInterface subnet)) := by
  refine FailStop.bind (FailStop.ask ?_) fun present => ?_
  · exact rfl
  cases present with
  | true =>
      refine FailStop.bind (FailStop.ask ?_) fun _ => FailStop.bind (FailStop.note _ _ _) fun _ => ?_
      · exact rfl
      · exact FailStop.pure true
  | false => exact FailStop.pure false

end Masquerade

namespace Uplink

theorem failStop_require : require.FailStop Reading := by
  apply FailStop.bind (FailStop.ask (show Reading .linkNames from rfl))
  intro names
  split
  · exact FailStop.pure ()
  · exact FailStop.fail _

theorem failStop_present {α : Type} {P : Call → Prop} (interface : String)
    (missing : MissingAttribute) (value : Option α) :
    (present interface missing value).FailStop P := by
  cases value with
  | none => exact FailStop.fail _
  | some value => exact FailStop.pure value

theorem failStop_describe_of {P : Call → Prop} {interface : String}
    (addresses : P (.linkAddrs interface)) (table : P .routes) :
    (describe interface).FailStop P := by
  apply FailStop.bind (FailStop.ask addresses)
  intro addrs
  apply FailStop.bind (failStop_present _ _ _)
  intro mac
  apply FailStop.bind (failStop_present _ _ _)
  intro mask
  apply FailStop.bind (failStop_present _ _ _)
  intro ip
  apply FailStop.bind (FailStop.ask table)
  intro routes
  exact FailStop.bind (FailStop.note _ _ _) fun _ => FailStop.pure _

theorem failStop_describe (interface : String) : (describe interface).FailStop Reading :=
  failStop_describe_of rfl rfl

end Uplink

namespace TapIndex

theorem failStop_next : next.FailStop Reading := by
  apply FailStop.bind (FailStop.ask (show Reading .linkNames from rfl))
  intro names
  show (if highest < count names then _ else _ : Program Nat).FailStop _
  split
  · exact FailStop.fail _
  · exact trivial

end TapIndex

namespace Tap

theorem failStop_create (name : String) (queues : Int32) (mtu : Option UInt32) (uid gid : UInt32) :
    (create name queues mtu uid gid).FailStop (OnDevice name) := by
  rw [create]
  split
  · exact FailStop.fail _
  split
  · exact FailStop.fail _
  · refine FailStop.bind (FailStop.ask ?_) fun link => FailStop.bind (FailStop.ask ?_) fun _ => ?_
    · exact rfl
    · trivial
    · exact FailStop.bind (FailStop.note _ _ _) fun _ => FailStop.pure link

theorem failStop_delete (link : Option Link) :
    (delete link).FailStop fun request => ∃ link, request = .deleteLink link := by
  cases link with
  | none => exact FailStop.fail _
  | some link => exact FailStop.bind (FailStop.ask ⟨link, rfl⟩) fun _ => FailStop.note _ _ _

end Tap

namespace Strategy

theorem failStop_wire (plan : AddressPlan) (queues : UInt32) (physical : Link) (uid gid : UInt32) :
    (wire plan queues physical uid gid).FailStop fun request =>
      request.OnDevice plan.tapName ∨ request.OnTraffic := by
  rw [wire]
  split
  · exact FailStop.fail _
  · apply FailStop.bind ((Tap.failStop_create _ _ _ _ _).mono fun _ => .inl)
    intro tap
    refine FailStop.bind (FailStop.ask (.inl trivial)) fun _ => ?_
    refine FailStop.bind (FailStop.note _ _ _) fun _ => ?_
    exact FailStop.bind ((Duplex.failStop_install physical tap).mono fun _ => .inr) fun _ =>
      FailStop.pure tap

theorem failStop_setup (strategy : Strategy) (uid gid : UInt32) :
    (strategy.setup uid gid).FailStop (OfSetup strategy.scheme) := by
  obtain ⟨scheme, queues⟩ := strategy
  have wires : ∀ physical, (wire AddressPlan.fixed queues physical uid gid).FailStop (OfSetup scheme) :=
    fun physical => (failStop_wire _ _ physical _ _).mono fun _ either => either.elim .device .traffic
  have describes : (Uplink.describe Uplink.name).FailStop (OfSetup scheme) :=
    (Uplink.failStop_describe Uplink.name).mono fun _ => .reads
  cases scheme with
  | static =>
      refine FailStop.bind (Uplink.failStop_require.mono fun _ => .reads) fun _ => ?_
      apply FailStop.bind (FailStop.ask (.reads rfl))
      intro physical
      refine FailStop.bind (wires physical) fun _ => ?_
      refine FailStop.bind ((Masquerade.failStop_install _ _).mono fun _ => .rule rfl) fun _ => ?_
      apply FailStop.bind describes
      intro uplink
      exact FailStop.bind (FailStop.note _ _ _) fun _ => FailStop.pure _
  | dynamic =>
      refine FailStop.bind (Uplink.failStop_require.mono fun _ => .reads) fun _ => ?_
      apply FailStop.bind (TapIndex.failStop_next.mono fun _ => .reads)
      intro index
      split
      · exact FailStop.fail _
      · next alone =>
          -- Any other index than zero was refused, so this device is the fixed one.
          obtain rfl : index = 0 := by omega
          apply FailStop.bind (FailStop.ask (.reads rfl))
          intro physical
          refine FailStop.bind (wires physical) fun _ => ?_
          apply FailStop.bind describes
          intro uplink
          exact FailStop.bind (FailStop.note _ _ _) fun _ => FailStop.pure _

theorem asks_setup (strategy : Strategy) (uid gid : UInt32) :
    (strategy.setup uid gid).Asks (Creating AddressPlan.fixed.tapName) :=
  (strategy.failStop_setup uid gid).asks.mono fun _ => OfSetup.creating

end Strategy

namespace Cleanup

theorem asks_tolerate {α : Type} {P : Call → Prop} {step : Program α} (message : String)
    (fields : List (String × Log.Value)) (h : step.Asks P) : (tolerate step message fields).Asks P := by
  apply Asks.bind h.attempt
  intro outcome
  cases outcome with
  | ok _ => exact Asks.pure ()
  | error e => exact Asks.note _ _ _

theorem asks_deleteIngress (physical : Link) :
    (deleteIngress physical).Asks (OnQdiscs (some physical)) := by
  refine Asks.bind (Asks.ask ?_) fun qdiscs => Asks.forM fun q => Asks.ask ?_
  · exact rfl
  · exact rfl

theorem asks_releasePhysical (physical : Link) (tap : String) :
    (releasePhysical physical tap).Asks OnTraffic := by
  have deletes := (asks_deleteIngress physical).mono fun _ => OnQdiscs.traffic
  have redirects := (Duplex.failStop_deleteRedirectsTo physical tap).asks.mono fun _ =>
    OnFilters.traffic
  apply Asks.bind redirects.attempt
  intro outcome
  cases outcome with
  | error e => exact Asks.note _ _ _
  | ok remaining =>
      show (if 0 < remaining then _ else _ : Program Unit).Asks _
      split
      · exact Asks.note _ _ _
      · exact asks_tolerate _ _ deletes

theorem asks_releaseSubnet (tap : String) : (releaseSubnet tap).Asks fun request =>
    ∃ plan, AddressPlan.ofTapName? tap = some plan ∧
      request.Dropping (NatRule.masquerade Uplink.name plan.subnet) := by
  rw [releaseSubnet]
  split
  · next plan found =>
      exact asks_tolerate _ _ ((Masquerade.failStop_remove _ _).asks.mono fun _ drops =>
        ⟨plan, found, drops⟩)
  · exact Asks.pure ()

theorem asks_calls (tap : String) : (run tap).Asks (OfCleanup tap) := by
  rw [run]
  split
  · exact Asks.fail _
  apply Asks.bind (Asks.ask (.reads rfl))
  intro link
  refine Asks.bind (asks_tolerate _ _ ((Duplex.failStop_deleteFilters _).asks.mono fun _ h =>
    .traffic h.traffic)) fun _ => ?_
  refine Asks.bind (asks_tolerate _ _ ((Duplex.failStop_deleteQdiscs _).asks.mono fun _ h =>
    .traffic h.traffic)) fun _ => ?_
  apply Asks.bind (Asks.attempt (Asks.ask (.reads rfl)))
  intro found
  have rest : (do
      releaseSubnet tap
      Tap.delete (some link)
      note .info "Sandbox network removed" [("tap", .quoted tap)] : Program Unit).Asks
        (OfCleanup tap) := by
    refine Asks.bind ((asks_releaseSubnet tap).mono fun _ => ?_) fun _ => ?_
    · rintro ⟨plan, found, drops⟩
      exact .rule found drops
    · refine Asks.bind ((Tap.failStop_delete link).asks.mono fun _ => ?_) fun _ => Asks.note _ _ _
      rintro ⟨link, deletes⟩
      exact .device deletes
  cases found with
  | ok physical =>
      exact Asks.bind ((asks_releasePhysical physical tap).mono fun _ => .traffic) fun _ => rest
  | error e => exact Asks.bind (Asks.note _ _ _) fun _ => rest

theorem asks_run (tap : String) : (run tap).Asks Deleting :=
  (asks_calls tap).mono fun _ => OfCleanup.deleting

end Cleanup

end SandboxNet
