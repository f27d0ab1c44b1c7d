import SandboxNet.Proofs.Masquerade
import SandboxNet.Proofs.Sandbox.Wire

/-! # Setups

A setup of either scheme ends before it has a device, with the namespace as it was, or after, with
the partial work that `Strategy.Built` describes. Only a setup that answers a descriptor has done
all of it.
-/

namespace SandboxNet

open Program LinkRecord Netns

/-- A setup that is asked for. -/
structure Order where
  strategy : Strategy
  uid : UInt32
  gid : UInt32

/-- What carries an order out. -/
def Order.program (order : Order) : Program Descriptor := order.strategy.setup order.uid order.gid

/-- The masquerade rule of the sandbox. -/
def sandboxRule : NatRule := NatRule.masquerade Uplink.name AddressPlan.fixed.subnet

namespace Scheme

/-- The masquerade rules that a setup leaves. -/
def rules : Scheme → List NatRule → List NatRule
  | .static, rules => Masquerade.adopt sandboxRule rules
  | .dynamic, rules => rules

/-- Whether packets are forwarded after a setup. -/
def forwards : Scheme → Bool → Bool
  | .static, _ => true
  | .dynamic, on => on

theorem forwards_eq_or (scheme : Scheme) (on : Bool) :
    scheme.forwards on = (on || decide (scheme = .static)) := by
  cases scheme <;> simp [forwards]

theorem erase_rules {rules : List NatRule} (once : rules.count sandboxRule ≤ 1) (scheme : Scheme) :
    (scheme.rules rules).erase sandboxRule = rules.filter (· ≠ sandboxRule) := by
  cases scheme with
  | static => exact Masquerade.erase_adopt once
  | dynamic => exact Masquerade.erase_of_count_le_one once

end Scheme

/-- A link that sends everything that enters it to `target`: its one queueing discipline of the handle
`ffff:` is the ingress one, and the one filter there redirects to `target`. -/
structure LinkRecord.Redirecting (r : LinkRecord) (target : String) : Prop where
  ingress : r.qdiscs.filter (·.handle == ⟨0xffff, 0⟩) =
    [⟨"ingress", ⟨0xffff, 0⟩, ⟨0xffff, 0xfff1⟩⟩]
  filters : r.filters.filter (·.parent == ⟨0xffff, 0⟩) = [⟨⟨0xffff, 0⟩, 1, "all", some target⟩]

theorem LinkRecord.Mirrored.stage {r r' : LinkRecord} {target : String}
    (h : Mirrored target r r') : Stage target r r' := by
  obtain ⟨r₁, cleared, _, rfl⟩ := h
  exact .joined cleared.shorn cleared.ingressFilters_eq

theorem LinkRecord.Mirrored.redirecting {r r' : LinkRecord} {target : String}
    (h : Mirrored target r r') : r'.Redirecting target := by
  obtain ⟨r₁, cleared, free, rfl⟩ := h
  constructor
  · have none : r₁.qdiscs.filter (·.handle == ⟨0xffff, 0⟩) = [] := by
      rw [List.filter_eq_nil_iff]
      intro q member
      exact mt beq_iff_eq.1 (free q member)
    show (r₁.qdiscs ++ [Tc.Qdisc.ingress]).filter _ = _
    rw [List.filter_append, none]
    rfl
  · show (r₁.joined target).ingressFilters = _
    rw [ingressFilters_joined, cleared.ingressFilters_eq]
    rfl

namespace Strategy

variable {faulty : Prop} {s : Netns} {e : LinkRecord} {uid gid : UInt32}

/-- What a finished setup has made, and what it answers. -/
structure Complete (s : Netns) (strategy : Strategy) (uid gid : UInt32) (e : LinkRecord)
    (info : Descriptor) (e' t' : LinkRecord) (rules : List NatRule) (on : Bool) : Prop where
  uplink : Mirrored AddressPlan.fixed.tapName e e'
  tap : t' = (s.addressed (spec strategy.queues e.link.mtu uid gid)
    AddressPlan.fixed.tapAddr).joined Uplink.name
  nat : rules = strategy.scheme.rules s.nat
  forwarding : on = strategy.scheme.forwards s.forwarding
  report : ∃ report, Uplink.Reports e.addrs report ∧ info = descriptor AddressPlan.fixed report

/-- What a namespace must have for a setup that no failing call stops. -/
structure Ready (s : Netns) (queues : UInt32) (e : LinkRecord) : Prop where
  alone : TapIndex.count s.links.names = 0
  small : queues < 0x80000000
  clearable : e.Clearable
  addressed : Uplink.Addressed e.addrs

/-- What a setup that got past its device has made. -/
structure Built (faulty : Prop) (s : Netns) (strategy : Strategy) (uid gid : UInt32)
    (e : LinkRecord) (result : Except Error Descriptor) (e' t' : LinkRecord)
    (rules : List NatRule) (on : Bool) : Prop where
  uplink : Stage AddressPlan.fixed.tapName e e'
  tap : t'.link = (s.device (spec strategy.queues e.link.mtu uid gid)).link
  nat : rules = s.nat ∨ rules = strategy.scheme.rules s.nat
  forwarding : on = s.forwarding ∨ on = strategy.scheme.forwards s.forwarding
  done : ∀ info, result = .ok info → Complete s strategy uid gid e info e' t' rules on
  sound : Ready s strategy.queues e → ¬ faulty → ∃ info, result = .ok info

/-- How a setup ends. -/
inductive Outcome (faulty : Prop) (s : Netns) (strategy : Strategy) (uid gid : UInt32) :
    Except Error Descriptor → Netns → Prop where
  | unmade {error : Error}
      (unsound : ∀ e, s.links.get? Uplink.name = some e → Ready s strategy.queues e → faulty) :
      Outcome faulty s strategy uid gid (.error error) s
  | made {e e' t' : LinkRecord} {rules : List NatRule} {on : Bool}
      {result : Except Error Descriptor} (held : s.links.get? Uplink.name = some e)
      (fresh : s.links.get? AddressPlan.fixed.tapName = none)
      (built : Built faulty s strategy uid gid e result e' t' rules on) :
      Outcome faulty s strategy uid gid result (s.withSandbox e' t' rules on)

theorem Ready.fresh {queues : UInt32} (ready : Ready s queues e) :
    s.links.get? AddressPlan.fixed.tapName = none :=
  TapIndex.absent_of_count (by decide) ready.alone

/-- What a wiring leaves when it ends well. -/
structure Joined (s : Netns) (strategy : Strategy) (uid gid : UInt32) (e e' t' : LinkRecord) :
    Prop where
  held : s.links.get? Uplink.name = some e
  fresh : s.links.get? AddressPlan.fixed.tapName = none
  uplink : Stage AddressPlan.fixed.tapName e e'
  device : t'.link = (s.device (spec strategy.queues e.link.mtu uid gid)).link
  mirrored : Mirrored AddressPlan.fixed.tapName e e'
  tap : t' = (s.addressed (spec strategy.queues e.link.mtu uid gid)
    AddressPlan.fixed.tapAddr).joined Uplink.name

/-- A setup from its wiring on, where `rest` follows the wiring. -/
theorem always_build {strategy : Strategy} {rest : Program Descriptor}
    (named : ∀ e, s.links.get? Uplink.name = some e → e.link.name = Uplink.name)
    (next : ∀ e e' t', Joined s strategy uid gid e e' t' →
      rest.Always (Answers faulty) (s.withSandbox e' t' s.nat s.forwarding)
        (Outcome faulty s strategy uid gid)) :
    (do
      let physical ← ask (.linkByName Uplink.name)
      let _ ← wire AddressPlan.fixed strategy.queues physical uid gid
      rest : Program Descriptor).Always (Answers faulty) s (Outcome faulty s strategy uid gid) := by
  cases held : s.links.get? Uplink.name with
  | none =>
      refine Always.ask_bind (fun _ _ carried => ?_) fun _ _ => .unmade fun e present => ?_
      · simp only [perform, held] at carried
        cases carried
      · rw [held] at present
        cases present
  | some e =>
  apply Always.ask_bind_ok (perform_linkByName held) (fun fails _ => .unmade fun _ _ _ => fails)
  apply Always.bind (always_wire held (named e held))
  · intro link s' wiring
    cases wiring with
    | made fresh wired =>
        obtain ⟨mirrored, tap⟩ := wired.done link rfl
        exact next e _ _ ⟨held, fresh, wired.uplink, wired.tap, mirrored, tap⟩
  · intro error s' wiring
    cases wiring with
    | unmade unsound => exact .unmade fun _ _ ready => unsound ready.fresh ready.small
    | made fresh wired =>
        refine .made held fresh ⟨wired.uplink, wired.tap, .inl rfl, .inl rfl, ?_, ?_⟩
        · intro info ended
          cases ended
        · intro ready calm
          obtain ⟨link, ended⟩ := wired.sound ready.clearable calm
          cases ended

/-- The texts of the static scheme are those of the plan of the first index. -/
theorem staticDescriptor_eq {report : Interface} (labelled : report.interface = Uplink.name) :
    staticDescriptor report = descriptor AddressPlan.fixed report := by
  have sandbox : AddressPlan.fixed.sandboxIp = staticIp := by decide
  have gateway : AddressPlan.fixed.gatewayIp = staticGatewayIp := by decide
  simp only [staticDescriptor, descriptor, sandbox, gateway, labelled]

/-- The last step of a setup, which only reads. -/
theorem always_report {strategy : Strategy} {level : Log.Level} {message : String}
    {fields : List (String × Log.Value)} {answer : Interface → Descriptor} {e' t' : LinkRecord}
    (joined : Joined s strategy uid gid e e' t')
    (tells : ∀ report, report.interface = Uplink.name →
      answer report = descriptor AddressPlan.fixed report) :
    (do
      let uplink ← Uplink.describe Uplink.name
      note level message fields
      return answer uplink : Program Descriptor).Always (Answers faulty)
        (s.withSandbox e' t' (strategy.scheme.rules s.nat) (strategy.scheme.forwards s.forwarding))
        (Outcome faulty s strategy uid gid) := by
  have addrs : e'.addrs = e.addrs := joined.uplink.addrs
  refine Always.bind (Uplink.always_describe get?_withSandbox_uplink) ?_ ?_
  · rintro report _ ⟨rfl, reports, _⟩
    refine Always.note_bind (Always.pure (.made joined.held joined.fresh ?_))
    refine ⟨joined.uplink, joined.device, .inr rfl, .inr rfl, ?_, fun _ _ => ⟨_, rfl⟩⟩
    intro info ended
    cases ended
    have told := reports report rfl
    exact ⟨joined.mirrored, joined.tap, rfl, rfl, report, addrs ▸ told, tells report told.interface⟩
  · rintro error _ ⟨rfl, _, sound⟩
    refine .made joined.held joined.fresh ⟨joined.uplink, joined.device, .inr rfl, .inr rfl, nofun,
      ?_⟩
    intro ready calm
    obtain ⟨report, ended⟩ := sound (addrs ▸ ready.addressed) calm
    cases ended

/-- The masquerading of a setup of the static scheme, and what follows it. -/
theorem always_masquerade {strategy : Strategy} {rest : Program Descriptor} {e' t' : LinkRecord}
    (static : strategy.scheme = .static) (joined : Joined s strategy uid gid e e' t')
    (next : rest.Always (Answers faulty)
      (s.withSandbox e' t' (strategy.scheme.rules s.nat) (strategy.scheme.forwards s.forwarding))
      (Outcome faulty s strategy uid gid)) :
    (do
      Masquerade.install Uplink.name AddressPlan.fixed.subnet
      rest : Program Descriptor).Always (Answers faulty) (s.withSandbox e' t' s.nat s.forwarding)
        (Outcome faulty s strategy uid gid) := by
  rw [static] at next
  apply Always.bind (Masquerade.always_install Uplink.name AddressPlan.fixed.subnet)
  · rintro _ _ ⟨rules, on, rfl, adoption⟩
    obtain ⟨adopted, forwards⟩ := adoption.done rfl
    subst adopted forwards
    exact next
  · rintro error _ ⟨rules, on, rfl, adoption⟩
    have nat : rules = s.nat ∨ rules = strategy.scheme.rules s.nat := static ▸ adoption.nat
    have forwarding : on = s.forwarding ∨ on = strategy.scheme.forwards s.forwarding :=
      static ▸ adoption.forwarding
    refine .made joined.held joined.fresh ⟨joined.uplink, joined.device, nat, forwarding, nofun, ?_⟩
    intro _ calm
    cases adoption.sound calm

theorem always_setup_of_uplink (strategy : Strategy)
    (named : ∀ e, s.links.get? Uplink.name = some e → e.link.name = Uplink.name) :
    (strategy.setup uid gid).Always (Answers faulty) s (Outcome faulty s strategy uid gid) := by
  obtain ⟨scheme, queues⟩ := strategy
  cases scheme with
  | static =>
      apply Always.bind Uplink.always_require
      · rintro _ _ ⟨rfl, _, _⟩
        apply always_build named
        intro e e' t' joined
        exact always_masquerade rfl joined (always_report joined fun _ => staticDescriptor_eq)
      · rintro error _ ⟨rfl, _, sound⟩
        refine .unmade ?_
        intro e held _
        apply Classical.byContradiction
        intro calm
        cases sound e held calm
  | dynamic =>
      apply Always.bind Uplink.always_require
      · rintro _ _ ⟨rfl, _, _⟩
        apply Always.bind TapIndex.always_next
        · rintro index s ⟨rfl, counted, _⟩
          have index_eq := counted index rfl
          split
          · next taken =>
              refine Always.fail (.unmade ?_)
              intro e _ ready
              rw [index_eq, ready.alone] at taken
              cases taken
          · next alone =>
              obtain rfl : index = 0 := by omega
              exact always_build named fun e e' t' joined => always_report joined fun _ _ => rfl
        · rintro error _ ⟨rfl, _, sound⟩
          refine .unmade ?_
          intro e _ ready
          apply Classical.byContradiction
          intro calm
          obtain ⟨index, ended⟩ := sound (ready.alone ▸ Nat.zero_le _) calm
          cases ended
      · rintro error _ ⟨rfl, _, sound⟩
        refine .unmade ?_
        intro e held _
        apply Classical.byContradiction
        intro calm
        cases sound e held calm

theorem always_setup (strategy : Strategy) (named : s.Named) :
    (strategy.setup uid gid).Always (Answers faulty) s (Outcome faulty s strategy uid gid) :=
  always_setup_of_uplink strategy fun _ held => named.link_name held

/-- A setup that nothing stops comes to its end. -/
theorem Outcome.complete {strategy : Strategy} {result : Except Error Descriptor} {s' : Netns}
    (outcome : Outcome False s strategy uid gid result s')
    (held : s.links.get? Uplink.name = some e) (ready : Ready s strategy.queues e) :
    ∃ info e' t' rules on, result = .ok info ∧ s' = s.withSandbox e' t' rules on ∧
      Complete s strategy uid gid e info e' t' rules on := by
  cases outcome with
  | unmade unsound => exact absurd (unsound e held ready) id
  | made held' fresh built =>
      rw [held] at held'
      cases held'
      obtain ⟨info, ended⟩ := built.sound ready id
      exact ⟨info, _, _, _, _, ended, rfl, built.done info ended⟩

/-- The descriptor of a setup, and the namespace that it was answered in. -/
structure Established (strategy : Strategy) (uid gid : UInt32) (s s' : Netns) (info : Descriptor)
    (e e' t : LinkRecord) : Prop where
  device : info.tapDevice = "tap0_urunc"
  fresh : s.links.get? info.tapDevice = none
  held : s.links.get? "eth0" = some e
  tap : s'.links.get? info.tapDevice = some t
  uplink : s'.links.get? "eth0" = some e'
  others : ∀ name, name ≠ "eth0" → name ≠ info.tapDevice → s'.links.get? name = s.links.get? name
  routes : s'.routes = s.routes
  up : t.up = true
  link : t.link = ⟨s.nextIndex + 1, "tap0_urunc", e.link.mtu⟩
  index : t.link.index.toNat = s.nextIndex.toNat + 1 ∧ s'.nextIndex = t.link.index
  spec : t.tap = some ⟨"tap0_urunc", max strategy.queues 1, some e.link.mtu, uid, gid⟩
  addresses : t.extraAddrs = [⟨⟨172, 16, 1, 1⟩, 24⟩]
  gateway : t.extraAddrs.map (·.text) = [info.ethDevice.defaultGateway ++ "/24"]
  inward : t.Redirecting "eth0"
  outward : e'.Redirecting info.tapDevice
  rest : e' = { e with qdiscs := e'.qdiscs, filters := e'.filters }
  otherFilters : e'.filters.filter (·.parent != ⟨0xffff, 0⟩) = e.filters.filter (·.parent != ⟨0xffff, 0⟩)
  static : strategy.scheme = .static →
    let rule : NatRule := ⟨"eth0", ⟨⟨172, 16, 1, 0⟩, 24⟩⟩
    s'.nat = (if rule ∈ s.nat then s.nat else s.nat ++ [rule]) ∧ s'.forwarding = true
  dynamic : strategy.scheme = .dynamic → s'.nat = s.nat ∧ s'.forwarding = s.forwarding
  info : ∃ mac, e.addrs.mac = some mac ∧
    info.ethDevice = ⟨"172.16.1.2", "172.16.1.1", "255.255.255.0", "eth0", mac.text⟩

theorem gateway_fixed :
    [AddressPlan.fixed.tapAddr.text] = [AddressPlan.fixed.gatewayIp ++ "/24"] := by decide

theorem ethDevice_fixed (report : Interface) : (descriptor AddressPlan.fixed report).ethDevice =
    ⟨"172.16.1.2", "172.16.1.1", "255.255.255.0", report.interface, report.mac⟩ := by
  have sandbox : AddressPlan.fixed.sandboxIp = "172.16.1.2" := by decide
  have gateway : AddressPlan.fixed.gatewayIp = "172.16.1.1" := by decide
  have mask : AddressPlan.fixed.mask = "255.255.255.0" := by decide
  simp only [descriptor, sandbox, gateway, mask]

theorem Complete.established {strategy : Strategy} {info : Descriptor} {e' t' : LinkRecord}
    {rules : List NatRule} {on : Bool} (room : s.nextIndex < 0xffffffff)
    (held : s.links.get? Uplink.name = some e)
    (fresh : s.links.get? AddressPlan.fixed.tapName = none)
    (complete : Complete s strategy uid gid e info e' t' rules on) :
    Established strategy uid gid s (s.withSandbox e' t' rules on) info e e' t' := by
  obtain ⟨report, reports, rfl⟩ := complete.report
  obtain ⟨mac, hasMac, mac_eq⟩ := Option.map_eq_some_iff.1 reports.mac
  have tapEq := complete.tap
  have stage : Stage AddressPlan.fixed.tapName e e' := complete.uplink.stage
  refine {
    device := tapName_fixed
    fresh := fresh
    held := held
    tap := get?_withSandbox_tap
    uplink := get?_withSandbox_uplink
    others := fun name notUplink notTap => get?_withSandbox notUplink notTap
    routes := rfl
    up := by rw [tapEq]; rfl
    link := by rw [tapEq]; rfl
    index := by rw [tapEq]; exact ⟨toNat_nextIndex room, rfl⟩
    spec := by rw [tapEq]; rfl
    addresses := by rw [tapEq]; rfl
    gateway := by rw [tapEq]; exact gateway_fixed
    inward := by rw [tapEq]; exact ⟨rfl, rfl⟩
    outward := complete.uplink.redirecting
    rest := stage.rest
    otherFilters := stage.otherFilters
    static := fun static => ?_
    dynamic := fun dynamic => ?_
    info := ⟨mac, hasMac, ?_⟩ }
  · have rules := complete.nat
    have forwarding := complete.forwarding
    rw [static] at rules forwarding
    exact ⟨rules, forwarding⟩
  · have rules := complete.nat
    have forwarding := complete.forwarding
    rw [dynamic] at rules forwarding
    exact ⟨rules, forwarding⟩
  · rw [ethDevice_fixed, reports.interface, mac_eq]
    rfl

theorem setup_established (schedule : Schedule) (strategy : Strategy) (uid gid : UInt32) {s : Netns}
    (named : s.Named) (room : s.nextIndex < 0xffffffff) {info : Descriptor}
    (ended : ((strategy.setup uid gid).run (kernel.failing schedule) (0, s)).result = .ok info) :
    ∃ e e' t, Established strategy uid gid s
      ((strategy.setup uid gid).run (kernel.failing schedule) (0, s)).state.2 info e e' t := by
  have always : (strategy.setup uid gid).Always (Answers True) (s.arm none)
      (Outcome True (s.arm none) strategy uid gid) := always_setup strategy named
  have outcome := always.run_failing schedule 0
  rw [ended] at outcome
  generalize ((strategy.setup uid gid).run (kernel.failing schedule) (0, s)).state.2 = final at outcome ⊢
  generalize finalEq : final.arm none = left at outcome
  generalize answer : Except.ok info = result at outcome
  cases outcome with
  | unmade => cases answer
  | made held fresh built =>
      have complete := built.done info answer.symm
      have established := complete.established (s := s.arm none) room held fresh
      rw [← finalEq] at established
      exact ⟨_, _, _, { established with }⟩

theorem setup_established_withEth0 :
    withEth0.Named ∧ withEth0.nextIndex < 0xffffffff ∧ ∃ info e e' t,
      Established ⟨.static, 1⟩ 1000 1000 withEth0
        ((setup ⟨.static, 1⟩ 1000 1000).run (kernel.failing fun _ => none) (0, withEth0)).state.2
        info e e' t := by
  have named : withEth0.Named := by decide
  have room : withEth0.nextIndex < 0xffffffff := by decide
  obtain ⟨info, ended⟩ : ∃ info, ((setup ⟨.static, 1⟩ 1000 1000).run (kernel.failing fun _ => none)
      (0, withEth0)).result = .ok info := Run.answers_of_isOk (by decide)
  exact ⟨named, room, info, setup_established (fun _ => none) ⟨.static, 1⟩ 1000 1000 named room ended⟩

end Strategy

end SandboxNet
