import SandboxNet.Proofs.Kernel.Together
import SandboxNet.Proofs.Sandbox.Calls
import SandboxNet.Proofs.Sandbox.Setup

/-! # The two schemes side by side

Where no TAP device is in the way, the schemes make the same links and answer the same descriptor or
the same error. The static one has a masquerade rule and forwarding of its own, which nothing that
follows them looks at.
-/

namespace SandboxNet

open Program Netns

namespace Call

/-- A call that only looks at links and routes. -/
def Surveying : Call → Prop
  | linkNames | linkByName _ | qdiscs _ | filters _ _ | linkAddrs _ | routes => True
  | _ => False

end Call

namespace Netns

variable {s t : Netns} {request : Call}

/-- Two namespaces that differ in masquerade rules and forwarding only. -/
def SameLinks (s t : Netns) : Prop := s = { t with nat := s.nat, forwarding := s.forwarding }

theorem SameLinks.refl (s : Netns) : SameLinks s s := rfl

theorem perform_of_surveying (surveys : request.Surveying) (rules : List NatRule) (on : Bool) :
    { t with nat := rules, forwarding := on }.perform request =
      (t.perform request).map fun done => (done.1, { t with nat := rules, forwarding := on }) := by
  have found : ∀ link, { t with nat := rules, forwarding := on }.resolve link = t.resolve link :=
    fun _ => rfl
  cases request with
  | linkNames | routes => rfl
  | linkByName name | linkAddrs name =>
      simp only [perform]
      cases t.links.get? name <;> rfl
  | qdiscs link | filters link =>
      simp only [perform, found]
      cases t.resolve link <;> rfl
  | _ => exact surveys.elim

/-- A call that surveys gets the same reply in both, and leaves both as they are. -/
theorem answer_of_surveying (surveys : request.Surveying) (same : SameLinks s t) :
    (kernel.answer request s).1 = (kernel.answer request t).1 ∧
      (kernel.answer request s).2 = s ∧ (kernel.answer request t).2 = t := by
  have reads : request.kind.isChange = false := by
    cases request <;> first | rfl | exact surveys.elim
  have performed : s.perform request = (t.perform request).map fun done => (done.1, s) := by
    rw [same]
    exact perform_of_surveying surveys s.nat s.forwarding
  simp only [kernel, isArmedFor, reads, Bool.false_and, Bool.false_eq_true, if_false, performed]
  cases carried : t.perform request with
  | ok done => exact ⟨rfl, rfl, eq_of_perform reads carried⟩
  | error e => exact ⟨rfl, rfl, rfl⟩

/-- No run arms a failure. -/
theorem Unarmed.run {α : Type} (calm : s.Unarmed) (p : Program α) : (p.run kernel s).state.Unarmed :=
  (Always.run_unarmed (Q := fun _ _ => True) (Always.of_forall fun _ _ => trivial) calm).2

end Netns

theorem Program.Asks.together {α : Type} {p : Program α} {s t : Netns} (surveys : p.Asks Call.Surveying)
    (same : SameLinks s t) : Together kernel SameLinks p p s t := by
  induction p with
  | done result => exact ⟨rfl, same⟩
  | log event next ih => exact ⟨(ih surveys).result, (ih surveys).state⟩
  | call request next ih =>
      obtain ⟨reply, left, right⟩ := answer_of_surveying surveys.1 same
      have later := ih (kernel.answer request t).1 (surveys.2 _)
      constructor
      · simp only [run, reply, left, right, later.result]
      · simp only [run, reply, left, right]
        exact later.state

namespace Uplink

/-- Every report carries the label of the physical interface. -/
theorem always_labelled {σ : Type} {A : Answering σ} {s : σ} (interface : String) :
    (describe interface).Always A s fun result _ =>
      ∀ report, result = .ok report → report.interface = name := by
  have anything : ∀ {α : Type} {p : Program α} {s : σ}, p.Always A s fun _ _ => True :=
    Always.of_forall fun _ _ => trivial
  refine Always.bind anything (fun addrs _ _ => ?_) nofun
  refine Always.bind anything (fun mac _ _ => ?_) nofun
  refine Always.bind anything (fun mask _ _ => ?_) nofun
  refine Always.bind anything (fun ip _ _ => ?_) nofun
  refine Always.bind anything (fun routes _ _ => Always.note_bind (Always.pure ?_)) nofun
  rintro _ ⟨⟩
  rfl

end Uplink

namespace Masquerade

theorem installed_of_unarmed {s : Netns} (calm : s.Unarmed) (outInterface : String)
    (subnet : Ipv4Net) :
    ((install outInterface subnet).run kernel s).result = .ok () ∧
      SameLinks ((install outInterface subnet).run kernel s).state s := by
  obtain ⟨⟨rules, on, left, adoption⟩, -⟩ := (always_install outInterface subnet).run_unarmed calm
  exact ⟨adoption.sound id, by rw [left]; rfl⟩

end Masquerade

namespace Strategy

/-- From the resolution of the physical link on, what the schemes do. -/
theorem together_build (queues uid gid : UInt32) {s : Netns} (calm : s.Unarmed) :
    Together kernel SameLinks
      (do
        let physical ← ask (.linkByName Uplink.name)
        let _ ← wire AddressPlan.fixed queues physical uid gid
        Masquerade.install Uplink.name AddressPlan.fixed.subnet
        let uplink ← Uplink.describe Uplink.name
        note .info "Static network ready"
          [("tap", .shown AddressPlan.fixed.tapName), ("sandbox_ip", .quoted staticIp)]
        return staticDescriptor uplink)
      (do
        let physical ← ask (.linkByName Uplink.name)
        let _ ← wire AddressPlan.fixed queues physical uid gid
        let uplink ← Uplink.describe Uplink.name
        note .info "Dynamic network ready"
          [("tap", .shown AddressPlan.fixed.tapName),
            ("sandbox_ip", .shown AddressPlan.fixed.sandboxIp)]
        return descriptor AddressPlan.fixed uplink) s s := by
  have equal : ∀ s t : Netns, s = t → SameLinks s t := fun s _ same => same ▸ .refl s
  refine Together.bind (.same _) equal fun physical _ => ?_
  have calm := calm.run (ask (.linkByName Uplink.name))
  refine Together.bind (.same _) equal fun tap _ => ?_
  have calm := calm.run (wire AddressPlan.fixed queues physical uid gid)
  obtain ⟨installed, same⟩ :=
    Masquerade.installed_of_unarmed calm Uplink.name AddressPlan.fixed.subnet
  refine Together.left installed ?_
  have calm := calm.run (Masquerade.install Uplink.name AddressPlan.fixed.subnet)
  have asks : (Uplink.describe Uplink.name).Asks Call.Surveying :=
    (Uplink.failStop_describe_of trivial trivial).asks
  have described := asks.together same
  refine Together.bind described (fun _ _ same => same) fun report told => ?_
  have labelled : report.interface = Uplink.name :=
    ((Uplink.always_labelled Uplink.name).run_unarmed calm).1 report told
  exact Together.note (Together.pure (staticDescriptor_eq labelled) described.state)

theorem schemes_agree (queues uid gid : UInt32) {s : Netns} (calm : s.Unarmed)
    (noTap : ∀ name ∈ s.links.names, ¬ "tap".toList <+: name.toList) :
    let static := (setup ⟨.static, queues⟩ uid gid).run kernel s
    let dynamic := (setup ⟨.dynamic, queues⟩ uid gid).run kernel s
    static.result = dynamic.result ∧
      static.state =
        { dynamic.state with nat := static.state.nat, forwarding := static.state.forwarding } := by
  have alone : TapIndex.count s.links.names = 0 := TapIndex.count_eq_zero noTap
  obtain ⟨⟨required, -⟩, -⟩ := Uplink.always_require.run_unarmed calm
  obtain ⟨⟨counted, zero, fits⟩, -⟩ := TapIndex.always_next.run_unarmed calm
  obtain ⟨index, answered⟩ := fits (alone ▸ Nat.zero_le _) id
  obtain rfl : index = 0 := (zero index answered).trans alone
  have together : Together kernel SameLinks (setupStatic queues uid gid) (setupDynamic queues uid gid)
      s s := by
    refine Together.bind (.same Uplink.require) (fun s _ same => same ▸ .refl s) fun _ _ => ?_
    rw [required]
    refine Together.right answered ?_
    rw [counted]
    exact together_build queues uid gid calm
  exact ⟨together.result, together.state⟩

/-- An uplink that has no address of the link layer stops both schemes at their last step. -/
theorem schemes_agree_withoutMac :
    let s : Netns := loopback.insertLink "eth0" 1500 ⟨none, some ⟨172, 17, 0, 2⟩, some ⟨255, 255, 0, 0⟩⟩
    let static := (setup ⟨.static, 2⟩ 1000 1000).run kernel s
    let dynamic := (setup ⟨.dynamic, 2⟩ 1000 1000).run kernel s
    s.Unarmed ∧ (∀ name ∈ s.links.names, ¬ "tap".toList <+: name.toList) ∧
      static.result = dynamic.result ∧
      dynamic.result = .error (.introspection "eth0" .mac) ∧
      static.state =
        { dynamic.state with nat := static.state.nat, forwarding := static.state.forwarding } ∧
      static.state.forwarding ≠ dynamic.state.forwarding := by
  intro s static dynamic
  have calm : s.Unarmed := unarmed_of_failNext rfl
  have noTap : ∀ name ∈ s.links.names, ¬ "tap".toList <+: name.toList := by decide
  obtain ⟨result, state⟩ := schemes_agree 2 1000 1000 calm noTap
  have stopped : dynamic.result = .error (.introspection "eth0" .mac) := by
    unfold dynamic s
    rfl
  have forwarded : static.state.forwarding ≠ dynamic.state.forwarding := by decide
  exact ⟨calm, noTap, result, stopped, state, forwarded⟩

end Strategy

end SandboxNet
