import SandboxNet.Proofs.Kernel.Guarded
import SandboxNet.Proofs.Masquerade
import SandboxNet.Proofs.Netns.Steps
import SandboxNet.Proofs.Sandbox.Session

/-! # The table of masquerade rules

A rule is appended only by an installation that has just found it missing, so a table without
duplicates never gets one, and the removal of a rule leaves none behind. Each operation touches one
rule at most, and none turns forwarding off.
-/

namespace SandboxNet

open Program Netns

namespace Call

/-- A call that touches no masquerade rule but the given one, and that does not turn forwarding
off. -/
def Confined (rule? : Option NatRule) : Call → Prop
  | appendNatRule rule | deleteNatRule rule => rule? = some rule
  | setIpv4Forwarding on => on = true
  | _ => True

/-- A rule is appended only where it is missing. -/
def AppendsMissing (request : Call) (s : Netns) : Prop :=
  ∀ rule, request = .appendNatRule rule → rule ∉ s.nat

variable {request : Call} {rule : NatRule} {rule? : Option NatRule}

theorem Reading.confined (h : request.Reading) : request.Confined rule? := by
  cases request with
  | appendNatRule | deleteNatRule | setIpv4Forwarding => cases h
  | _ => trivial

theorem OnTraffic.confined (h : request.OnTraffic) : request.Confined rule? := by
  obtain ⟨link, filters | qdiscs⟩ := h
  · cases request with
    | appendNatRule | deleteNatRule | setIpv4Forwarding => exact filters.elim
    | _ => trivial
  · cases request with
    | appendNatRule | deleteNatRule | setIpv4Forwarding => exact qdiscs.elim
    | _ => trivial

theorem OnDevice.confined {name : String} (h : request.OnDevice name) : request.Confined rule? := by
  cases request with
  | appendNatRule | deleteNatRule | setIpv4Forwarding => exact h.elim
  | _ => trivial

theorem Adopting.confined (h : request.Adopting rule) : request.Confined (some rule) := by
  cases request with
  | appendNatRule => exact congrArg some h.symm
  | setIpv4Forwarding => exact h
  | deleteNatRule => exact h.elim
  | _ => trivial

theorem Dropping.confined (h : request.Dropping rule) : request.Confined (some rule) := by
  cases request with
  | deleteNatRule => exact congrArg some h.symm
  | appendNatRule | setIpv4Forwarding => exact h.elim
  | _ => trivial

theorem Confined.appendsMissing (h : request.Confined none) (s : Netns) :
    request.AppendsMissing s := by
  rintro rule rfl
  cases h

theorem Dropping.appendsMissing (h : request.Dropping rule) (s : Netns) :
    request.AppendsMissing s := by
  rintro rule rfl
  exact h.elim

end Call

open Call

namespace Netns

variable {s s' : Netns} {request : Call} {rule? : Option NatRule}

/-- The rules of a table but the given one, in their order. -/
def otherRules (rule? : Option NatRule) (rules : List NatRule) : List NatRule :=
  rules.filter fun rule => rule? ≠ some rule

theorem otherRules_append (rule : NatRule) (rules : List NatRule) :
    otherRules (some rule) (rules ++ [rule]) = otherRules (some rule) rules := by
  simp [otherRules, List.filter_append]

theorem otherRules_erase (rule : NatRule) (rules : List NatRule) :
    otherRules (some rule) (rules.erase rule) = otherRules (some rule) rules := by
  rw [otherRules, ← List.erase_filter]
  exact List.erase_of_not_mem fun member => by simp at member

theorem Step.otherRules (h : Step s request s') (confined : request.Confined rule?) :
    otherRules rule? s'.nat = otherRules rule? s.nat := by
  cases h with
  | read | addTap | onLink | deleteLink | setIpv4Forwarding => rfl
  | appendNatRule =>
      cases confined
      exact otherRules_append _ _
  | deleteNatRule =>
      cases confined
      exact otherRules_erase _ _

theorem Step.forwarding (h : Step s request s') (confined : request.Confined rule?)
    (on : s.forwarding = true) : s'.forwarding = true := by
  cases h with
  | read | addTap | onLink | deleteLink | appendNatRule | deleteNatRule => exact on
  | setIpv4Forwarding => exact confined

theorem Step.nodup_nat (h : Step s request s') (missing : request.AppendsMissing s)
    (nodup : s.nat.Nodup) : s'.nat.Nodup := by
  cases h with
  | read | addTap | onLink | deleteLink | setIpv4Forwarding => exact nodup
  | @appendNatRule rule =>
      refine List.nodup_append.2 ⟨nodup, List.pairwise_singleton _ _, ?_⟩
      intro held member added listed same
      obtain rfl := List.mem_singleton.1 listed
      exact missing added rfl (same ▸ member)
  | deleteNatRule => exact nodup.erase _

end Netns

namespace Masquerade

variable {faulty : Prop} {s : Netns}

theorem guarded_install (outInterface : String) (subnet : Ipv4Net) :
    (install outInterface subnet).Guarded (Answers faulty) AppendsMissing s := by
  have forwards : ∀ s, enableForwarding.Guarded (Answers faulty) AppendsMissing s := by
    intro s
    apply Guarded.ask_bind nofun
    intro on s' _
    cases on with
    | true => trivial
    | false => exact Guarded.ask_bind nofun fun _ _ _ => trivial
  apply Guarded.ask_bind nofun
  intro present s' answered
  cases answered with
  | carried carried =>
  cases carried
  split
  · exact Guarded.andThen trivial fun _ => forwards
  · next absent =>
      refine Guarded.ask_bind ?_ fun _ s' _ => forwards s'
      rintro rule ⟨⟩ member
      exact absent (List.contains_iff_mem.2 member)

end Masquerade

theorem Strategy.guarded_setupStatic {faulty : Prop} {s : Netns} (queues uid gid : UInt32) :
    (Strategy.setupStatic queues uid gid).Guarded (Answers faulty) AppendsMissing s := by
  have confined : ∀ {α : Type} {p : Program α} {s : Netns}, p.Asks (Confined none) →
      p.Guarded (Answers faulty) AppendsMissing s := fun asks =>
    Guarded.of_asks asks fun _ s h => h.appendsMissing s
  have requires : Uplink.require.Asks (Confined none) :=
    Uplink.failStop_require.asks.mono fun _ => Reading.confined
  have wires : ∀ physical, (Strategy.wire AddressPlan.fixed queues physical uid gid).Asks
      (Confined none) := fun physical =>
    (Strategy.failStop_wire _ _ physical _ _).asks.mono fun _ either =>
      either.elim OnDevice.confined OnTraffic.confined
  have describes : (Uplink.describe Uplink.name).Asks (Confined none) :=
    (Uplink.failStop_describe _).asks.mono fun _ => Reading.confined
  refine Guarded.andThen (confined requires) fun _ _ => ?_
  refine Guarded.ask_bind nofun fun physical _ _ => ?_
  refine Guarded.andThen (confined (wires physical)) fun _ _ => ?_
  refine Guarded.andThen (Masquerade.guarded_install _ _) fun _ _ => ?_
  exact Guarded.andThen (confined describes) fun _ _ => trivial

namespace Operation

variable {faulty : Prop} {s : Netns}

/-- The rule that an operation installs or removes. -/
def rule? : Operation → Option NatRule
  | setup strategy _ _ =>
      match strategy.scheme with
      | .static => some (NatRule.masquerade Uplink.name AddressPlan.fixed.subnet)
      | .dynamic => none
  | cleanup tap =>
      (AddressPlan.ofTapName? tap).map fun plan => NatRule.masquerade Uplink.name plan.subnet
  | masquerade outInterface subnet | unmasquerade outInterface subnet =>
      some (NatRule.masquerade outInterface subnet)
  | install _ _ | addIngress _ | addRedirect _ _ | deleteQdiscs _ | deleteFilters _
  | deleteRedirectsTo _ _ | createTap _ _ _ _ _ | deleteTap _ => none

theorem MayCall.confined {operation : Operation} {request : Call} (h : operation.MayCall request) :
    request.Confined operation.rule? := by
  cases operation with
  | setup strategy uid gid =>
      cases h with
      | reads h => exact h.confined
      | device h => exact h.confined
      | traffic h => exact h.confined
      | rule static h =>
          simp only [rule?, static]
          exact h.confined
  | cleanup tap =>
      cases h with
      | reads h => exact h.confined
      | traffic h => exact h.confined
      | device h => exact h ▸ trivial
      | rule found h =>
          simp only [rule?, found]
          exact h.confined
  | install => exact OnTraffic.confined h
  | addIngress | deleteQdiscs => exact (OnQdiscs.traffic h).confined
  | addRedirect | deleteFilters | deleteRedirectsTo => exact (OnFilters.traffic h).confined
  | createTap => exact OnDevice.confined h
  | deleteTap =>
      obtain ⟨link, rfl⟩ := h
      trivial
  | masquerade => exact Adopting.confined h
  | unmasquerade => exact Dropping.confined h

theorem guarded_program (operation : Operation) :
    operation.program.Guarded (Answers faulty) AppendsMissing s := by
  have unnamed : operation.rule? = none → operation.program.Guarded (Answers faulty) AppendsMissing s := by
    intro none
    refine Guarded.of_asks operation.asks_mayCall fun request s h => ?_
    exact Confined.appendsMissing (none ▸ h.confined) s
  cases operation with
  | setup strategy uid gid =>
      obtain ⟨scheme, queues⟩ := strategy
      cases scheme with
      | static => exact Strategy.guarded_setupStatic queues uid gid
      | dynamic => exact unnamed rfl
  | masquerade outInterface subnet => exact Masquerade.guarded_install outInterface subnet
  | unmasquerade outInterface subnet =>
      exact Guarded.of_asks (Masquerade.failStop_remove outInterface subnet).asks fun _ s h =>
        h.appendsMissing s
  | cleanup tap =>
      refine Guarded.of_asks (Cleanup.asks_calls tap) fun request s h => ?_
      cases h with
      | reads h => exact Confined.appendsMissing h.confined s
      | traffic h => exact Confined.appendsMissing h.confined s
      | device h => exact h ▸ nofun
      | rule _ h => exact h.appendsMissing s
  | install | addIngress | addRedirect | deleteQdiscs | deleteFilters | deleteRedirectsTo
  | createTap | deleteTap => exact unnamed rfl

theorem nodup_states (schedule : Schedule) (operation : Operation) {t : Nat × Netns}
    (nodup : t.2.nat.Nodup) :
    ∀ u ∈ operation.program.states (kernel.failing schedule) t, u.2.nat.Nodup := by
  have guarded : operation.program.Guarded (Answers True) AppendsMissing (t.2.arm none) :=
    guarded_program operation
  refine guarded.states (fun t : Nat × Netns => t.2.arm none)
    (fun request t => answers_failing schedule request t.1 t.2) ?_ nodup
  intro request u missing nodup
  rcases step_or_failed_of_schedule schedule request u with step | ⟨failure, failed⟩
  · exact step.nodup_nat missing nodup
  · rw [failed]
    exact nodup

theorem otherRules_states (schedule : Schedule) (operation : Operation) (t : Nat × Netns) :
    ∀ u ∈ operation.program.states (kernel.failing schedule) t,
      otherRules operation.rule? u.2.nat = otherRules operation.rule? t.2.nat := by
  refine states_of_asks operation.asks_mayCall ?_ rfl
  intro request u may same
  rcases step_or_failed_of_schedule schedule request u with step | ⟨failure, failed⟩
  · rw [step.otherRules may.confined, same]
  · rw [failed]
    exact same

theorem forwarding_states (schedule : Schedule) (operations : List Operation) (t : Nat × Netns) :
    ((session operations).states (kernel.failing schedule) t).Pairwise fun u v =>
      u.2.forwarding = true → v.2.forwarding = true := by
  have asks : (session operations).Asks fun request => ∃ rule?, request.Confined rule? := by
    refine Asks.forM fun operation => Asks.bind (Asks.attempt ?_) fun _ => Asks.pure ()
    exact operation.asks_mayCall.mono fun _ may => ⟨_, may.confined⟩
  refine pairwise_states_of_asks asks (fun _ _ _ first second on => second (first on)) ?_
  rintro request u ⟨rule?, confined⟩ on
  rcases step_or_failed_of_schedule schedule request u with step | ⟨failure, failed⟩
  · exact step.forwarding confined on
  · rw [failed]
    exact on

theorem session_rules (schedule : Schedule) (operations : List Operation) {s : Netns}
    (nodup : s.nat.Nodup) :
    let K := kernel.failing schedule
    let reached := (session operations).states K (0, s)
    (∀ t ∈ reached, t.2.nat.Nodup) ∧
    reached.Pairwise (fun t u => t.2.forwarding = true → u.2.forwarding = true) ∧
    ∀ t ∈ reached,
      (∀ operation : Operation, ∀ u ∈ operation.program.states K t,
        otherRules operation.rule? u.2.nat = otherRules operation.rule? t.2.nat) ∧
      ∀ interface net,
        let rule : NatRule := ⟨interface, net.network⟩
        let installed := (Masquerade.install interface net).run K t
        let removed := (Masquerade.remove interface net).run K t
        (installed.result = .ok () →
          rule ∈ installed.state.2.nat ∧ installed.state.2.forwarding = true) ∧
        (∀ present, removed.result = .ok present →
          rule ∉ removed.state.2.nat ∧ (present = true ↔ rule ∈ t.2.nat)) ∧
        ∀ other : Ipv4Net, other.network = net.network → rule ∉ t.2.nat →
          installed.result = .ok () →
          let undone := (Masquerade.remove interface other).run K installed.state
          ∀ present, undone.result = .ok present → undone.state.2.nat = t.2.nat := by
  intro K reached
  have distinct : ∀ t ∈ reached, t.2.nat.Nodup :=
    states_session (fun operation _ t nodup => nodup_states schedule operation nodup) nodup
  refine ⟨distinct, forwarding_states schedule operations (0, s), fun t member => ⟨?_, ?_⟩⟩
  · exact fun operation => otherRules_states schedule operation t
  intro interface net rule installed removed
  refine ⟨fun ended => ?_, fun present ended => ?_, fun other same absent ended => ?_⟩
  · obtain ⟨nat, forwards⟩ := Masquerade.adopted_of_install schedule t interface net ended
    exact ⟨nat ▸ Masquerade.mem_adopt rule t.2.nat, forwards⟩
  · obtain ⟨nat, rfl⟩ := Masquerade.erased_of_remove schedule t interface net present ended
    exact ⟨nat ▸ (distinct t member).not_mem_erase, decide_eq_true_iff⟩
  · intro undone present ended'
    obtain ⟨appended, -⟩ := Masquerade.adopted_of_install schedule t interface net ended
    obtain ⟨erased, -⟩ := Masquerade.erased_of_remove schedule installed.state interface other present ended'
    have once : t.2.nat.count rule ≤ 1 := by
      rw [List.count_eq_zero.2 absent]
      exact Nat.zero_le 1
    calc
      undone.state.2.nat = (Masquerade.adopt rule t.2.nat).erase ⟨interface, other.network⟩ := by
        rw [erased, appended]
      _ = (Masquerade.adopt rule t.2.nat).erase rule := by rw [same]
      _ = t.2.nat.filter (· ≠ rule) := Masquerade.erase_adopt once
      _ = t.2.nat := Masquerade.filter_ne_of_not_mem absent

theorem session_rules_withEth0 :
    let net : Ipv4Net := ⟨⟨10, 0, 0, 5⟩, 8⟩
    let other : Ipv4Net := ⟨⟨10, 9, 8, 7⟩, 8⟩
    let rule : NatRule := ⟨"eth0", ⟨⟨10, 0, 0, 0⟩, 8⟩⟩
    let K := kernel.failing fun _ => none
    let operations := [masquerade "eth0" net, setup ⟨.static, 1⟩ 0 0, cleanup "tap0_urunc",
      unmasquerade "eth0" other]
    let reached := (session operations).states K (0, withEth0)
    let installed := (Masquerade.install "eth0" net).run K (0, withEth0)
    let undone := (Masquerade.remove "eth0" other).run K installed.state
    withEth0.nat.Nodup ∧ (∀ t ∈ reached, t.2.nat.Nodup) ∧
      reached.Pairwise (fun t u => t.2.forwarding = true → u.2.forwarding = true) ∧
      other.network = net.network ∧ rule ∉ withEth0.nat ∧
      installed.result = .ok () ∧ rule ∈ installed.state.2.nat ∧
      (∃ present, undone.result = .ok present) ∧ undone.state.2.nat = withEth0.nat := by
  intro net other rule K operations reached installed undone
  obtain ⟨distinct, forwards, each⟩ := session_rules (fun _ => none) operations
    (s := withEth0) (List.nodup_nil)
  obtain ⟨-, facts⟩ := each (0, withEth0) List.mem_cons_self
  obtain ⟨present, -, restored⟩ := facts "eth0" net
  have done : installed.result = .ok () := rfl
  obtain ⟨found, again⟩ : ∃ present, undone.result = .ok present :=
    Run.answers_of_isOk (by decide)
  have truncated : (⟨"eth0", net.network⟩ : NatRule) = rule := by decide
  have same : other.network = net.network := by decide
  exact ⟨List.nodup_nil, distinct, forwards, same, List.not_mem_nil, done,
    truncated ▸ (present done).1, ⟨found, again⟩,
    restored other same List.not_mem_nil done found again⟩

end Operation

end SandboxNet
