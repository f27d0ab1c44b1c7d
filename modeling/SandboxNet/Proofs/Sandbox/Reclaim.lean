import SandboxNet.Proofs.Sandbox.Cleanup
import SandboxNet.Proofs.Sandbox.Setup

/-! # Reclaiming what a setup made

A setup may stop after any of its calls. Whatever it had made by then, the cleanup of its device
takes away.
-/

namespace SandboxNet

open Program LinkRecord Netns Tc

namespace LinkRecord

variable {e e' e'' : LinkRecord} {tap : String}

theorem redirects_eq_nil : e.redirects tap = [] ↔
    ∀ f ∈ e.filters, f.parent = Handle.ingress → f.redirectTo ≠ some tap := by
  constructor
  · intro none f member parent target
    have redirects : f ∈ e.redirects tap :=
      List.mem_filter.2 ⟨List.mem_filter.2 ⟨member, beq_iff_eq.2 parent⟩, beq_iff_eq.2 target⟩
    rw [none] at redirects
    cases redirects
  · intro clear
    apply List.filter_eq_nil_iff.2
    intro f listed redirects
    obtain ⟨member, parent⟩ := List.mem_filter.1 listed
    exact clear f member (beq_iff_eq.1 parent) (beq_iff_eq.1 redirects)

/-- A setup joins a link to its device, or leaves no redirect to it. -/
theorem Stage.redirects_or (h : Stage tap e e') (clear : e.redirects tap = []) :
    e'.redirects tap = [] ∨ e'.ingressFilters = [Filter.redirect tap] := by
  cases h with
  | clearing shorn => exact .inl (List.sublist_nil.1 (clear ▸ shorn.ingress.filter _))
  | @ingress e₁ shorn none =>
      have same : e₁.withIngress.ingressFilters = e₁.ingressFilters := rfl
      exact .inl (by rw [redirects, same, none]; rfl)
  | joined shorn none => exact .inr (by rw [ingressFilters_joined, none]; rfl)

theorem Stage.ingress_unique (h : Stage tap e e')
    (unique : ∀ q ∈ e.qdiscs, q.isIngress = true → q = Qdisc.ingress) :
    ∀ q ∈ e'.qdiscs, q.isIngress = true → q = Qdisc.ingress := by
  have grown : ∀ e₁ : LinkRecord, Shorn e e₁ → ∀ q ∈ e₁.qdiscs ++ [Qdisc.ingress],
      q.isIngress = true → q = Qdisc.ingress := by
    intro e₁ shorn q member kind
    rcases List.mem_append.1 member with old | new
    · exact unique q (shorn.qdiscs.subset old) kind
    · exact List.mem_singleton.1 new
  cases h with
  | clearing shorn => exact fun q member => unique q (shorn.qdiscs.subset member)
  | ingress shorn | joined shorn => exact grown _ shorn

/-- The ingress filters are clear of redirects when every redirect was deleted. -/
theorem redirects_of_edits (h : Edits False dropFilter (e.redirects tap) e (.ok ()) e') :
    e'.redirects tap = [] := by
  rw [filters_of_edits h]
  apply List.filter_eq_nil_iff.2
  intro f member redirects
  obtain ⟨member, parent⟩ := List.mem_filter.1 member
  obtain ⟨held, kept⟩ := List.mem_filter.1 member
  have listed : f ∈ e.redirects tap := List.mem_filter.2 ⟨List.mem_filter.2 ⟨held, parent⟩, redirects⟩
  have met : meets (e.redirects tap) f = true := List.any_eq_true.2 ⟨f, listed, by simp⟩
  simp [met] at kept

/-- A cleanup that no failing call stops leaves no redirect. -/
theorem Released.redirects_eq (h : Released False tap e e') : e'.redirects tap = [] := by
  cases h with
  | stopped filters => cases filters.ok_of_total id fun f r => ⟨_, rfl⟩
  | inUse filters => exact redirects_of_edits filters
  | unused filters _ qdiscs =>
      have left := (shorn_of_qdisc_edits qdiscs).ingress.filter (·.redirectsTo tap)
      have none : LinkRecord.redirects _ tap = [] := redirects_of_edits filters
      exact List.sublist_nil.1 (none ▸ left)

/-- Queueing disciplines of the ingress kind that are all the same one go together. -/
theorem not_ingress_of_edits {result : Except Error Unit}
    (unique : ∀ q ∈ e.qdiscs, q.isIngress = true → q = Qdisc.ingress)
    (h : Edits False dropQdisc (e.qdiscs.filter (·.isIngress)) e result e') :
    ∀ q ∈ e'.qdiscs, q.isIngress = false := by
  intro q kept
  apply Bool.eq_false_iff.2
  intro kind
  have before : q ∈ e.qdiscs := (shorn_of_qdisc_edits h).qdiscs.subset kept
  have listed : q ∈ e.qdiscs.filter (·.isIngress) := List.mem_filter.2 ⟨before, kind⟩
  cases items : e.qdiscs.filter (·.isIngress) with
  | nil =>
      rw [items] at listed
      cases listed
  | cons first rest =>
      have member : first ∈ e.qdiscs.filter (·.isIngress) := items ▸ List.mem_cons_self
      obtain ⟨held, kindFirst⟩ := List.mem_filter.1 member
      have same : q = first := (unique q before kind).trans (unique first held kindFirst).symm
      rw [items] at h
      -- One removal takes every copy of `first`, and the later ones cannot bring it back.
      cases h with
      | failed fails => exact fails
      | refused refused =>
          rw [dropQdisc, delQdisc_of_mem held] at refused
          cases refused
      | next dropped later =>
          have gone : first ∉ LinkRecord.qdiscs _ := not_mem_of_delQdisc dropped
          exact gone ((shorn_of_qdisc_edits later).qdiscs.subset (same ▸ kept))

theorem Released.ingress_in_use (h : Released False tap e e')
    (unique : ∀ q ∈ e.qdiscs, q.isIngress = true → q = Qdisc.ingress)
    (either : e.redirects tap = [] ∨ e.ingressFilters = [Filter.redirect tap]) :
    ∀ q ∈ e'.qdiscs, q.isIngress = true → e'.ingressFilters ≠ [] := by
  intro q kept kind
  cases h with
  | stopped filters => cases filters.ok_of_total id fun f r => ⟨_, rfl⟩
  | inUse filters remaining =>
      rcases either with none | joined
      · rw [none] at filters remaining
        cases filters with
        | finished => exact List.ne_nil_of_length_pos remaining
      · rw [redirects, joined] at remaining
        simp at remaining
  | unused filters _ qdiscs =>
      have unique₁ := fun q member => unique q ((shorn_of_redirects filters).qdiscs.subset member)
      have gone := not_ingress_of_edits unique₁ qdiscs q kept
      rw [gone] at kind
      cases kind

end LinkRecord

theorem sublist_of_not_mem {α : Type} {l rest : List α} {x : α} (h : l.Sublist (rest ++ [x]))
    (absent : x ∉ l) : l.Sublist rest := by
  obtain ⟨front, last, rfl, left, right⟩ := List.sublist_append_iff.1 h
  have empty : last = [] := by
    apply List.eq_nil_iff_forall_not_mem.2
    intro y member
    apply absent
    rw [← List.mem_singleton.1 (right.subset member)]
    exact List.mem_append_right front member
  rw [empty, List.append_nil]
  exact left

/-- What is left of the physical link once a setup was reclaimed. -/
structure Reclaimed (e e' : LinkRecord) : Prop where
  rest : e' = { e with qdiscs := e'.qdiscs, filters := e'.filters }
  otherFilters : e'.otherFilters = e.otherFilters
  filters : e'.filters.Sublist e.filters
  redirects : ∀ f ∈ e'.filters, f.parent = Handle.ingress → f.redirectTo ≠ some "tap0_urunc"
  qdiscs : e'.qdiscs.Sublist e.qdiscs
  ingress : ∀ q ∈ e'.qdiscs, q.isIngress = true → ∃ f ∈ e'.filters, f.parent = Handle.ingress

theorem reclaimed {e e' e'' : LinkRecord} (stage : Stage AddressPlan.fixed.tapName e e')
    (released : Released False AddressPlan.fixed.tapName e' e'')
    (clear : e.redirects AddressPlan.fixed.tapName = [])
    (unique : ∀ q ∈ e.qdiscs, q.isIngress = true → q = Qdisc.ingress) : Reclaimed e e'' := by
  have inUse := released.ingress_in_use (stage.ingress_unique unique) (stage.redirects_or clear)
  have redirects := redirects_eq_nil.1 released.redirects_eq
  have shorn : Shorn e' e'' := released.shorn
  have own : Filter.redirect AddressPlan.fixed.tapName ∉ e''.filters := fun member =>
    redirects _ member rfl rfl
  -- The ingress queueing discipline of the setup carries its redirect or nothing.
  have free : e'.ingressFilters.Sublist ([] ++ [Filter.redirect AddressPlan.fixed.tapName]) →
      Qdisc.ingress ∉ e''.qdiscs := by
    intro few kept
    refine inUse _ kept (by decide) (List.sublist_nil.1 ?_)
    apply sublist_of_not_mem (shorn.ingress.trans few)
    intro member
    apply own
    exact (List.mem_filter.1 member).1
  constructor
  · rw [shorn.rest, stage.rest]
  · exact shorn.other.trans stage.otherFilters
  · cases stage with
    | clearing before | ingress before => exact shorn.filters.trans before.filters
    | joined before => exact (sublist_of_not_mem shorn.filters own).trans before.filters
  · exact redirects
  · cases stage with
    | clearing before => exact shorn.qdiscs.trans before.qdiscs
    | @ingress e₁ before none =>
        have few : e₁.withIngress.ingressFilters = [] := none
        have gone := free (few ▸ List.nil_sublist _)
        exact (sublist_of_not_mem shorn.qdiscs gone).trans before.qdiscs
    | @joined e₁ before none =>
        have few := ingressFilters_joined e₁ AddressPlan.fixed.tapName
        rw [none] at few
        have gone := free (few ▸ List.Sublist.refl _)
        exact (sublist_of_not_mem shorn.qdiscs gone).trans before.qdiscs
  · intro q kept kind
    obtain ⟨f, member⟩ := List.exists_mem_of_ne_nil _ (inUse q kept kind)
    exact ⟨f, (List.mem_filter.1 member).1, parent_of_mem_ingressFilters member⟩

/-- What is left of a namespace once a setup was reclaimed. -/
structure Restored (strategy : Strategy) (s s' : Netns) : Prop where
  tap : s'.links.get? "tap0_urunc" = none
  uplink : ∃ e e', s.links.get? "eth0" = some e ∧ s'.links.get? "eth0" = some e' ∧ Reclaimed e e'
  others : ∀ name, name ≠ "eth0" → s'.links.get? name = s.links.get? name
  nat : s'.nat = s.nat.filter (· ≠ ⟨"eth0", ⟨⟨172, 16, 1, 0⟩, 24⟩⟩)
  routes : s'.routes = s.routes
  forwarding : s'.forwarding = s.forwarding ∨ strategy.scheme = .static ∧ s'.forwarding = true
  nextIndex : s'.nextIndex.toNat = s.nextIndex.toNat + 1

/-- What a cleanup needs of a namespace to reclaim every setup that starts there. -/
structure Reclaimable (s : Netns) : Prop where
  fresh : s.links.get? "tap0_urunc" = none
  unique : ∀ e, s.links.get? "eth0" = some e → ∀ q ∈ e.qdiscs, q.isIngress = true → q = Qdisc.ingress
  clear : ∀ e, s.links.get? "eth0" = some e →
    ∀ f ∈ e.filters, f.parent = Handle.ingress → f.redirectTo ≠ some "tap0_urunc"
  once : s.nat.count ⟨"eth0", ⟨⟨172, 16, 1, 0⟩, 24⟩⟩ ≤ 1

theorem rulesWithout_fixed (rules : List NatRule) :
    rulesWithout AddressPlan.fixed.tapName rules = rules.erase sandboxRule := by
  have plan : AddressPlan.ofTapName? AddressPlan.fixed.tapName = some AddressPlan.fixed := by decide
  rw [rulesWithout, plan]
  rfl

/-- The cleanup of a sandbox that is there. -/
theorem always_release {s : Netns} {e t : LinkRecord} {rules : List NatRule} {on : Bool}
    (named : (s.withSandbox e t rules on).Named)
    (fresh : s.links.get? AddressPlan.fixed.tapName = none) :
    (Cleanup.run AddressPlan.fixed.tapName).Always (Answers False) (s.withSandbox e t rules on)
      fun result s' => result = .ok () ∧ ∃ e', Released False AddressPlan.fixed.tapName e e' ∧
        s' = s.withoutSandbox e' (rules.erase sandboxRule) on := by
  apply (Cleanup.always_run named uplink_ne_tapName.symm).mono
  intro result s' ending
  cases ending with
  | unresolved stopped =>
      obtain ⟨missing, _⟩ := stopped.resolve_right id
      rw [get?_withSandbox_tap] at missing
      cases missing
  | undeleted fails => exact absurd fails id
  | deleted _ releases nat =>
      refine ⟨rfl, ?_⟩
      cases releases with
      | absent missing =>
          rw [get?_withSandbox_uplink] at missing
          cases missing
      | skipped fails => exact absurd fails id
      | @released _ e' held released =>
          rw [get?_withSandbox_uplink] at held
          cases held
          have left := nat.resolve_right fun h => h.1
          rw [rulesWithout_fixed] at left
          subst left
          refine ⟨e', released, ?_⟩
          rw [withSandbox_put_uplink, ← withSandbox_erase fresh]
          rfl

theorem restored {s : Netns} {strategy : Strategy} {uid gid : UInt32} {faulty : Prop}
    {result : Except Error Descriptor} {e e' e'' t' : LinkRecord} {rules : List NatRule}
    {on : Bool} (room : s.nextIndex < 0xffffffff) (reclaimable : Reclaimable s)
    (held : s.links.get? Uplink.name = some e)
    (built : Strategy.Built faulty s strategy uid gid e result e' t' rules on)
    (released : Released False AddressPlan.fixed.tapName e' e'') :
    Restored strategy s (s.withoutSandbox e'' (rules.erase sandboxRule) on) := by
  have clear : e.redirects AddressPlan.fixed.tapName = [] :=
    redirects_eq_nil.2 (tapName_fixed ▸ reclaimable.clear e held)
  have once : s.nat.count sandboxRule ≤ 1 := reclaimable.once
  have others : ∀ name, name ≠ Uplink.name →
      (s.withoutSandbox e'' (rules.erase sandboxRule) on).links.get? name = s.links.get? name :=
    fun name notUplink => NameMap.get?_insert_of_ne _ _ notUplink
  constructor
  · exact (others _ (by decide)).trans reclaimable.fresh
  · refine ⟨e, e'', held, ?_, reclaimed built.uplink released clear (reclaimable.unique e held)⟩
    exact NameMap.get?_insert_self _ _ _
  · exact others
  · show rules.erase sandboxRule = _
    rcases built.nat with kept | adopted
    · rw [kept]
      exact Masquerade.erase_of_count_le_one once
    · rw [adopted]
      exact Scheme.erase_rules once strategy.scheme
  · rfl
  · rcases built.forwarding with kept | forwards
    · exact .inl kept
    · cases scheme : strategy.scheme with
      | static => exact .inr ⟨rfl, by rw [scheme] at forwards; exact forwards⟩
      | dynamic => exact .inl (by rw [scheme] at forwards; exact forwards)
  · exact toNat_succ (Nat.succ_lt_succ (UInt32.lt_iff_toNat_lt.1 room))

theorem always_reclaim {s s₁ : Netns} {strategy : Strategy} {uid gid : UInt32} {faulty : Prop}
    {result : Except Error Descriptor} (named : s.Named) (room : s.nextIndex < 0xffffffff)
    (reclaimable : Reclaimable s) (outcome : Strategy.Outcome faulty s strategy uid gid result s₁) :
    (Cleanup.run AddressPlan.fixed.tapName).Always (Answers False) s₁ fun result s₂ =>
      (s₁ = s ∧ s₂ = s₁ ∧ result = .error (.linkNotFound AddressPlan.fixed.tapName)) ∨
      (s₁.links.contains AddressPlan.fixed.tapName = true ∧ result = .ok () ∧
        Restored strategy s s₂) := by
  cases outcome with
  | unmade =>
      apply (Cleanup.always_run named uplink_ne_tapName.symm).mono
      intro result s₂ ending
      refine .inl ?_
      cases ending with
      | unresolved stopped =>
          obtain ⟨_, rfl⟩ := stopped.resolve_right id
          exact ⟨rfl, rfl, rfl⟩
      | undeleted fails => exact absurd fails id
      | deleted held =>
          rw [tapName_fixed, reclaimable.fresh] at held
          cases held
  | @made e e' t' rules on _ held fresh built =>
      have uplink : e'.link.name = Uplink.name := by
        rw [built.uplink.link]
        exact named.link_name held
      have present : (s.withSandbox e' t' rules on).links.contains AddressPlan.fixed.tapName = true :=
        NameMap.contains_eq_true.2 ⟨t', get?_withSandbox_tap⟩
      have named₁ : (s.withSandbox e' t' rules on).Named :=
        named_withSandbox named uplink (by rw [built.tap]; rfl)
      apply (always_release named₁ fresh).mono
      rintro result _ ⟨rfl, e'', released, rfl⟩
      exact .inr ⟨present, rfl, restored room reclaimable held built released⟩

theorem setup_reclaimed (schedule : Schedule) (strategy : Strategy) (uid gid : UInt32) {s : Netns}
    (named : s.Named) (room : s.nextIndex < 0xffffffff) (reclaimable : Reclaimable s) :
    let s₁ := ((strategy.setup uid gid).run (kernel.failing schedule) (0, s)).state.2
    let cleanup := (Cleanup.run "tap0_urunc").run kernel s₁
    s₁.Unarmed →
      (s₁.links.contains "tap0_urunc" = true → cleanup.result = .ok () ∧
        Restored strategy s cleanup.state) ∧
      (s₁.links.contains "tap0_urunc" = false → s₁.arm none = s.arm none ∧
        cleanup.result = .error (.linkNotFound "tap0_urunc") ∧
        cleanup.state.arm none = s.arm none) := by
  intro s₁ cleanup calm
  have always : (strategy.setup uid gid).Always (Answers True) (s.arm none)
      (Strategy.Outcome True (s.arm none) strategy uid gid) := Strategy.always_setup strategy named
  have outcome := always.run_failing schedule 0
  have reclaimable' : Reclaimable (s.arm none) := { reclaimable with }
  have reclaims := (always_reclaim (s := s.arm none) named room reclaimable' outcome).run_calm calm
  rw [tapName_fixed] at reclaims
  rcases reclaims with ⟨unmade, kept, result⟩ | ⟨present, result, restored⟩
  · refine ⟨?_, fun _ => ⟨unmade, result, kept.trans unmade⟩⟩
    intro present
    have absent : s₁.links.contains "tap0_urunc" = false := by
      show (s₁.arm none).links.contains "tap0_urunc" = false
      rw [unmade]
      exact NameMap.contains_eq_false.2 reclaimable.fresh
    rw [absent] at present
    cases present
  · refine ⟨fun _ => ⟨result, { restored with }⟩, ?_⟩
    intro absent
    have absent : (s₁.arm none).links.contains "tap0_urunc" = false := absent
    rw [present] at absent
    cases absent

theorem setup_reclaimed_withEth0 :
    withEth0.Named ∧ withEth0.nextIndex < 0xffffffff ∧ Reclaimable withEth0 ∧
      let schedule : Schedule := fun position =>
        if position = 12 then some (.kernelOperation "add_filter" "operation not permitted") else none
      let s₁ := ((Strategy.setup ⟨.static, 1⟩ 1000 1000).run (kernel.failing schedule)
        (0, withEth0)).state.2
      let cleanup := (Cleanup.run "tap0_urunc").run kernel s₁
      s₁.Unarmed ∧ cleanup.result = .ok () ∧ Restored ⟨.static, 1⟩ withEth0 cleanup.state := by
  have named : withEth0.Named := by decide
  have room : withEth0.nextIndex < 0xffffffff := by decide
  have reclaimable : Reclaimable withEth0 := by
    have bare : ∀ e, withEth0.links.get? "eth0" = some e → e.qdiscs = [] ∧ e.filters = [] := by
      intro e held
      cases held
      exact ⟨rfl, rfl⟩
    refine ⟨by decide, ?_, ?_, by decide⟩
    · intro e held
      rw [(bare e held).1]
      nofun
    · intro e held
      rw [(bare e held).2]
      nofun
  refine ⟨named, room, reclaimable, ?_⟩
  intro schedule s₁ cleanup
  have calm : s₁.Unarmed := unarmed_of_failNext (by decide)
  have reclaims := setup_reclaimed schedule ⟨.static, 1⟩ 1000 1000 named room reclaimable calm
  exact ⟨calm, reclaims.1 (by decide)⟩

end SandboxNet
