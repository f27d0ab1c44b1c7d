import SandboxNet.Proofs.Sandbox.Isolation

/-! # The order of two cleanups

Whichever of two devices goes first, its cleanup may find the filters of the other one and leave the
ingress queueing discipline to it. In either order the discipline goes exactly when neither leaves an
ingress filter behind, and the rules and the devices that go are the same.
-/

namespace SandboxNet

open Program LinkRecord Netns Tc

namespace LinkRecord

variable {a b : String} {e e₁ e₂ e₁' e₂' : LinkRecord}

/-- A link whose ingress filters have different priorities wherever they redirect to different
devices, or only one of them redirects, and that has no second ingress queueing discipline. -/
structure Separated (e : LinkRecord) : Prop where
  ingress : e.qdiscs.countP (·.isIngress) ≤ 1
  priorities : ∀ f ∈ e.ingressFilters, ∀ g ∈ e.ingressFilters,
    f.redirectTo ≠ g.redirectTo → f.priority ≠ g.priority

theorem Separated.separable (h : e.Separated) (tap : String) : e.Separable tap where
  ingress := h.ingress
  priorities := by
    intro f listedF g listedG redirects foreign
    apply h.priorities f listedF g listedG
    intro same
    rw [Filter.redirectsTo, same] at redirects
    rw [Filter.redirectsTo, redirects] at foreign
    cases foreign

namespace Relieved

theorem link (h : Relieved a e e₁) : e₁.link = e.link := by rw [h.rest]

theorem ingressFilters_sublist (h : Relieved a e e₁) :
    e₁.ingressFilters.Sublist e.ingressFilters := by
  rw [ingressFilters, h.filters]
  exact List.filter_sublist.filter _

theorem qdiscs_sublist (h : Relieved a e e₁) : e₁.qdiscs.Sublist e.qdiscs := by
  by_cases clear : e₁.ingressFilters = []
  · rw [h.unused clear]
    exact List.filter_sublist
  · exact h.inUse clear ▸ List.Sublist.refl e₁.qdiscs

theorem separable (h : Relieved a e e₁) (separable : e.Separable b) : e₁.Separable b where
  ingress := Nat.le_trans h.qdiscs_sublist.countP_le separable.ingress
  priorities f listedF g listedG :=
    separable.priorities f (h.ingressFilters_sublist.subset listedF) g
      (h.ingressFilters_sublist.subset listedG)

open Classical in
/-- An ingress queueing discipline goes once, with everything below it. -/
theorem filter_onIngress_idem (qdiscs : List Qdisc) :
    let left := qdiscs.filter fun q => ¬ q.OnIngress qdiscs
    left.filter (fun q => ¬ q.OnIngress left) = left := by
  intro left
  apply List.filter_eq_self.2
  intro q _
  apply decide_eq_true
  rintro ⟨root, kept, kind, -⟩
  obtain ⟨member, spared⟩ := List.mem_filter.1 kept
  exact of_decide_eq_true spared ⟨root, member, kind, .inl rfl⟩

open Classical in
/-- What two cleanups make of the queueing disciplines depends on the filters that both leave. -/
theorem qdiscs_of_two (first : Relieved a e e₁) (second : Relieved b e₁ e₂) :
    e₂.qdiscs = if e₂.ingressFilters = [] then e.qdiscs.filter fun q => ¬ q.OnIngress e.qdiscs
      else e.qdiscs := by
  by_cases clear : e₂.ingressFilters = []
  · rw [if_pos clear, second.unused clear]
    by_cases before : e₁.ingressFilters = []
    · rw [first.unused before]
      exact filter_onIngress_idem e.qdiscs
    · rw [first.inUse before]
  · have before : e₁.ingressFilters ≠ [] := fun none =>
      clear (List.sublist_nil.1 (none ▸ second.ingressFilters_sublist))
    rw [if_neg clear, second.inUse clear, first.inUse before]

theorem filters_of_two (first : Relieved a e e₁) (second : Relieved b e₁ e₂) :
    e₂.filters = e.filters.filter fun f =>
      !(f.parent == Handle.ingress && f.redirectsTo b) &&
        !(f.parent == Handle.ingress && f.redirectsTo a) := by
  rw [second.filters, first.filters, List.filter_filter]

theorem comm (first : Relieved a e e₁) (second : Relieved b e₁ e₂) (first' : Relieved b e e₁')
    (second' : Relieved a e₁' e₂') : e₂ = e₂' := by
  have filters : e₂.filters = e₂'.filters := by
    rw [filters_of_two first second, filters_of_two first' second']
    simp only [Bool.and_comm]
  have qdiscs : e₂.qdiscs = e₂'.qdiscs := by
    rw [qdiscs_of_two first second, qdiscs_of_two first' second', ingressFilters, ingressFilters,
      filters]
  rw [second.rest, first.rest, second'.rest, first'.rest, filters, qdiscs]

end Relieved

end LinkRecord

namespace Netns

variable {a b : String} {s s₁ s₂ s₁' s₂' : Netns}

theorem rulesWithout_comm (a b : String) (rules : List NatRule) :
    rulesWithout a (rulesWithout b rules) = rulesWithout b (rulesWithout a rules) := by
  simp only [rulesWithout]
  cases AddressPlan.ofTapName? a with
  | none => rfl
  | some planA =>
      cases AddressPlan.ofTapName? b with
      | none => rfl
      | some planB => exact List.erase_comm _ _

namespace Isolated

theorem named (h : Isolated a s s₁) (named : s.Named) : s₁.Named := by
  apply named_iff.2
  intro name r held
  by_cases device : name = a
  · subst device
    rw [h.device] at held
    cases held
  by_cases uplink : name = Uplink.name
  · subst uplink
    cases before : s.links.get? Uplink.name with
    | none =>
        rw [h.absent before] at held
        cases held
    | some e =>
        obtain ⟨e', held', relieved⟩ := h.uplink e before
        obtain rfl : e' = r := Option.some.inj (held'.symm.trans held)
        rw [relieved.link]
        exact named.link_name before
  · rw [h.others name device uplink] at held
    exact named.link_name held

theorem separable (h : Isolated a s s₁)
    (separable : ∀ e, s.links.get? Uplink.name = some e → e.Separable b) :
    ∀ e, s₁.links.get? Uplink.name = some e → e.Separable b := by
  intro e' held
  cases before : s.links.get? Uplink.name with
  | none =>
      rw [h.absent before] at held
      cases held
  | some e =>
      obtain ⟨e₁, held₁, relieved⟩ := h.uplink e before
      obtain rfl : e₁ = e' := Option.some.inj (held₁.symm.trans held)
      exact relieved.separable (separable e before)

/-- What two cleanups leave does not depend on their order, whatever the devices are. -/
theorem comm (different : a ≠ b) (notA : a ≠ Uplink.name) (notB : b ≠ Uplink.name)
    (first : Isolated a s s₁) (second : Isolated b s₁ s₂)
    (first' : Isolated b s s₁') (second' : Isolated a s₁' s₂') : s₂ = s₂' := by
  have nat : s₂.nat = s₂'.nat := by
    rw [second.nat, first.nat, second'.nat, first'.nat, rulesWithout_comm]
  have links : s₂.links = s₂'.links := by
    apply NameMap.ext_get?
    intro name
    by_cases isA : name = a
    · subst isA
      rw [second.others _ different notA, first.device, second'.device]
    by_cases isB : name = b
    · subst isB
      rw [second.device, second'.others _ different.symm notB, first'.device]
    by_cases uplink : name = Uplink.name
    · subst uplink
      cases held : s.links.get? Uplink.name with
      | none => rw [second.absent (first.absent held), second'.absent (first'.absent held)]
      | some e =>
          obtain ⟨e₁, held₁, relieved₁⟩ := first.uplink e held
          obtain ⟨e₂, held₂, relieved₂⟩ := second.uplink e₁ held₁
          obtain ⟨e₁', held₁', relieved₁'⟩ := first'.uplink e held
          obtain ⟨e₂', held₂', relieved₂'⟩ := second'.uplink e₁' held₁'
          rw [held₂, held₂', relieved₁.comm relieved₂ relieved₁' relieved₂']
    · rw [second.others _ isB uplink, first.others _ isA uplink, second'.others _ isA uplink,
        first'.others _ isB uplink]
  rw [second.rest, first.rest, second'.rest, first'.rest, nat, links]

end Isolated

end Netns

namespace Cleanup

variable {a b tap : String} {s : Netns} {t : LinkRecord}

theorem always_isolates (named : s.Named) (notUplink : tap ≠ Uplink.name)
    (held : s.links.get? tap = some t)
    (separable : ∀ e, s.links.get? Uplink.name = some e → e.Separable tap) :
    (run tap).Always (Answers False) s fun result s' => result = .ok () ∧ Isolated tap s s' := by
  apply (always_run named notUplink).mono
  intro result s' ending
  cases ending with
  | unresolved stopped =>
      rw [(stopped.resolve_right id).1] at held
      cases held
  | undeleted fails => exact fails.elim
  | deleted _ releases nat =>
      obtain rfl := nat.resolve_right fun stopped => stopped.1
      exact ⟨rfl, releases.leaves_isolated notUplink separable⟩

/-- A cleanup of one device leaves another one ready for its own. -/
theorem two_isolated (named : s.Named) (calm : s.Unarmed) (different : a ≠ b)
    (notA : a ≠ Uplink.name) (notB : b ≠ Uplink.name) {r : LinkRecord}
    (heldA : s.links.get? a = some t) (heldB : s.links.get? b = some r)
    (separated : ∀ e, s.links.get? Uplink.name = some e → e.Separated) :
    let first := (run a).run kernel s
    let second := (run b).run kernel first.state
    (first.result = .ok () ∧ Isolated a s first.state) ∧
      second.result = .ok () ∧ Isolated b first.state second.state := by
  intro first second
  have separable : ∀ tap e, s.links.get? Uplink.name = some e → e.Separable tap :=
    fun tap e held => (separated e held).separable tap
  obtain ⟨isolated, calm₁⟩ := (always_isolates named notA heldA (separable a)).run_unarmed calm
  have held₁ : first.state.links.get? b = some r := by
    rw [isolated.2.others b different.symm notB, heldB]
  have isolated₁ := always_isolates (isolated.2.named named) notB held₁
    (isolated.2.separable (separable b))
  exact ⟨isolated, (isolated₁.run_unarmed calm₁).1⟩

theorem order_irrelevant {r : LinkRecord} (named : s.Named) (calm : s.Unarmed) (different : a ≠ b)
    (notA : a ≠ Uplink.name) (notB : b ≠ Uplink.name)
    (heldA : s.links.get? a = some t) (heldB : s.links.get? b = some r)
    (separated : ∀ e, s.links.get? Uplink.name = some e → e.Separated) :
    let firstA := (run a).run kernel s
    let thenB := (run b).run kernel firstA.state
    let firstB := (run b).run kernel s
    let thenA := (run a).run kernel firstB.state
    (firstA.result = .ok () ∧ thenB.result = .ok ()) ∧
      (firstB.result = .ok () ∧ thenA.result = .ok ()) ∧ thenB.state = thenA.state := by
  intro firstA thenB firstB thenA
  obtain ⟨⟨okA, isolatedA⟩, okB, isolatedB⟩ :=
    two_isolated named calm different notA notB heldA heldB separated
  obtain ⟨⟨okB', isolatedB'⟩, okA', isolatedA'⟩ :=
    two_isolated named calm different.symm notB notA heldB heldA separated
  have same : thenB.state = thenA.state :=
    isolatedA.comm different notA notB isolatedB isolatedB' isolatedA'
  exact ⟨⟨okA, okB⟩, ⟨okB', okA'⟩, same⟩

theorem order_irrelevant_withEth0 :
    let e : LinkRecord := {
      link := ⟨2, Uplink.name, 1500⟩, up := true, tap := none
      addrs := LinkAddrs.none, extraAddrs := []
      qdiscs := [⟨"pfifo", ⟨5, 0⟩, ⟨0xffff, 2⟩⟩, Qdisc.ingress]
      filters := [Filter.redirect "tap254_urunc",
        ⟨Handle.ingress, 2, "all", some "tap255_urunc"⟩] }
    let rule := NatRule.masquerade Uplink.name (AddressPlan.ofIndex 254).subnet
    let s := { ((withEth0.insertLink "tap254_urunc" 1500 LinkAddrs.none).insertLink "tap255_urunc"
      1500 LinkAddrs.none).put Uplink.name e with nat := [rule, rule] }
    s.Named ∧ s.Unarmed ∧ "tap254_urunc" ≠ "tap255_urunc" ∧ "tap254_urunc" ≠ Uplink.name ∧
      "tap255_urunc" ≠ Uplink.name ∧ (∃ t, s.links.get? "tap254_urunc" = some t) ∧
      (∃ t, s.links.get? "tap255_urunc" = some t) ∧
      (∀ e, s.links.get? Uplink.name = some e → e.Separated) ∧
      let first := (run "tap254_urunc").run kernel s
      let second := (run "tap255_urunc").run kernel first.state
      let first' := (run "tap255_urunc").run kernel s
      let second' := (run "tap254_urunc").run kernel first'.state
      (first.result = .ok () ∧ second.result = .ok ()) ∧
        (first'.result = .ok () ∧ second'.result = .ok ()) ∧ second.state = second'.state := by
  intro e rule s
  have named : s.Named := by decide
  have calm : s.Unarmed := unarmed_of_failNext rfl
  obtain ⟨t, heldT⟩ : ∃ t, s.links.get? "tap254_urunc" = some t :=
    Option.isSome_iff_exists.1 (by decide)
  obtain ⟨r, heldR⟩ : ∃ r, s.links.get? "tap255_urunc" = some r :=
    Option.isSome_iff_exists.1 (by decide)
  have separated : ∀ e, s.links.get? Uplink.name = some e → e.Separated := by
    intro found same
    obtain rfl : e = found := Option.some.inj ((NameMap.get?_insert_self _ _ _).symm.trans same)
    exact ⟨by decide, by decide⟩
  exact ⟨named, calm, by decide, by decide, by decide, ⟨t, heldT⟩, ⟨r, heldR⟩, separated,
    order_irrelevant named calm (by decide) (by decide) (by decide) heldT heldR separated⟩

end Cleanup

end SandboxNet
