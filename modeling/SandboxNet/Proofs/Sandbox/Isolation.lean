import SandboxNet.Proofs.Redirects
import SandboxNet.Proofs.Sandbox.Cleanup

/-! # What a cleanup leaves to the others

A cleanup that no failing call disturbs takes away its device, the redirects to it and one masquerade
rule. The ingress queueing discipline of the physical link goes only when no ingress filter is left,
and then with what hangs below it.
-/

namespace SandboxNet

open Program LinkRecord Netns Tc

/-- Whether a queueing discipline of a list is an ingress one, or hangs below one. -/
def Tc.Qdisc.OnIngress (q : Qdisc) (qdiscs : List Qdisc) : Prop :=
  ∃ root ∈ qdiscs, root.isIngress = true ∧ (q = root ∨ q.Swept [root.handle.major] qdiscs)

namespace LinkRecord

variable {tap : String} {e e' e₁ : LinkRecord}

/-- A link whose redirects to a device can be told from its other ingress filters by priority, and
that has no second ingress queueing discipline. -/
structure Separable (tap : String) (e : LinkRecord) : Prop where
  ingress : e.qdiscs.countP (·.isIngress) ≤ 1
  priorities : ∀ f ∈ e.ingressFilters, ∀ g ∈ e.ingressFilters,
    f.redirectsTo tap = true → g.redirectsTo tap = false → f.priority ≠ g.priority

open Classical in
/-- A link that lost its ingress filters to a device, and its ingress queueing discipline if no
other ingress filter needs it. -/
structure Relieved (tap : String) (e e' : LinkRecord) : Prop where
  rest : e' = { e with qdiscs := e'.qdiscs, filters := e'.filters }
  filters : e'.filters = e.filters.filter fun f => !(f.parent == Handle.ingress && f.redirectsTo tap)
  inUse : e'.ingressFilters ≠ [] → e'.qdiscs = e.qdiscs
  unused : e'.ingressFilters = [] → e'.qdiscs = e.qdiscs.filter fun q => ¬ q.OnIngress e.qdiscs

theorem meets_redirects (separable : e.Separable tap) {f : Filter} (member : f ∈ e.filters) :
    meets (e.redirects tap) f = (f.parent == Handle.ingress && f.redirectsTo tap) := by
  rw [meets_redirects_eq]
  cases parent : f.parent == Handle.ingress with
  | false => rfl
  | true =>
      have listed : f ∈ e.ingressFilters := List.mem_filter.2 ⟨member, parent⟩
      cases redirects : f.redirectsTo tap with
      | false => exact apart_iff.1 separable.priorities f (List.mem_filter.2 ⟨listed, by simp [redirects]⟩)
      | true => exact sharesPriority_of_redirect (List.mem_filter.2 ⟨listed, redirects⟩)

theorem filters_of_redirects (separable : e.Separable tap)
    (edits : Edits False dropFilter (e.redirects tap) e (.ok ()) e₁) :
    e₁ = { e with
      filters := e.filters.filter fun f => !(f.parent == Handle.ingress && f.redirectsTo tap) } := by
  rw [filters_of_edits edits]
  congr 1
  apply List.filter_congr
  intro f member
  rw [meets_redirects separable member]

/-- The count that decides about the ingress queueing discipline is that of the filters left. -/
theorem length_ingressFilters (separable : e.Separable tap)
    (edits : Edits False dropFilter (e.redirects tap) e (.ok ()) e₁) :
    e₁.ingressFilters.length = e.ingressFilters.length - (e.redirects tap).length :=
  ((unlinked_of_edits edits).count_iff.2 separable.priorities).symm

section

variable {root : Qdisc} (alone : e.qdiscs.filter (·.isIngress) = [root])

include alone

theorem onIngress_iff {q : Qdisc} :
    q.OnIngress e.qdiscs ↔ q = root ∨ q.Swept [root.handle.major] e.qdiscs := by
  have listed : ∀ p, p ∈ e.qdiscs ∧ p.isIngress = true ↔ p = root := by
    intro p
    rw [← List.mem_filter, alone, List.mem_singleton]
  constructor
  · rintro ⟨other, member, kind, below⟩
    obtain rfl := (listed other).1 ⟨member, kind⟩
    exact below
  · intro below
    obtain ⟨member, kind⟩ := (listed root).2 rfl
    exact ⟨root, member, kind, below⟩

open Classical in
theorem delQdisc_ingress (clear : e.ingressFilters = []) :
    e.delQdisc root = .ok { e with qdiscs := e.qdiscs.filter fun q => ¬ q.OnIngress e.qdiscs } := by
  have member : root ∈ e.qdiscs.filter (·.isIngress) := alone ▸ List.mem_singleton_self root
  obtain ⟨held, kind⟩ := List.mem_filter.1 member
  have deleted := delQdisc_of_mem held
  have qdiscs := qdiscs_of_delQdisc deleted
  have kept : e.filters.filter (·.parent ≠ Handle.ingress) = e.filters := by
    apply List.filter_eq_self.2
    intro f attached
    simpa using List.filter_eq_nil_iff.1 clear f attached
  rw [if_pos kind, kept] at deleted
  simp only [onIngress_iff alone, not_or]
  rw [deleted]
  congr 2

end

open Classical in
theorem qdiscs_of_deleteIngress {result : Except Error Unit} {e₂ : LinkRecord}
    (clear : e₁.ingressFilters = []) (one : e₁.qdiscs.countP (·.isIngress) ≤ 1)
    (edits : Edits False dropQdisc (e₁.qdiscs.filter (·.isIngress)) e₁ result e₂) :
    e₂ = { e₁ with qdiscs := e₁.qdiscs.filter fun q => ¬ q.OnIngress e₁.qdiscs } := by
  rw [List.countP_eq_length_filter] at one
  cases items : e₁.qdiscs.filter (·.isIngress) with
  | nil =>
      rw [items] at edits
      have all : e₁.qdiscs.filter (fun q => ¬ q.OnIngress e₁.qdiscs) = e₁.qdiscs := by
        apply List.filter_eq_self.2
        intro q _
        apply decide_eq_true
        rintro ⟨root, member, kind, _⟩
        exact List.filter_eq_nil_iff.1 items root member kind
      rw [all]
      cases edits with
      | finished => rfl
      | failed fails => exact fails.elim
  | cons root rest =>
      obtain rfl : rest = [] := by
        rw [items] at one
        exact List.length_eq_zero_iff.1 (by simpa using one)
      have deleted := delQdisc_ingress items clear
      rw [items] at edits
      cases edits with
      | failed fails => exact fails.elim
      | refused refused =>
          rw [dropQdisc, deleted] at refused
          cases refused
      | next dropped later =>
          rw [dropQdisc, deleted] at dropped
          cases dropped
          cases later with
          | finished => rfl
          | failed fails => exact fails.elim

theorem Released.relieved (h : Released False tap e e') (separable : e.Separable tap) :
    Relieved tap e e' := by
  cases h with
  | stopped filters => cases filters.ok_of_total id fun f r => ⟨_, rfl⟩
  | inUse filters remaining =>
      rw [← length_ingressFilters separable filters] at remaining
      have used : e'.ingressFilters ≠ [] := List.ne_nil_of_length_pos remaining
      obtain rfl := filters_of_redirects separable filters
      exact ⟨rfl, rfl, fun _ => rfl, fun clear => absurd clear used⟩
  | @unused e₁ _ _ filters remaining qdiscs =>
      rw [← length_ingressFilters separable filters] at remaining
      have clear : e₁.ingressFilters = [] := List.length_eq_zero_iff.1 (by omega)
      obtain rfl := filters_of_redirects separable filters
      obtain rfl := qdiscs_of_deleteIngress clear separable.ingress qdiscs
      exact ⟨rfl, rfl, fun used => absurd clear used, fun _ => rfl⟩

end LinkRecord

namespace Netns

/-- A namespace without a device and what a sandbox behind it had of the host. -/
structure Isolated (tap : String) (s s' : Netns) : Prop where
  rest : s' = { s with links := s'.links, nat := s'.nat }
  device : s'.links.get? tap = none
  uplink : ∀ e, s.links.get? Uplink.name = some e →
    ∃ e', s'.links.get? Uplink.name = some e' ∧ Relieved tap e e'
  absent : s.links.get? Uplink.name = none → s'.links.get? Uplink.name = none
  others : ∀ name, name ≠ tap → name ≠ Uplink.name → s'.links.get? name = s.links.get? name
  nat : s'.nat = rulesWithout tap s.nat

theorem Releases.leaves_isolated {tap : String} {s s₁ : Netns} (h : Releases False tap s s₁)
    (different : tap ≠ Uplink.name)
    (separable : ∀ e, s.links.get? Uplink.name = some e → e.Separable tap) :
    Isolated tap s { s₁ with links := s₁.links.erase tap, nat := rulesWithout tap s.nat } := by
  have gone : ∀ links : NameMap LinkRecord, (links.erase tap).get? tap = none := fun links =>
    NameMap.get?_erase_self links tap
  cases h with
  | skipped fails => exact fails.elim
  | absent missing =>
      refine ⟨rfl, gone _, fun e held => ?_, fun _ => ?_, fun name other _ => ?_, rfl⟩
      · rw [missing] at held
        cases held
      · exact (NameMap.get?_erase_of_ne _ different.symm).trans missing
      · exact NameMap.get?_erase_of_ne _ other
  | @released e e' held released =>
      have left : ∀ name, name ≠ tap →
          ((s.links.insert Uplink.name e').erase tap).get? name =
            (s.links.insert Uplink.name e').get? name := fun name other =>
        NameMap.get?_erase_of_ne _ other
      refine ⟨rfl, gone _, fun e₀ same => ?_, fun missing => ?_, fun name other foreign => ?_, rfl⟩
      · obtain rfl : e = e₀ := Option.some.inj (held.symm.trans same)
        refine ⟨e', ?_, released.relieved (separable e held)⟩
        exact (left _ different.symm).trans (NameMap.get?_insert_self _ _ _)
      · rw [missing] at held
        cases held
      · exact (left _ other).trans (NameMap.get?_insert_of_ne _ _ foreign)

end Netns

namespace Cleanup

theorem isolated {s : Netns} {tap : String} {t : LinkRecord} (named : s.Named) (calm : s.Unarmed)
    (notUplink : tap ≠ Uplink.name) (held : s.links.get? tap = some t)
    (separable : ∀ e, s.links.get? Uplink.name = some e → e.Separable tap) :
    let r := (run tap).run kernel s
    r.result = .ok () ∧ Isolated tap s r.state := by
  intro r
  have ending : Ending False s tap r.result r.state :=
    ((always_run named notUplink).run_unarmed calm).1
  generalize r.result = result, r.state = s' at ending ⊢
  cases ending with
  | unresolved stopped =>
      rw [(stopped.resolve_right id).1] at held
      cases held
  | undeleted fails => exact fails.elim
  | deleted _ releases nat =>
      obtain rfl := nat.resolve_right fun stopped => stopped.1
      exact ⟨rfl, releases.leaves_isolated notUplink separable⟩

theorem isolated_withEth0 :
    let rule := NatRule.masquerade Uplink.name AddressPlan.fixed.subnet
    let e : LinkRecord := {
      link := ⟨2, Uplink.name, 1500⟩, up := true, tap := none
      addrs := LinkAddrs.none, extraAddrs := []
      qdiscs := [⟨"htb", ⟨1, 0⟩, Handle.root⟩, Qdisc.ingress, ⟨"pfifo", ⟨5, 0⟩, ⟨0xffff, 2⟩⟩]
      filters := [Filter.redirect "tap0_urunc", ⟨⟨1, 0⟩, 1, "ip", some "tap0_urunc"⟩] }
    let s := { (withEth0.insertLink "tap0_urunc" 1500 LinkAddrs.none).put Uplink.name e with
      nat := [rule, rule] }
    s.Named ∧ s.Unarmed ∧ "tap0_urunc" ≠ Uplink.name ∧
      (∃ t, s.links.get? "tap0_urunc" = some t) ∧
      (∀ e, s.links.get? Uplink.name = some e → e.Separable "tap0_urunc") ∧
      let r := (run "tap0_urunc").run kernel s
      r.result = .ok () ∧ Isolated "tap0_urunc" s r.state := by
  intro rule e s
  have named : s.Named := by decide
  have calm : s.Unarmed := unarmed_of_failNext rfl
  have different : "tap0_urunc" ≠ Uplink.name := by decide
  obtain ⟨t, held⟩ : ∃ t, s.links.get? "tap0_urunc" = some t :=
    Option.isSome_iff_exists.1 (by decide)
  have separable : ∀ e, s.links.get? Uplink.name = some e → e.Separable "tap0_urunc" := by
    intro found same
    obtain rfl : e = found := Option.some.inj ((NameMap.get?_insert_self _ _ _).symm.trans same)
    exact ⟨by decide, by decide⟩
  exact ⟨named, calm, different, ⟨t, held⟩, separable,
    isolated named calm different held separable⟩

end Cleanup

end SandboxNet
