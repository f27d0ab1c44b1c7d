import SandboxNet.Proofs.Duplex

/-! # Which filters go with the redirects to a device

Redirects are selected by their target but deleted by their priority, so an ingress filter that shares
its priority with one of them goes along. The answer counts the filters that do not redirect to the
device, gone or not. Both are what they should be exactly for a link where redirects stand `Apart`.
-/

namespace SandboxNet

open Tc

namespace LinkRecord

variable {r r' : LinkRecord} {target : String}

/-- The ingress filters that redirect to another device or to none. -/
def foreign (r : LinkRecord) (target : String) : List Filter :=
  r.ingressFilters.filter fun f => !f.redirectsTo target

/-- Whether a redirect to a device has the priority of the given filter. -/
def sharesPriority (r : LinkRecord) (target : String) (g : Filter) : Bool :=
  (r.redirects target).any (·.priority == g.priority)

/-- A link where no redirect to a device shares its priority with another ingress filter. -/
def Apart (r : LinkRecord) (target : String) : Prop :=
  ∀ f ∈ r.ingressFilters, ∀ g ∈ r.ingressFilters,
    f.redirectsTo target = true → g.redirectsTo target = false → f.priority ≠ g.priority

instance (r : LinkRecord) (target : String) : Decidable (r.Apart target) :=
  inferInstanceAs (Decidable (∀ f ∈ r.ingressFilters, ∀ g ∈ r.ingressFilters,
    f.redirectsTo target = true → g.redirectsTo target = false → f.priority ≠ g.priority))

theorem meets_redirects_eq (r : LinkRecord) (target : String) (g : Filter) :
    meets (r.redirects target) g = (g.parent == Handle.ingress && r.sharesPriority target g) := by
  have parents : ∀ f ∈ r.redirects target, f.parent = Handle.ingress := fun f member =>
    parent_of_mem_ingressFilters (List.mem_filter.1 member).1
  apply Bool.eq_iff_iff.2
  simp only [meets, sharesPriority, Bool.and_eq_true, List.any_eq_true, beq_iff_eq]
  constructor
  · rintro ⟨f, member, parent, priority⟩
    exact ⟨parent.trans (parents f member), f, member, priority.symm⟩
  · rintro ⟨parent, f, member, priority⟩
    exact ⟨f, member, parent.trans (parents f member).symm, priority.symm⟩

theorem sharesPriority_of_redirect {f : Filter} (member : f ∈ r.redirects target) :
    r.sharesPriority target f = true :=
  List.any_eq_true.2 ⟨f, member, beq_self_eq_true _⟩

theorem apart_iff : r.Apart target ↔ ∀ g ∈ r.foreign target, r.sharesPriority target g = false := by
  constructor
  · intro apart g member
    obtain ⟨listed, other⟩ := List.mem_filter.1 member
    apply Bool.eq_false_iff.2
    intro shares
    obtain ⟨f, redirect, same⟩ := List.any_eq_true.1 shares
    obtain ⟨held, redirects⟩ := List.mem_filter.1 redirect
    exact apart f held g listed redirects (by simpa using other) (beq_iff_eq.1 same)
  · intro clear f held g listed redirects other same
    have shares : r.sharesPriority target g = true :=
      List.any_eq_true.2 ⟨f, List.mem_filter.2 ⟨held, redirects⟩, beq_iff_eq.2 same⟩
    rw [clear g (List.mem_filter.2 ⟨listed, by simpa using other⟩)] at shares
    cases shares

theorem length_foreign (r : LinkRecord) (target : String) :
    (r.foreign target).length = r.ingressFilters.length - (r.redirects target).length := by
  have total := List.length_eq_countP_add_countP (·.redirectsTo target) (l := r.ingressFilters)
  rw [List.countP_eq_length_filter, List.countP_eq_length_filter] at total
  simp only [foreign, redirects, Bool.not_eq_true, Bool.decide_eq_false] at total ⊢
  omega

/-- What a deletion of the redirects to a device leaves of a link, with the count that it answers. -/
structure Unlinked (target : String) (r r' : LinkRecord) (count : Nat) : Prop where
  rest : r' = { r with filters := r'.filters }
  other : r'.otherFilters = r.otherFilters
  ingress : r'.ingressFilters = (r.foreign target).filter fun g => !r.sharesPriority target g
  count_eq : count = (r.foreign target).length
  ingress_iff : r'.ingressFilters = r.foreign target ↔ r.Apart target
  count_iff : count = r'.ingressFilters.length ↔ r.Apart target

theorem unlinked_of_edits (h : Edits False dropFilter (r.redirects target) r (.ok ()) r') :
    Unlinked target r r' (r.ingressFilters.length - (r.redirects target).length) := by
  have shorn : Shorn r r' := shorn_of_filter_edits h fun f member =>
    parent_of_mem_ingressFilters (List.mem_filter.1 member).1
  have ingress : r'.ingressFilters = (r.foreign target).filter fun g => !r.sharesPriority target g := by
    rw [filters_of_edits h]
    -- what redirects to the device shares a priority with itself, so only the others can be left
    simp only [ingressFilters, foreign, List.filter_filter]
    apply List.filter_congr
    intro g held
    rw [meets_redirects_eq]
    cases parent : g.parent == Handle.ingress with
    | false => simp
    | true =>
        cases redirects : g.redirectsTo target with
        | false => simp
        | true =>
            have member : g ∈ r.redirects target :=
              List.mem_filter.2 ⟨List.mem_filter.2 ⟨held, parent⟩, redirects⟩
            simp [sharesPriority_of_redirect member]
  have all : (∀ g ∈ r.foreign target, (!r.sharesPriority target g) = true) ↔ r.Apart target := by
    rw [apart_iff]
    simp only [Bool.not_eq_true']
  refine ⟨by rw [filters_of_edits h], shorn.other, ingress, (length_foreign r target).symm, ?_, ?_⟩
  · rw [ingress, List.filter_eq_self, all]
  · rw [← length_foreign, ingress, eq_comm, List.length_filter_eq_length_iff, all]

end LinkRecord

namespace Duplex

open Program LinkRecord Netns

theorem redirects_deleted {s : Netns} {link : Link} {r : LinkRecord} (calm : s.Unarmed)
    (found : s.record? link = some r) (target : String) :
    let deletion := (deleteRedirectsTo link target).run kernel s
    ∃ r' count, deletion.result = .ok count ∧ deletion.state = s.put link.name r' ∧
      Unlinked target r r' count := by
  intro deletion
  obtain ⟨⟨edited, r', edits, left, answered⟩, -⟩ :=
    (always_deleteRedirectsTo target found).run_unarmed calm
  obtain rfl : edited = .ok () := edits.ok_of_total id fun f r => ⟨_, rfl⟩
  exact ⟨r', _, answered, left, unlinked_of_edits edits⟩

/-- A redirect is deleted beside an ingress filter of another priority and a filter that hangs off a
shaping tree. -/
theorem redirects_deleted_shaped :
    let e : LinkRecord := ⟨⟨2, "eth0", 1500⟩, true, none, LinkAddrs.none, [],
      [⟨"htb", ⟨1, 0⟩, Handle.root⟩, Qdisc.ingress],
      [Filter.redirect "tap0_urunc", ⟨Handle.ingress, 7, "ip", none⟩,
        ⟨⟨1, 0⟩, 1, "all", some "tap0_urunc"⟩]⟩
    let s := withEth0.put "eth0" e
    let deletion := (deleteRedirectsTo e.link "tap0_urunc").run kernel s
    s.Unarmed ∧ s.record? e.link = some e ∧ e.Apart "tap0_urunc" ∧
      ∃ r' count, deletion.result = .ok count ∧ deletion.state = s.put e.link.name r' ∧
        Unlinked "tap0_urunc" e r' count := by
  intro e s deletion
  have calm : s.Unarmed := unarmed_of_failNext rfl
  have found : s.record? e.link = some e := by rfl
  exact ⟨calm, found, by decide, redirects_deleted calm found "tap0_urunc"⟩

/-- The redirects of two sandboxes have one priority, so the second one goes with the first and is
still counted. -/
theorem second_redirect_deleted :
    let e : LinkRecord := ⟨⟨2, "eth0", 1500⟩, true, none, LinkAddrs.none, [], [Qdisc.ingress],
      [Filter.redirect "tap0_urunc", Filter.redirect "tap1_urunc"]⟩
    let s := withEth0.put "eth0" e
    let deletion := (deleteRedirectsTo e.link "tap0_urunc").run kernel s
    s.Unarmed ∧ s.record? e.link = some e ∧ e.foreign "tap0_urunc" = [Filter.redirect "tap1_urunc"] ∧
      deletion.result = .ok 1 ∧ deletion.state = s.put "eth0" { e with filters := [] } := by
  intro e s deletion
  exact ⟨unarmed_of_failNext rfl, by rfl, by decide, by rfl, by rfl⟩

end Duplex

end SandboxNet
