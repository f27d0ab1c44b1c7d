import SandboxNet.Proofs.Netns.Steps
import SandboxNet.Proofs.Netns.Sweep
import SandboxNet.Proofs.Sandbox.Session

/-! # Filters after their queueing discipline

A filter can be attached only where its queueing discipline is, and goes when that one goes. For the
ingress filters this makes an invariant of every call that an operation may make, so it holds
between any two calls of any session, whichever of them fail.
-/

namespace SandboxNet

open Tc Netns

namespace LinkRecord

/-- A link whose ingress handle is taken by the ingress queueing discipline or by none, and whose
ingress filters have it there. -/
structure Ordered (r : LinkRecord) : Prop where
  ingress : ∀ q ∈ r.qdiscs, q.handle = Handle.ingress → q = Qdisc.ingress
  attached : ∀ f ∈ r.filters, f.parent = Handle.ingress → Qdisc.ingress ∈ r.qdiscs

instance (r : LinkRecord) : Decidable r.Ordered :=
  decidable_of_iff ((∀ q ∈ r.qdiscs, q.handle = Handle.ingress → q = Qdisc.ingress) ∧
    ∀ f ∈ r.filters, f.parent = Handle.ingress → Qdisc.ingress ∈ r.qdiscs)
    ⟨fun h => ⟨h.1, h.2⟩, fun h => ⟨h.ingress, h.attached⟩⟩

namespace Ordered

variable {r r' : LinkRecord}

theorem of_bare (qdiscs : r.qdiscs = []) (filters : r.filters = []) : r.Ordered := by
  constructor
  · rw [qdiscs]
    nofun
  · rw [filters]
    nofun

theorem addQdisc (ordered : r.Ordered) (h : r.addQdisc Qdisc.ingress = .ok r') : r'.Ordered := by
  obtain ⟨-, rfl⟩ := addQdisc_ok h
  constructor
  · intro q member handle
    rcases List.mem_append.1 member with old | new
    · exact ordered.ingress q old handle
    · exact List.mem_singleton.1 new
  · intro f member parent
    exact List.mem_append_left _ (ordered.attached f member parent)

theorem delQdisc {q : Qdisc} (ordered : r.Ordered) (h : r.delQdisc q = .ok r') : r'.Ordered := by
  obtain ⟨-, rfl⟩ := delQdisc_ok h
  constructor
  · intro p member
    exact ordered.ingress p (List.mem_filter.1 ((Qdisc.sweep_sublist _ _).subset member)).1
  · intro f member parent
    -- Had the ingress queueing discipline been deleted, this filter would have gone with it.
    have other : Qdisc.ingress ≠ q := by
      rintro rfl
      simpa [parent] using (List.mem_filter.1 member).2
    have held : f ∈ r.filters := by
      change f ∈ if q.isIngress then _ else _ at member
      split at member
      · exact (List.mem_filter.1 member).1
      · exact member
    refine Qdisc.mem_sweep_of_isTopLevel (List.mem_filter.2 ?_) (by decide)
    exact ⟨ordered.attached f held parent, by simpa using other⟩

theorem addFilter {f : Filter} (ordered : r.Ordered) (h : r.addFilter f = .ok r') : r'.Ordered := by
  obtain ⟨⟨q, held, handle⟩, rfl⟩ := addFilter_ok h
  refine ⟨ordered.ingress, ?_⟩
  intro g member parent
  rcases List.mem_append.1 member with old | new
  · exact ordered.attached g old parent
  · rw [← List.mem_singleton.1 new, parent] at handle
    exact ordered.ingress q held handle ▸ held

theorem delFilter (ordered : r.Ordered) (f : Filter) : (r.delFilter f).Ordered :=
  ⟨ordered.ingress, fun g member => ordered.attached g (List.mem_filter.1 member).1⟩

theorem step {s : Netns} {link : Link} {request : Call} (ordered : r.Ordered)
    (orderly : request.Orderly) (h : LinkStep s link r request r') : r'.Ordered := by
  cases h with
  | setLinkUp => exact ⟨ordered.ingress, ordered.attached⟩
  | addAddress h =>
      obtain ⟨-, rfl⟩ := addAddress_ok h
      exact ⟨ordered.ingress, ordered.attached⟩
  | addQdisc h =>
      cases orderly _ _ rfl
      exact ordered.addQdisc h
  | delQdisc h => exact ordered.delQdisc h
  | addFilter _ h => exact ordered.addFilter h
  | delFilter => exact ordered.delFilter _

end Ordered

end LinkRecord

namespace Netns

variable {s s' : Netns}

def Ordered (s : Netns) : Prop := ∀ entry ∈ s.links.entries, entry.2.Ordered

instance (s : Netns) : Decidable s.Ordered :=
  inferInstanceAs (Decidable (∀ entry ∈ s.links.entries, entry.2.Ordered))

theorem ordered_iff : s.Ordered ↔ ∀ name r, s.links.get? name = some r → r.Ordered :=
  ⟨fun ordered name r held => ordered (name, r) (NameMap.mem_of_get? held),
    fun ordered entry member => ordered entry.1 entry.2 (NameMap.get?_of_mem member)⟩

namespace Ordered

theorem insert (ordered : s.Ordered) {name : String} {r : LinkRecord} (h : r.Ordered)
    (links : s'.links = s.links.insert name r) : s'.Ordered := by
  apply ordered_iff.2
  intro other r' held
  rw [links, NameMap.get?_insert] at held
  split at held
  · cases held
    exact h
  · exact ordered_iff.1 ordered other r' held

theorem step {request : Call} (ordered : s.Ordered) (orderly : request.Orderly)
    (h : Step s request s') : s'.Ordered := by
  cases h with
  | read | appendNatRule | deleteNatRule | setIpv4Forwarding => exact ordered
  | addTap => exact ordered.insert (.of_bare rfl rfl) rfl
  | @onLink _ _ r _ found change =>
      have held : r.Ordered := ordered_iff.1 ordered _ r (get?_of_record? found)
      exact ordered.insert (held.step orderly change) rfl
  | deleteLink =>
      intro entry member
      exact ordered entry (List.mem_filter.1 member).1

theorem answer {request : Call} {t : Nat × Netns} (schedule : Schedule) (ordered : t.2.Ordered)
    (orderly : request.Orderly) : ((kernel.failing schedule).answer request t).2.2.Ordered := by
  rcases step_or_failed_of_schedule schedule request t with step | ⟨failure, failed⟩
  · exact ordered.step orderly step
  · rw [failed]
    exact ordered

end Ordered

end Netns

namespace Operation

open Program

theorem session_ordered (schedule : Schedule) (operations : List Operation) {s : Netns}
    (ordered : s.Ordered) :
    ∀ t ∈ (session operations).states (kernel.failing schedule) (0, s), t.2.Ordered :=
  states_session (I := fun t : Nat × Netns => t.2.Ordered)
    (fun operation _ _ ordered => states_of_asks (asks_program operation)
      (fun _ _ orderly ordered => ordered.answer schedule orderly) ordered) ordered

/-- A session in a namespace whose `eth0` carries traffic of others and a shaping tree, with a stale
link among the arguments. -/
theorem session_ordered_shaped :
    let shaped : LinkRecord := ⟨⟨2, "eth0", 1500⟩, true, none, LinkAddrs.none, [],
      [⟨"htb", ⟨1, 0⟩, Handle.root⟩, ⟨"sfq", ⟨10, 0⟩, ⟨1, 10⟩⟩, Qdisc.ingress],
      [Filter.redirect "lo", ⟨⟨1, 0⟩, 5, "ip", none⟩]⟩
    let s := withEth0.put "eth0" shaped
    let schedule : Schedule := fun position =>
      if position = 9 then some (.kernelOperation "del_qdisc" "operation not permitted") else none
    let operations : List Operation := [.setup ⟨.static, 2⟩ 1000 1000,
      .addRedirect (some shaped.link) (some ⟨7, "tap0_urunc", 1500⟩), .cleanup "tap0_urunc"]
    s.Ordered ∧
      ∀ t ∈ (session operations).states (kernel.failing schedule) (0, s), t.2.Ordered := by
  intro shaped s schedule operations
  have ordered : s.Ordered := by decide
  exact ⟨ordered, session_ordered schedule operations ordered⟩

end Operation

end SandboxNet
