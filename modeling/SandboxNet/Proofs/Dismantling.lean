import SandboxNet.Proofs.Clearing

/-! # Dismantling a link

The removable queueing disciplines of a link are deleted one after the other, each with what hangs
below it at that moment. What is left is said from the link as it was, through the majors of all of
them together. So neither the order of the deletions nor the order of the list makes a difference.
-/

namespace SandboxNet

open Tc

namespace LinkRecord

variable {r r' : LinkRecord} {order listed : List Qdisc} {q : Qdisc}

/-- Deletions take the ingress filters along if one of them is of an ingress queueing discipline. -/
theorem filters_of_qdisc_edits (h : Edits False dropQdisc order r (.ok ()) r') :
    r'.filters = if order.any (·.isIngress) then r.otherFilters else r.filters := by
  generalize ended : Except.ok () = result at h
  induction h with
  | finished => rfl
  | refused | failed => cases ended
  | @next q rest r r₁ r₂ result dropped _ ih =>
      have others : r₁.otherFilters = r.otherFilters := (shorn_delQdisc dropped).other
      have own : r₁.filters = if q.isIngress then r.otherFilters else r.filters := by
        obtain ⟨-, rfl⟩ := delQdisc_ok dropped
        simp only [otherFilters, bne, ne_eq, decide_not, Bool.beq_eq_decide_eq]
      rw [ih ended, others, own, List.any_cons]
      cases q.isIngress <;> simp

/-- A link after its removable queueing disciplines are deleted: it keeps the spared ones, and loses
its ingress filters with an ingress queueing discipline. -/
noncomputable def dismantled (r : LinkRecord) : LinkRecord :=
  { r with
    qdiscs := r.spared
    filters := if r.removable.any (·.isIngress) then r.otherFilters else r.filters }

theorem dismantled_of_edits (perm : order.Perm r.removable)
    (h : Edits False dropQdisc order r (.ok ()) r') : r' = r.dismantled := by
  have qdiscs : r'.qdiscs = r.spared := by
    rw [qdiscs_of_qdisc_edits h]
    apply List.filter_congr
    intro q member
    rw [decide_eq_decide, perm.mem_iff, mem_removable member, Spares, Qdisc.Swept, Qdisc.Swept,
      Qdisc.reached_iff_of_perm (perm.map _) (.refl _)]
  have filters : r'.filters = r.dismantled.filters := by
    rw [filters_of_qdisc_edits h, perm.any_eq]
    rfl
  rw [(shorn_of_qdisc_edits h).rest, qdiscs, filters]
  rfl

/-- A link with its queueing disciplines in another order spares the same ones. -/
theorem spares_relisted (perm : listed.Perm r.qdiscs) :
    { r with qdiscs := listed }.Spares q ↔ r.Spares q := by
  have roots : { r with qdiscs := listed }.removable.Perm r.removable := perm.filter _
  rw [Spares, Spares, Qdisc.Swept, Qdisc.Swept, Qdisc.reached_iff_of_perm (roots.map _) perm]

open Classical in
theorem dismantled_relisted (perm : listed.Perm r.qdiscs) : { r with qdiscs := listed }.dismantled =
    { r.dismantled with qdiscs := listed.filter (r.Spares ·) } := by
  have roots : { r with qdiscs := listed }.removable.Perm r.removable := perm.filter _
  have spared : { r with qdiscs := listed }.spared = listed.filter (r.Spares ·) := by
    apply List.filter_congr
    intro q _
    rw [decide_eq_decide, spares_relisted perm]
  rw [dismantled, spared, roots.any_eq]
  rfl

end LinkRecord

namespace Duplex

open Program LinkRecord Netns

variable {s : Netns} {link : Link} {r : LinkRecord}

/-- The removable queueing disciplines may be deleted in any order. -/
theorem always_dismantle {order : List Qdisc} {body : Qdisc → Program Unit}
    (makes : ∀ q, Makes False link (dropQdisc q) (body q)) (found : s.record? link = some r)
    (distinct : r.removable.Nodup) (perm : order.Perm r.removable) :
    (order.forM body).Always (Answers False) s fun result s' =>
      result = .ok () ∧ s' = s.put link.name r.dismantled := by
  refine (always_edits makes (fun _ _ _ dropped => (shorn_delQdisc dropped).link) order found).mono ?_
  rintro result _ ⟨r', edits, rfl⟩
  obtain rfl : result = .ok () := by
    refine ok_of_qdisc_edits edits id (perm.nodup_iff.2 distinct) fun q member => ?_
    obtain ⟨held, removable⟩ := List.mem_filter.1 (perm.mem_iff.1 member)
    exact ⟨held, (Bool.and_eq_true _ _ ▸ removable).2⟩
  rw [dismantled_of_edits perm edits]
  exact ⟨rfl, rfl⟩

theorem always_deleteQdiscs_dismantle (found : s.record? link = some r)
    (distinct : r.removable.Nodup) :
    (deleteQdiscs (some link)).Always (Answers False) s fun result s' =>
      result = .ok () ∧ s' = s.put link.name r.dismantled := by
  apply Always.ask_bind_ok (perform_qdiscs found) (fun fails => fails.elim)
  exact always_dismantle (fun q => makes_delQdisc q _ _ _) found distinct (.refl _)

open Classical in
/-- A deletion of the queueing disciplines of a link leaves it dismantled, in whatever order they are
deleted, and spares the same ones in whatever order they are listed. -/
theorem qdiscs_dismantled (calm : s.Unarmed) (found : s.record? link = some r)
    (distinct : r.removable.Nodup) :
    let deletion := (deleteQdiscs (some link)).run kernel s
    deletion.result = .ok () ∧ deletion.state = s.put link.name r.dismantled ∧
      (∀ order : List Qdisc, order.Perm r.removable →
        let other := (order.forM fun q => (ask (.delQdisc link q) : Program Unit)).run kernel s
        other.result = .ok () ∧ other.state = deletion.state) ∧
      ∀ listed : List Qdisc, listed.Perm r.qdiscs →
        let relisted := s.put link.name { r with qdiscs := listed }
        let other := (deleteQdiscs (some link)).run kernel relisted
        other.result = .ok () ∧ other.state = s.put link.name
          { r.dismantled with qdiscs := listed.filter (r.Spares ·) } := by
  intro deletion
  obtain ⟨⟨ok, left⟩, -⟩ := (always_deleteQdiscs_dismantle found distinct).run_unarmed calm
  refine ⟨ok, left, ?_, ?_⟩
  · intro order perm other
    have makes : ∀ q, Makes False link (dropQdisc q) (ask (.delQdisc link q)) := fun q s r found =>
      bind_pure (ask (.delQdisc link q)) ▸
        always_made (perform_delQdisc found q) fun _ _ h => Always.pure h
    obtain ⟨⟨ok', left'⟩, -⟩ := (always_dismantle makes found distinct perm).run_unarmed calm
    exact ⟨ok', left'.trans left.symm⟩
  · intro listed perm relisted other
    have found' : relisted.record? link = some { r with qdiscs := listed } := record?_put found rfl
    have distinct' : { r with qdiscs := listed }.removable.Nodup :=
      (perm.filter _).nodup_iff.2 distinct
    obtain ⟨⟨ok', left'⟩, -⟩ :=
      (always_deleteQdiscs_dismantle found' distinct').run_unarmed (s := relisted) calm
    refine ⟨ok', left'.trans ?_⟩
    rw [put_put, dismantled_relisted perm]

open Classical in
/-- A shaping tree of two levels, an ingress point and a default one, beside two queueing disciplines
that hang below each other. -/
theorem qdiscs_dismantled_cyclic :
    let e : LinkRecord := ⟨⟨2, "eth0", 1500⟩, true, none, LinkAddrs.none, [],
      [⟨"mq", Handle.unspecified, Handle.root⟩, ⟨"sfq", ⟨0x20, 0⟩, ⟨0x10, 1⟩⟩,
        ⟨"htb", ⟨1, 0⟩, Handle.root⟩, ⟨"prio", ⟨2, 0⟩, ⟨3, 1⟩⟩, ⟨"prio", ⟨0x10, 0⟩, ⟨1, 1⟩⟩,
        ⟨"prio", ⟨3, 0⟩, ⟨2, 1⟩⟩, Qdisc.ingress],
      [Filter.redirect "tap0_urunc", ⟨⟨1, 0⟩, 1, "all", none⟩]⟩
    let s := withEth0.put "eth0" e
    let deletion := (deleteQdiscs (some e.link)).run kernel s
    s.Unarmed ∧ s.record? e.link = some e ∧ e.removable.Nodup ∧
      deletion.result = .ok () ∧ deletion.state = s.put e.link.name e.dismantled ∧
      (∀ order : List Qdisc, order.Perm e.removable →
        let other := (order.forM fun q => (ask (.delQdisc e.link q) : Program Unit)).run kernel s
        other.result = .ok () ∧ other.state = deletion.state) ∧
      ∀ listed : List Qdisc, listed.Perm e.qdiscs →
        let relisted := s.put e.link.name { e with qdiscs := listed }
        let other := (deleteQdiscs (some e.link)).run kernel relisted
        other.result = .ok () ∧ other.state = s.put e.link.name
          { e.dismantled with qdiscs := listed.filter (e.Spares ·) } := by
  intro e s deletion
  have calm : s.Unarmed := unarmed_of_failNext rfl
  have found : s.record? e.link = some e := by rfl
  have distinct : e.removable.Nodup := by decide
  exact ⟨calm, found, distinct, qdiscs_dismantled calm found distinct⟩

end Duplex

end SandboxNet
