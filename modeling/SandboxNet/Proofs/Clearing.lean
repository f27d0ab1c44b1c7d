import SandboxNet.Proofs.Duplex

/-! # What a clearing leaves

A clearing deletes the removable queueing disciplines of a link one after the other, and each deletion
takes along what hangs below it at that moment. Together they leave what one joint deletion would:
`LinkRecord.spared` is said from the link as it was at the start.
-/

namespace SandboxNet

open Tc

namespace Tc.Qdisc

variable {major m : UInt16} {majors rest : List UInt16} {qdiscs left : List Qdisc} {p : Qdisc}

/-- What is below some majors is below one of them. -/
theorem reached_cons_iff_or : Reached (major :: rest) qdiscs m ↔
    Reached [major] qdiscs m ∨ Reached rest qdiscs m := by
  constructor
  · intro reached
    induction reached with
    | given member =>
        exact (List.mem_cons.1 member).imp (fun same => .given (List.mem_singleton.2 same)) .given
    | hanging member lower _ ih => exact ih.imp (.hanging member lower) (.hanging member lower)
  · rintro (reached | reached)
    · induction reached with
      | given member => exact .given (List.mem_singleton.1 member ▸ List.mem_cons_self)
      | hanging member lower _ ih => exact .hanging member lower ih
    · induction reached with
      | given member => exact .given (List.mem_cons_of_mem _ member)
      | hanging member lower _ ih => exact .hanging member lower ih

/-- A deletion closes no way down to what it leaves: what was below the later majors is still below
them, or was below the deleted one. -/
theorem reached_cons_iff_of_left (subset : left ⊆ qdiscs)
    (gone : ∀ q ∈ qdiscs, q ∉ left → Reached [major] qdiscs q.handle.major) :
    Reached (major :: rest) qdiscs m ↔ Reached [major] qdiscs m ∨ Reached rest left m := by
  refine reached_cons_iff_or.trans ⟨?_, Or.imp_right (reached_mono (List.Subset.refl _) subset)⟩
  rintro (reached | reached)
  · exact .inl reached
  induction reached with
  | given member => exact .inr (.given member)
  | @hanging q member lower _ ih =>
      by_cases kept : q ∈ left
      · exact ih.imp (.hanging member lower) (.hanging kept lower)
      · exact .inl (gone q member kept)

end Tc.Qdisc

namespace LinkRecord

variable {r r' : LinkRecord} {target : String}

open Classical in
/-- A loop of deletions that came to its end took along what hung below any of its queueing
disciplines at the start, and nothing else. -/
theorem qdiscs_of_qdisc_edits {qs : List Qdisc} (h : Edits False dropQdisc qs r (.ok ()) r') :
    r'.qdiscs = r.qdiscs.filter fun p => p ∉ qs ∧ ¬ p.Swept (qs.map (·.handle.major)) r.qdiscs := by
  generalize ended : Except.ok () = result at h
  induction h with
  | finished =>
      symm
      apply List.filter_eq_self.2
      intro p _
      exact decide_eq_true ⟨List.not_mem_nil, fun swept => Qdisc.not_reached_nil swept.2⟩
  | refused | failed => cases ended
  | @next q qs r r₁ r₂ result dropped _ ih =>
      have first := qdiscs_of_delQdisc dropped
      have subset : r₁.qdiscs ⊆ r.qdiscs := by
        rw [first]
        exact List.filter_sublist.subset
      have gone : ∀ p ∈ r.qdiscs, p ∉ r₁.qdiscs →
          Qdisc.Reached [q.handle.major] r.qdiscs p.handle.major := by
        intro p member lost
        by_cases root : p = q
        · exact .given (root ▸ List.mem_cons_self)
        · have swept : p.Swept [q.handle.major] r.qdiscs := by
            apply Classical.byContradiction
            intro spared
            exact lost (first ▸ List.mem_filter.2 ⟨member, decide_eq_true ⟨root, spared⟩⟩)
          exact .hanging member swept.1 swept.2
      have both : ∀ p : Qdisc, p.Swept ((q :: qs).map (·.handle.major)) r.qdiscs ↔
          p.Swept [q.handle.major] r.qdiscs ∨ p.Swept (qs.map (·.handle.major)) r₁.qdiscs := by
        intro p
        rw [Qdisc.Swept, List.map_cons, Qdisc.reached_cons_iff_of_left subset gone, and_or_left]
        rfl
      have onto : ∀ P : Qdisc → Bool, r₁.qdiscs.filter P =
          r.qdiscs.filter fun p => P p && decide (p ≠ q ∧ ¬ p.Swept [q.handle.major] r.qdiscs) := by
        intro P
        rw [first, List.filter_filter]
      rw [ih ended, onto]
      apply List.filter_congr
      intro p _
      rw [← Bool.decide_and, decide_eq_decide, both, List.mem_cons, not_or, not_or]
      constructor
      · rintro ⟨⟨later, clearLater⟩, now, clearNow⟩
        exact ⟨⟨now, later⟩, clearNow, clearLater⟩
      · rintro ⟨⟨now, later⟩, clearNow, clearLater⟩
        exact ⟨⟨later, clearLater⟩, now, clearNow⟩

/-- Whether a clearing leaves a queueing discipline: one that hangs off the link itself stays if the
kernel attached it, and one below a class stays if no deleted one is above it. -/
def Spares (r : LinkRecord) (q : Qdisc) : Prop :=
  (q.isTopLevel = true → q.isKernelDefault = true) ∧
    ¬ q.Swept (r.removable.map (·.handle.major)) r.qdiscs

open Classical in
/-- The queueing disciplines that a clearing leaves. -/
noncomputable def spared (r : LinkRecord) : List Qdisc := r.qdiscs.filter (r.Spares ·)

theorem mem_removable {q : Qdisc} (member : q ∈ r.qdiscs) :
    q ∉ r.removable ↔ (q.isTopLevel = true → q.isKernelDefault = true) := by
  rw [removable, List.mem_filter]
  cases q.isTopLevel <;> simp [member]

theorem filters_eq_otherFilters (clear : r.ingressFilters = []) : r.filters = r.otherFilters := by
  symm
  apply List.filter_eq_self.2
  intro f member
  simpa using List.filter_eq_nil_iff.1 clear f member

/-- A cleared link is determined by what it was. -/
theorem Cleared.eq (h : Cleared r r') :
    r' = { r with qdiscs := r.spared, filters := r.otherFilters } := by
  have qdiscs : r'.qdiscs = r.spared := by
    obtain ⟨r₁, filters, deletions⟩ := h
    rw [removable_of_filter_edits filters] at deletions
    rw [qdiscs_of_qdisc_edits deletions, qdiscs_of_filter_edits filters]
    apply List.filter_congr
    intro q member
    rw [decide_eq_decide, mem_removable member]
    rfl
  have filters : r'.filters = r.otherFilters := by
    rw [filters_eq_otherFilters h.ingressFilters_eq, h.shorn.other]
  rw [h.shorn.rest, qdiscs, filters]

/-- What was joined and is cleared again is as it was before it was joined. -/
theorem Cleared.joined (h : Cleared (r.joined target) r') (filters : r.ingressFilters = [])
    (removable : r.removable = []) (clear : ∀ q ∈ r.qdiscs, q.hangsBelow Handle.ingress.major = false) :
    r' = r := by
  have listed : (r.joined target).removable = [Qdisc.ingress] := by
    show (r.qdiscs ++ [Qdisc.ingress]).filter _ = _
    rw [List.filter_append]
    show r.removable ++ _ = _
    rw [removable]
    rfl
  have unswept : Qdisc.sweep [Handle.ingress.major] (r.joined target).qdiscs =
      (r.joined target).qdiscs := by
    apply Qdisc.sweep_eq_self
    intro q member major visited
    rw [List.mem_singleton.1 visited]
    rcases List.mem_append.1 member with held | added
    · exact clear q held
    · rw [List.mem_singleton.1 added]
      rfl
  have spared : (r.joined target).spared = r.qdiscs := by
    have stays : ∀ q ∈ r.qdiscs, (r.joined target).Spares q := by
      intro q member
      have here : q ∈ (r.joined target).qdiscs := List.mem_append_left _ member
      refine ⟨(mem_removable member).1 (removable ▸ List.not_mem_nil), ?_⟩
      rw [listed]
      exact (Qdisc.mem_sweep.1 (unswept.symm ▸ here : q ∈ Qdisc.sweep [Handle.ingress.major] _)).2
    have goes : ¬ (r.joined target).Spares Qdisc.ingress := by
      intro spares
      cases spares.1 rfl
    classical
    show (r.qdiscs ++ [Qdisc.ingress]).filter _ = _
    rw [List.filter_append, List.filter_eq_self.2 fun q member => decide_eq_true (stays q member),
      List.filter_cons_of_neg (by simpa using goes)]
    exact List.append_nil _
  rw [h.eq, spared, otherFilters_joined, ← filters_eq_otherFilters filters]
  rfl

end LinkRecord

end SandboxNet
