import SandboxNet.Netns.Kernel
import SandboxNet.Proofs.Netns.Sweep

/-! # Taking traffic control off a link

Setup and cleanup delete filters and queueing disciplines one after the other, and any of the
deletions may be the last one made. `Edits` holds every way in which such a loop can end. A loop of
deletions leaves the link `Shorn`: fewer queueing disciplines, fewer ingress filters, and the rest of
its record as it was.
-/

namespace SandboxNet.LinkRecord

open Tc

variable {β : Type} {faulty : Prop} {change : β → LinkRecord → Except Error LinkRecord}
  {items : List β} {r r' r'' : LinkRecord} {result : Except Error Unit}

/-- The filters of a link that hang off its ingress queueing discipline. -/
def ingressFilters (r : LinkRecord) : List Filter := r.filters.filter (·.parent == Handle.ingress)

/-- The filters of a link that hang off anything else. -/
def otherFilters (r : LinkRecord) : List Filter := r.filters.filter (·.parent != Handle.ingress)

theorem addAddress_ok {addr : Ipv4Net} (h : r.addAddress addr = .ok r') :
    addr ∉ r.extraAddrs ∧ r' = { r with
      extraAddrs := r.extraAddrs ++ [addr]
      addrs := if r.addrs.ipv4.isNone then
          { r.addrs with ipv4 := some addr.addr, netmask := some addr.netmask }
        else r.addrs } := by
  simp only [addAddress] at h
  split at h <;> cases h
  next fresh => exact ⟨fresh, rfl⟩

theorem addQdisc_ok {q : Qdisc} (h : r.addQdisc q = .ok r') :
    (∀ p ∈ r.qdiscs, p.handle ≠ q.handle) ∧ r' = { r with qdiscs := r.qdiscs ++ [q] } := by
  simp only [addQdisc] at h
  split at h <;> cases h
  next free =>
  refine ⟨fun p held same => ?_, rfl⟩
  exact free (List.any_eq_true.2 ⟨p, held, beq_iff_eq.2 same⟩)

theorem delQdisc_ok {q : Qdisc} (h : r.delQdisc q = .ok r') : q ∈ r.qdiscs ∧ r' = { r with
    qdiscs := Qdisc.sweep [q.handle.major] (r.qdiscs.filter (· ≠ q))
    filters := if q.isIngress then r.filters.filter (·.parent ≠ Handle.ingress) else r.filters } := by
  simp only [delQdisc] at h
  split at h <;> cases h
  next held => exact ⟨held, rfl⟩

theorem addFilter_ok {f : Filter} (h : r.addFilter f = .ok r') :
    (∃ q ∈ r.qdiscs, q.handle = f.parent) ∧ r' = { r with filters := r.filters ++ [f] } := by
  simp only [addFilter] at h
  split at h <;> cases h
  next taken =>
  obtain ⟨q, held, handle⟩ := List.any_eq_true.1 taken
  exact ⟨⟨q, held, beq_iff_eq.1 handle⟩, rfl⟩

/-- What becomes of a link when `items` are worked through in order, up to the first change that is
refused or, where calls are `faulty`, to any point. -/
inductive Edits (faulty : Prop) (change : β → LinkRecord → Except Error LinkRecord) :
    List β → LinkRecord → Except Error Unit → LinkRecord → Prop where
  | finished {r : LinkRecord} : Edits faulty change [] r (.ok ()) r
  | refused {item : β} {rest : List β} {r : LinkRecord} {e : Error} (h : change item r = .error e) :
      Edits faulty change (item :: rest) r (.error e) r
  | failed {items : List β} {r : LinkRecord} (h : faulty) (e : Error) :
      Edits faulty change items r (.error e) r
  | next {item : β} {rest : List β} {r r' r'' : LinkRecord} {result : Except Error Unit}
      (h : change item r = .ok r') (later : Edits faulty change rest r' result r'') :
      Edits faulty change (item :: rest) r result r''

/-- A link that only lost queueing disciplines and ingress filters. -/
structure Shorn (r r' : LinkRecord) : Prop where
  rest : r' = { r with qdiscs := r'.qdiscs, filters := r'.filters }
  qdiscs : r'.qdiscs.Sublist r.qdiscs
  filters : r'.filters.Sublist r.filters
  other : r'.otherFilters = r.otherFilters

namespace Shorn

theorem refl (r : LinkRecord) : Shorn r r :=
  ⟨rfl, List.Sublist.refl _, List.Sublist.refl _, rfl⟩

theorem trans (first : Shorn r r') (second : Shorn r' r'') : Shorn r r'' where
  rest := by rw [second.rest, first.rest]
  qdiscs := second.qdiscs.trans first.qdiscs
  filters := second.filters.trans first.filters
  other := second.other.trans first.other

theorem link (h : Shorn r r') : r'.link = r.link := by rw [h.rest]

theorem ingress (h : Shorn r r') : r'.ingressFilters.Sublist r.ingressFilters := h.filters.filter _

end Shorn

theorem shorn_delFilter {f : Filter} (parent : f.parent = Handle.ingress) :
    Shorn r (r.delFilter f) where
  rest := rfl
  qdiscs := List.Sublist.refl _
  filters := List.filter_sublist
  other := by
    simp only [otherFilters, delFilter, List.filter_filter]
    apply List.filter_congr
    intro g _
    cases h : g.parent == Handle.ingress <;> simp_all

theorem shorn_delQdisc {q : Qdisc} (h : r.delQdisc q = .ok r') : Shorn r r' := by
  obtain ⟨-, rfl⟩ := delQdisc_ok h
  refine ⟨rfl, (Qdisc.sweep_sublist _ _).trans List.filter_sublist, ?_, ?_⟩
  · show List.Sublist (if q.isIngress then _ else _) _
    split
    · exact List.filter_sublist
    · exact List.Sublist.refl _
  · simp only [otherFilters]
    split
    · rw [List.filter_filter]
      apply List.filter_congr
      intro g _
      simp [bne]
    · rfl

namespace Edits

theorem shorn (h : Edits faulty change items r result r')
    (each : ∀ item ∈ items, ∀ r r', change item r = .ok r' → Shorn r r') : Shorn r r' := by
  induction h with
  | finished | refused | failed => exact .refl _
  | next changed _ ih =>
      exact (each _ List.mem_cons_self _ _ changed).trans
        (ih fun item member => each item (List.mem_cons_of_mem _ member))

/-- A loop that came to its end met no failure. -/
theorem of_ok (h : Edits faulty change items r (.ok ()) r') :
    Edits False change items r (.ok ()) r' := by
  generalize ended : Except.ok () = result at h ⊢
  induction h with
  | finished => exact .finished
  | refused | failed => cases ended
  | next changed _ ih => exact .next changed (ih ended)

/-- Changes that are never refused all happen, unless a call fails. -/
theorem ok_of_total (h : Edits faulty change items r result r') (sound : ¬ faulty)
    (total : ∀ item r, ∃ r', change item r = .ok r') : result = .ok () := by
  induction h with
  | finished => rfl
  | @refused item _ r _ refused =>
      obtain ⟨_, done⟩ := total item r
      rw [refused] at done
      cases done
  | failed fails => exact absurd fails sound
  | next _ _ ih => exact ih

end Edits

/-- Deletes a filter; the answer never is a refusal. -/
def dropFilter (f : Filter) (r : LinkRecord) : Except Error LinkRecord := .ok (r.delFilter f)

/-- Deletes a queueing discipline with what hangs below it. -/
def dropQdisc (q : Qdisc) (r : LinkRecord) : Except Error LinkRecord := r.delQdisc q

/-- Whether a filter has the parent and priority of one of `fs`. -/
def meets (fs : List Filter) (g : Filter) : Bool :=
  fs.any fun f => g.parent == f.parent && g.priority == f.priority

theorem filters_of_edits {fs : List Filter} (h : Edits faulty dropFilter fs r (.ok ()) r') :
    r' = { r with filters := r.filters.filter (!meets fs ·) } := by
  generalize ended : Except.ok () = result at h
  induction h with
  | finished =>
      have all : ∀ r : LinkRecord, r.filters.filter (!meets [] ·) = r.filters := fun r =>
        List.filter_eq_self.2 fun _ _ => rfl
      rw [all]
  | refused refused => cases refused
  | failed => cases ended
  | @next f fs r r₁ r₂ result dropped _ ih =>
      cases dropped
      rw [ih ended]
      show { r with filters := List.filter _ (List.filter _ r.filters) } = _
      rw [List.filter_filter]
      congr 1
      apply List.filter_congr
      intro g _
      simp only [meets, List.any_cons, Bool.not_or, Bool.and_comm]

theorem shorn_of_filter_edits {fs : List Filter} (h : Edits faulty dropFilter fs r result r')
    (ingress : ∀ f ∈ fs, f.parent = Handle.ingress) : Shorn r r' :=
  h.shorn fun f member r r' dropped => by
    cases dropped
    exact shorn_delFilter (ingress f member)

theorem qdiscs_of_filter_edits {fs : List Filter} (h : Edits faulty dropFilter fs r result r') :
    r'.qdiscs = r.qdiscs := by
  induction h with
  | finished | failed => rfl
  | refused h => cases h
  | next h _ ih => cases h; exact ih

theorem shorn_of_qdisc_edits {qs : List Qdisc} (h : Edits faulty dropQdisc qs r result r') :
    Shorn r r' :=
  h.shorn fun _ _ _ _ dropped => shorn_delQdisc dropped

theorem delQdisc_of_mem {q : Qdisc} (member : q ∈ r.qdiscs) : r.delQdisc q = .ok { r with
    qdiscs := Qdisc.sweep [q.handle.major] (r.qdiscs.filter (· ≠ q))
    filters := if q.isIngress then r.filters.filter (·.parent ≠ Handle.ingress) else r.filters } :=
  if_pos member

open Classical in
/-- A deleted queueing discipline takes along what hangs below it, and nothing else. -/
theorem qdiscs_of_delQdisc {q : Qdisc} (h : r.delQdisc q = .ok r') :
    r'.qdiscs = r.qdiscs.filter fun p => p ≠ q ∧ ¬ p.Swept [q.handle.major] r.qdiscs := by
  obtain ⟨-, rfl⟩ := delQdisc_ok h
  show Qdisc.sweep _ _ = _
  rw [Qdisc.sweep_eq_filter, List.filter_filter]
  apply List.filter_congr
  intro p _
  simp only [Qdisc.swept_filter_ne, Bool.decide_and, Bool.and_comm]

theorem not_mem_of_delQdisc {q : Qdisc} (h : r.delQdisc q = .ok r') : q ∉ r'.qdiscs := by
  intro kept
  obtain ⟨-, rfl⟩ := delQdisc_ok h
  have left := (Qdisc.sweep_sublist _ _).subset kept
  simpa using (List.mem_filter.1 left).2

/-- A loop of deletions that came to its end left none of its queueing disciplines. -/
theorem not_mem_of_qdisc_edits {qs : List Qdisc} (h : Edits faulty dropQdisc qs r (.ok ()) r') :
    ∀ q ∈ qs, q ∉ r'.qdiscs := by
  generalize ended : Except.ok () = result at h
  induction h with
  | finished => intro q member; cases member
  | refused | failed => cases ended
  | next dropped later ih =>
      intro q member
      rcases List.mem_cons.1 member with rfl | member
      · exact fun kept => not_mem_of_delQdisc dropped ((shorn_of_qdisc_edits later).qdiscs.subset kept)
      · exact ih ended q member

/-- Different queueing disciplines that hang off the link itself do not take one another along. -/
theorem ok_of_qdisc_edits {qs : List Qdisc} (h : Edits faulty dropQdisc qs r result r')
    (sound : ¬ faulty) (distinct : qs.Nodup)
    (top : ∀ q ∈ qs, q ∈ r.qdiscs ∧ q.isTopLevel = true) : result = .ok () := by
  induction h with
  | finished => rfl
  | @refused q _ r _ refused =>
      rw [dropQdisc, delQdisc_of_mem (top q List.mem_cons_self).1] at refused
      cases refused
  | failed fails => exact absurd fails sound
  | @next q qs r r₁ _ _ dropped _ ih =>
      obtain ⟨fresh, distinct⟩ := List.nodup_cons.1 distinct
      apply ih distinct
      intro p member
      obtain ⟨held, topLevel⟩ := top p (List.mem_cons_of_mem _ member)
      rw [dropQdisc, delQdisc_of_mem (top q List.mem_cons_self).1] at dropped
      cases dropped
      refine ⟨Qdisc.mem_sweep_of_isTopLevel (List.mem_filter.2 ⟨held, ?_⟩) topLevel, topLevel⟩
      have different : p ≠ q := fun same => fresh (same ▸ member)
      simpa using different

end SandboxNet.LinkRecord
