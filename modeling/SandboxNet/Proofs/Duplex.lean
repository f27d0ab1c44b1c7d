import SandboxNet.Duplex
import SandboxNet.Proofs.Netns.Changes

/-! # Joining two links

An installation clears both links, gives each its ingress queueing discipline and then the redirect
to the other. `LinkRecord.Stage` lists how far one link may have come when a call fails, and
`Duplex.Installation` says it of both and of the result.
-/

namespace SandboxNet

open Tc

namespace LinkRecord

variable {r r' : LinkRecord} {target : String}

/-- The queueing disciplines that a clearing deletes one by one. -/
def removable (r : LinkRecord) : List Qdisc :=
  r.qdiscs.filter fun q => !q.isKernelDefault && q.isTopLevel

/-- The ingress filters that redirect to a device. -/
def redirects (r : LinkRecord) (target : String) : List Filter :=
  r.ingressFilters.filter (·.redirectsTo target)

/-- A link without the ingress filters and the queueing disciplines that it had. -/
def Cleared (r r' : LinkRecord) : Prop :=
  ∃ r₁, Edits False dropFilter r.ingressFilters r (.ok ()) r₁ ∧
    Edits False dropQdisc r₁.removable r₁ (.ok ()) r'

/-- A link whose clearing is refused nowhere and frees the ingress handle. -/
structure Clearable (r : LinkRecord) : Prop where
  distinct : r.removable.Nodup
  free : ∀ q ∈ r.qdiscs, q.handle = Handle.ingress → q.isTopLevel = true

def withIngress (r : LinkRecord) : LinkRecord := { r with qdiscs := r.qdiscs ++ [Qdisc.ingress] }

def joined (r : LinkRecord) (target : String) : LinkRecord :=
  { r.withIngress with filters := r.filters ++ [Filter.redirect target] }

theorem parent_of_mem_ingressFilters {f : Filter} (member : f ∈ r.ingressFilters) :
    f.parent = Handle.ingress := by
  simpa using (List.mem_filter.1 member).2

theorem ingressFilters_of_filter_edits {faulty : Prop}
    (h : Edits faulty dropFilter r.ingressFilters r (.ok ()) r') : r'.ingressFilters = [] := by
  rw [filters_of_edits h]
  apply List.filter_eq_nil_iff.2
  intro f member
  obtain ⟨held, kept⟩ := List.mem_filter.1 member
  intro parent
  have listed : f ∈ r.ingressFilters := List.mem_filter.2 ⟨held, parent⟩
  have met : meets r.ingressFilters f = true := List.any_eq_true.2 ⟨f, listed, by simp⟩
  simp [met] at kept

theorem ingressFilters_of_shorn (h : Shorn r r') (clear : r.ingressFilters = []) :
    r'.ingressFilters = [] :=
  List.sublist_nil.1 (clear ▸ h.ingress)

theorem removable_of_filter_edits {faulty : Prop} {fs : List Filter} {result : Except Error Unit}
    (h : Edits faulty dropFilter fs r result r') : r'.removable = r.removable := by
  rw [removable, qdiscs_of_filter_edits h, removable]

namespace Cleared

variable (h : Cleared r r')

include h

theorem shorn : Shorn r r' := by
  obtain ⟨r₁, filters, qdiscs⟩ := h
  exact (shorn_of_filter_edits filters fun _ => parent_of_mem_ingressFilters).trans
    (shorn_of_qdisc_edits qdiscs)

theorem ingressFilters_eq : r'.ingressFilters = [] := by
  obtain ⟨r₁, filters, qdiscs⟩ := h
  exact ingressFilters_of_shorn (shorn_of_qdisc_edits qdiscs) (ingressFilters_of_filter_edits filters)

theorem removable_eq : r'.removable = [] := by
  obtain ⟨r₁, filters, qdiscs⟩ := h
  apply List.filter_eq_nil_iff.2
  intro q kept removable
  have held : q ∈ r₁.qdiscs := (shorn_of_qdisc_edits qdiscs).qdiscs.subset kept
  exact not_mem_of_qdisc_edits qdiscs q (List.mem_filter.2 ⟨held, removable⟩) kept

theorem free (clearable : r.Clearable) : ∀ q ∈ r'.qdiscs, q.handle ≠ Handle.ingress := by
  intro q kept handle
  have top : q.isTopLevel = true := clearable.free q (h.shorn.qdiscs.subset kept) handle
  have removable : q ∈ r'.removable := by
    refine List.mem_filter.2 ⟨kept, ?_⟩
    simp only [top, Qdisc.isKernelDefault, handle]
    decide
  rw [h.removable_eq] at removable
  cases removable

/-- Where there is nothing to clear, nothing changes. -/
theorem eq_self (filters : r.ingressFilters = []) (qdiscs : r.removable = []) : r' = r := by
  obtain ⟨r₁, first, second⟩ := h
  rw [filters] at first
  cases first
  rw [qdiscs] at second
  cases second
  rfl

end Cleared

/-- How far a link may have come towards its redirect to `target`. -/
inductive Stage (target : String) (r : LinkRecord) : LinkRecord → Prop where
  | clearing {r' : LinkRecord} (h : Shorn r r') : Stage target r r'
  | ingress {r₁ : LinkRecord} (h : Shorn r r₁) (clear : r₁.ingressFilters = []) :
      Stage target r r₁.withIngress
  | joined {r₁ : LinkRecord} (h : Shorn r r₁) (clear : r₁.ingressFilters = []) :
      Stage target r (r₁.joined target)

theorem otherFilters_joined (r : LinkRecord) (target : String) :
    (r.joined target).otherFilters = r.otherFilters := by
  simp [otherFilters, joined, List.filter_append]

theorem ingressFilters_joined (r : LinkRecord) (target : String) :
    (r.joined target).ingressFilters = r.ingressFilters ++ [Filter.redirect target] := by
  simp [ingressFilters, joined, List.filter_append]

namespace Stage

theorem rest (h : Stage target r r') :
    r' = { r with qdiscs := r'.qdiscs, filters := r'.filters } := by
  cases h with
  | clearing h => exact h.rest
  | ingress h => rw [h.rest]; rfl
  | joined h => rw [h.rest]; rfl

theorem link (h : Stage target r r') : r'.link = r.link := by rw [h.rest]

theorem addrs (h : Stage target r r') : r'.addrs = r.addrs := by rw [h.rest]

theorem otherFilters (h : Stage target r r') : r'.otherFilters = r.otherFilters := by
  cases h with
  | clearing h | ingress h => exact h.other
  | joined h => rw [otherFilters_joined, h.other]

end Stage

theorem addQdisc_ingress (free : ∀ q ∈ r.qdiscs, q.handle ≠ Handle.ingress) :
    r.addQdisc Qdisc.ingress = .ok r.withIngress := by
  have none : r.qdiscs.any (·.handle == Qdisc.ingress.handle) = false := by
    simpa [Qdisc.ingress] using free
  rw [addQdisc, none]
  rfl

theorem free_of_addQdisc (h : r.addQdisc Qdisc.ingress = .ok r') :
    (∀ q ∈ r.qdiscs, q.handle ≠ Handle.ingress) ∧ r' = r.withIngress := by
  have free : ∀ q ∈ r.qdiscs, q.handle ≠ Handle.ingress := by
    intro q member handle
    have taken : r.qdiscs.any (·.handle == Qdisc.ingress.handle) = true :=
      List.any_eq_true.2 ⟨q, member, by simp [handle, Qdisc.ingress]⟩
    simp only [addQdisc, taken, if_true] at h
    cases h
  rw [addQdisc_ingress free] at h
  cases h
  exact ⟨free, rfl⟩

theorem addFilter_withIngress (r : LinkRecord) (target : String) :
    r.withIngress.addFilter (Filter.redirect target) = .ok (r.joined target) := by
  have taken : r.withIngress.qdiscs.any (·.handle == (Filter.redirect target).parent) = true :=
    List.any_eq_true.2 ⟨Qdisc.ingress, List.mem_append_right _ List.mem_cons_self, beq_self_eq_true _⟩
  rw [addFilter, taken]
  rfl

/-- A link that was cleared and then redirected to `target`. -/
def Mirrored (target : String) (r r' : LinkRecord) : Prop :=
  ∃ r₁, Cleared r r₁ ∧ (∀ q ∈ r₁.qdiscs, q.handle ≠ Handle.ingress) ∧ r' = r₁.joined target

end LinkRecord

namespace Duplex

open Program LinkRecord Netns

variable {faulty : Prop} {s : Netns} {link : Link} {r : LinkRecord}

theorem always_deleteFilters (found : s.record? link = some r) :
    (deleteFilters (some link)).Always (Answers faulty) s fun result s' =>
      ∃ r', Edits faulty dropFilter r.ingressFilters r result r' ∧ s' = s.put link.name r' := by
  apply Always.ask_bind_ok (perform_filters found _)
  · intro fails e
    exact ⟨r, .failed fails e, (put_get? (get?_of_record? found)).symm⟩
  · refine always_edits (fun f => makes_delFilter f _ _ _) ?_ _ found
    intro f r r' dropped
    cases dropped
    rfl

theorem always_deleteQdiscs (found : s.record? link = some r) :
    (deleteQdiscs (some link)).Always (Answers faulty) s fun result s' =>
      ∃ r', Edits faulty dropQdisc r.removable r result r' ∧ s' = s.put link.name r' := by
  apply Always.ask_bind_ok (perform_qdiscs found)
  · intro fails e
    exact ⟨r, .failed fails e, (put_get? (get?_of_record? found)).symm⟩
  · exact always_edits (fun q => makes_delQdisc q _ _ _)
      (fun q r r' dropped => (shorn_delQdisc dropped).link) _ found

theorem always_deleteRedirectsTo (target : String) (found : s.record? link = some r) :
    (deleteRedirectsTo link target).Always (Answers faulty) s fun result s' =>
      ∃ edited r', Edits faulty dropFilter (r.redirects target) r edited r' ∧
        s' = s.put link.name r' ∧
        result = edited.map fun _ => r.ingressFilters.length - (r.redirects target).length := by
  apply Always.ask_bind_ok (perform_filters found _)
  · intro fails e
    exact ⟨.error e, r, .failed fails e, (put_get? (get?_of_record? found)).symm, rfl⟩
  refine Always.bind (always_edits (fun f => makes_delFilter f _ _ _) ?_ (r.redirects target) found)
    ?_ ?_
  · intro f r r' dropped
    cases dropped
    rfl
  · rintro _ _ ⟨r', edits, rfl⟩
    exact Always.pure ⟨.ok (), r', edits, rfl, rfl⟩
  · rintro e _ ⟨r', edits, rfl⟩
    exact ⟨.error e, r', edits, rfl, rfl⟩

/-- A clearing, and what follows it. -/
theorem always_clear {next : Program Unit} {Q : Except Error Unit → Netns → Prop}
    (found : s.record? link = some r)
    (stopped : ∀ e r', Shorn r r' → (r.Clearable → faulty) → Q (.error e) (s.put link.name r'))
    (cleared : ∀ r', Cleared r r' → next.Always (Answers faulty) (s.put link.name r') Q) :
    (deleteFilters (some link) >>= fun _ => deleteQdiscs (some link) >>= fun _ => next).Always
      (Answers faulty) s Q := by
  apply Always.bind (always_deleteFilters found)
  · rintro _ _ ⟨r₁, filters, rfl⟩
    have shorn := shorn_of_filter_edits filters fun _ => parent_of_mem_ingressFilters
    refine Always.bind (always_deleteQdiscs (record?_put found shorn.link)) ?_ ?_
    · rintro _ _ ⟨r₂, qdiscs, rfl⟩
      rw [put_put]
      exact cleared r₂ ⟨r₁, filters.of_ok, qdiscs.of_ok⟩
    · rintro e _ ⟨r₂, qdiscs, rfl⟩
      rw [put_put]
      apply stopped e r₂ (shorn.trans (shorn_of_qdisc_edits qdiscs))
      intro clearable
      apply Classical.byContradiction
      intro sound
      have finished := ok_of_qdisc_edits qdiscs sound
        (removable_of_filter_edits filters ▸ clearable.distinct) fun q member => ?_
      · cases finished
      · have properties := List.mem_filter.1 member
        exact ⟨properties.1, (Bool.and_eq_true _ _ ▸ properties.2).2⟩
  · rintro e _ ⟨r₁, filters, rfl⟩
    refine stopped e r₁ (shorn_of_filter_edits filters fun _ => parent_of_mem_ingressFilters)
      fun _ => ?_
    apply Classical.byContradiction
    intro sound
    have finished := filters.ok_of_total sound fun f r => ⟨_, rfl⟩
    cases finished

theorem always_addIngress (found : s.record? link = some r) :
    (addIngress (some link)).Always (Answers faulty) s
      (Made faulty s link (·.addQdisc Qdisc.ingress) r) :=
  always_made (perform_addQdisc found _) fun _ _ h => Always.note h

theorem always_addRedirect {target : Link} (found : s.record? link = some r)
    (present : s.links.contains target.name = true) :
    (addRedirect (some link) (some target)).Always (Answers faulty) s
      (Made faulty s link (·.addFilter (Filter.redirect target.name)) r) :=
  always_made (perform_redirect found present) fun _ _ h => Always.note h

/-- How an installation between links named `p` and `q` ends. -/
structure Installation (faulty : Prop) (p q : String) (e t : LinkRecord)
    (result : Except Error Unit) (e' t' : LinkRecord) : Prop where
  physical : Stage q e e'
  tap : Stage p t t'
  done : result = .ok () → Mirrored q e e' ∧ Mirrored p t t'
  sound : e.Clearable → t.Clearable → ¬ faulty → result = .ok ()

theorem Installation.stopped {p q : String} {e t e' t' : LinkRecord} {error : Error}
    (physical : Stage q e e') (tap : Stage p t t')
    (unsound : e.Clearable → t.Clearable → faulty) :
    Installation faulty p q e t (.error error) e' t' where
  physical := physical
  tap := tap
  done := fun ended => by cases ended
  sound := fun clearE clearT sound => absurd (unsound clearE clearT) sound

section

variable {physical tap : Link} {e t e₁ t₁ : LinkRecord} (different : physical.name ≠ tap.name)

include different

private theorem put_physical (e' : LinkRecord) :
    ((s.put physical.name e).put tap.name t).put physical.name e' =
      (s.put physical.name e').put tap.name t := by
  rw [put_comm _ _ _ different.symm, put_put]

private theorem record?_physical (foundE : s.record? physical = some e) (same : e₁.link = e.link) :
    ((s.put physical.name e₁).put tap.name t).record? physical = some e₁ := by
  rw [record?_put_of_ne different]
  exact record?_put foundE same

private theorem record?_tap (foundT : s.record? tap = some t) (same : t₁.link = t.link) :
    ((s.put physical.name e).put tap.name t₁).record? tap = some t₁ :=
  record?_put (by rw [record?_put_of_ne different.symm, foundT]) same

/-- The second half of an installation, between cleared links. -/
theorem always_attach (foundE : s.record? physical = some e) (foundT : s.record? tap = some t)
    (clearE : Cleared e e₁) (clearT : Cleared t t₁) :
    (do
      addIngress (some physical)
      addIngress (some tap)
      addRedirect (some physical) (some tap)
      addRedirect (some tap) (some physical) : Program Unit).Always (Answers faulty)
        ((s.put physical.name e₁).put tap.name t₁) fun result s' => ∃ e' t',
      s' = (s.put physical.name e').put tap.name t' ∧
        Installation faulty physical.name tap.name e t result e' t' := by
  have atE : ∀ e' t', e'.link = e.link →
      ((s.put physical.name e').put tap.name t').record? physical = some e' :=
    fun e' t' same => record?_physical different foundE same
  have atT : ∀ e' t', t'.link = t.link →
      ((s.put physical.name e').put tap.name t').record? tap = some t' :=
    fun e' t' same => record?_tap different foundT same
  have present : ∀ e' t', ((s.put physical.name e').put tap.name t').links.contains tap.name = true :=
    fun e' t' => NameMap.contains_eq_true.2 ⟨t', NameMap.get?_insert_self _ _ _⟩
  have linkE : e₁.link = e.link := clearE.shorn.link
  have linkT : t₁.link = t.link := clearT.shorn.link
  have emptyE : Stage tap.name e e₁ := .clearing clearE.shorn
  have emptyT : Stage physical.name t t₁ := .clearing clearT.shorn
  have readyE : Stage tap.name e e₁.withIngress := .ingress clearE.shorn clearE.ingressFilters_eq
  have readyT : Stage physical.name t t₁.withIngress := .ingress clearT.shorn clearT.ingressFilters_eq
  apply Made.bind (always_addIngress (atE e₁ t₁ linkE))
  · intro _ stopped
    refine ⟨e₁, t₁, rfl, .stopped emptyE emptyT ?_⟩
    intro clearable _
    rw [addQdisc_ingress (clearE.free clearable)] at stopped
    exact stopped.resolve_left (by simp)
  intro e' added
  obtain ⟨freeE, rfl⟩ := free_of_addQdisc added
  rw [put_physical different]
  apply Made.bind (always_addIngress (atT _ t₁ linkT))
  · intro _ stopped
    refine ⟨_, t₁, rfl, .stopped readyE emptyT ?_⟩
    intro _ clearable
    rw [addQdisc_ingress (clearT.free clearable)] at stopped
    exact stopped.resolve_left (by simp)
  intro t' added
  obtain ⟨freeT, rfl⟩ := free_of_addQdisc added
  rw [put_put]
  refine Made.bind (always_addRedirect (atE _ _ linkE) (present _ _)) ?_ ?_
  · intro _ stopped
    rw [addFilter_withIngress] at stopped
    exact ⟨_, _, rfl, .stopped readyE readyT fun _ _ => stopped.resolve_left (by simp)⟩
  intro e' added
  rw [addFilter_withIngress] at added
  cases added
  rw [put_physical different]
  have joinedE : Stage tap.name e (e₁.joined tap.name) := .joined clearE.shorn clearE.ingressFilters_eq
  have joinedT : Stage physical.name t (t₁.joined physical.name) :=
    .joined clearT.shorn clearT.ingressFilters_eq
  have presentE : ((s.put physical.name (e₁.joined tap.name)).put tap.name
      t₁.withIngress).links.contains physical.name = true :=
    NameMap.contains_eq_true.2 ⟨_, get?_of_record? (atE _ _ linkE)⟩
  apply (always_addRedirect (atT _ t₁.withIngress linkT) presentE).mono
  intro result s' made
  cases made with
  | made added =>
      rw [addFilter_withIngress] at added
      cases added
      refine ⟨_, _, put_put _ _ _ _, joinedE, joinedT, fun _ => ?_, fun _ _ _ => rfl⟩
      exact ⟨⟨e₁, clearE, freeE, rfl⟩, ⟨t₁, clearT, freeT, rfl⟩⟩
  | refused refused =>
      rw [addFilter_withIngress] at refused
      cases refused
  | failed fails => exact ⟨_, _, rfl, .stopped joinedE readyT fun _ _ => fails⟩

theorem always_install (foundE : s.record? physical = some e) (foundT : s.record? tap = some t) :
    (install physical tap).Always (Answers faulty) s fun result s' => ∃ e' t',
      s' = (s.put physical.name e').put tap.name t' ∧
        Installation faulty physical.name tap.name e t result e' t' := by
  have foundT' : ∀ e', (s.put physical.name e').record? tap = some t := fun e' => by
    rw [record?_put_of_ne different.symm, foundT]
  apply always_clear foundE
  · intro _ e' shorn unsound
    exact ⟨e', t, (put_get? (get?_of_record? (foundT' e'))).symm,
      .stopped (.clearing shorn) (.clearing (.refl t)) fun clearable _ => unsound clearable⟩
  intro e₁ clearE
  apply always_clear (foundT' e₁)
  · intro _ t' shorn unsound
    exact ⟨e₁, t', rfl, .stopped (.clearing clearE.shorn) (.clearing shorn) fun _ => unsound⟩
  intro t₁ clearT
  exact always_attach different foundE foundT clearE clearT

end

end Duplex

end SandboxNet
