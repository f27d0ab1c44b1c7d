import Mathlib.Data.List.Induction
import SandboxNet.Proofs.Netns.Representation

/-! # Filters and the queueing disciplines that they hang off

A filter is attached to a queueing discipline that is there, but a deletion takes filters along only
under the ingress handle, and only when an ingress queueing discipline is what it deletes. Any other
deletion leaves behind the filters of what it removes. `LinkRecord.Orphans` names these filters, and
a run keeps every filter attached exactly as long as no deletion of it has one.
-/

namespace SandboxNet

open Tc

namespace LinkRecord

variable {r r' : LinkRecord} {q : Qdisc} {f : Filter}

/-- A link whose filters all hang off queueing disciplines that it has. -/
def Attached (r : LinkRecord) : Prop := ∀ f ∈ r.filters, ∃ q ∈ r.qdiscs, q.handle = f.parent

/-- A filter that stays when a queueing discipline is deleted, although the one that it hangs off
goes with the deleted one. -/
structure Orphans (r : LinkRecord) (q : Qdisc) (f : Filter) : Prop where
  held : f ∈ r.filters
  spared : q.isIngress = true → f.parent ≠ Handle.ingress
  gone : ∃ p ∈ r.qdiscs, p.handle = f.parent ∧ (p = q ∨ p.Swept [q.handle.major] r.qdiscs)

theorem mem_filters_of_delQdisc (h : r.delQdisc q = .ok r') :
    f ∈ r'.filters ↔ f ∈ r.filters ∧ (q.isIngress = true → f.parent ≠ Handle.ingress) := by
  obtain ⟨-, rfl⟩ := delQdisc_ok h
  show f ∈ (if q.isIngress = true then _ else _) ↔ _
  split
  · next ingress => simp [ingress]
  · next other => simp [other]

theorem mem_qdiscs_of_delQdisc {p : Qdisc} (h : r.delQdisc q = .ok r') :
    p ∈ r'.qdiscs ↔ p ∈ r.qdiscs ∧ ¬ (p = q ∨ p.Swept [q.handle.major] r.qdiscs) := by
  classical
  rw [qdiscs_of_delQdisc h, List.mem_filter, decide_eq_true_eq, not_or]

namespace Attached

theorem of_new {name : String} (new : New name r) : r.Attached := by
  cases new <;> exact fun _ member => nomatch member

theorem addQdisc (attached : r.Attached) (h : r.addQdisc q = .ok r') : r'.Attached := by
  obtain ⟨-, rfl⟩ := addQdisc_ok h
  intro f member
  obtain ⟨p, held, handle⟩ := attached f member
  exact ⟨p, List.mem_append_left _ held, handle⟩

theorem addFilter (attached : r.Attached) (h : r.addFilter f = .ok r') : r'.Attached := by
  obtain ⟨taken, rfl⟩ := addFilter_ok h
  intro g member
  rcases List.mem_append.1 member with old | new
  · exact attached g old
  · exact List.mem_singleton.1 new ▸ taken

/-- Where handles are distinct, a deletion keeps a link attached unless it leaves a filter behind. -/
theorem delQdisc_iff (attached : r.Attached) (sound : r.Sound) (h : r.delQdisc q = .ok r') :
    r'.Attached ↔ ∀ f, ¬ r.Orphans q f := by
  constructor
  · intro after f orphan
    obtain ⟨p, member, handle, goes⟩ := orphan.gone
    have stays := (mem_filters_of_delQdisc h).2 ⟨orphan.held, orphan.spared⟩
    -- handles are distinct, so what the filter hangs off afterwards can only be what was deleted
    obtain ⟨other, kept, same⟩ := after f stays
    obtain ⟨listed, spared⟩ := (mem_qdiscs_of_delQdisc h).1 kept
    obtain rfl : other = p := sound.eq_of_handle listed member (same.trans handle.symm)
    exact spared goes
  · intro none f member
    obtain ⟨held, spared⟩ := (mem_filters_of_delQdisc h).1 member
    obtain ⟨p, listed, handle⟩ := attached f held
    refine ⟨p, (mem_qdiscs_of_delQdisc h).2 ⟨listed, fun goes => ?_⟩, handle⟩
    exact none f ⟨held, spared, p, listed, handle, goes⟩

theorem step {s : Netns} {link : Link} {request : Call} (attached : r.Attached) (sound : r.Sound)
    (h : Netns.LinkStep s link r request r')
    (none : ∀ q, request = .delQdisc link q → ∀ f, ¬ r.Orphans q f) : r'.Attached := by
  cases h with
  | setLinkUp => exact attached
  | addAddress h =>
      obtain ⟨-, rfl⟩ := addAddress_ok h
      exact attached
  | addQdisc h => exact attached.addQdisc h
  | delQdisc h => exact (attached.delQdisc_iff sound h).2 (none _ rfl)
  | addFilter _ h => exact attached.addFilter h
  | delFilter => exact fun g member => attached g (List.mem_filter.1 member).1

end Attached

end LinkRecord

namespace Netns

variable {s : Netns}

/-- A namespace whose filters all hang off queueing disciplines of their links. -/
def Attached (s : Netns) : Prop := s.Records fun _ r => r.Attached

/-- A deletion that is carried out and leaves a filter behind. -/
inductive Orphaning (s : Netns) : Event → Prop where
  | deletion {link : Link} {q : Qdisc} {r : LinkRecord} {f : Filter}
      (found : s.record? link = some r) (carried : (kernel.answer (.delQdisc link q) s).1 = .ok ())
      (orphan : r.Orphans q f) : Orphaning s (.call (.delQdisc link q))

theorem not_orphaning_of_attached {event : Event} (filed : s.Records Filed) (attached : s.Attached)
    (next : (event.next s).Attached) : ¬ Orphaning s event := by
  rintro @⟨link, q, r, f, found, carried, orphan⟩
  obtain ⟨s', performed, left⟩ := perform_of_answer carried
  rw [perform_delQdisc found] at performed
  cases deleted : r.delQdisc q with
  | error e =>
      rw [deleted] at performed
      cases performed
  | ok r' =>
      rw [deleted] at performed
      cases performed
      have held := get?_of_record? found
      have stored : (Event.next s (.call (.delQdisc link q))).links.get? link.name = some r' := by
        simp only [Event.next, left, put_links, NameMap.get?_insert_self]
      have after : r'.Attached := next link.name r' stored
      exact ((attached _ r held).delQdisc_iff (filed _ r held).2 deleted).1 after f orphan

theorem attached_next {event : Event} (filed : s.Records Filed) (attached : s.Attached)
    (none : ¬ Orphaning s event) : (event.next s).Attached := by
  cases event with
  | arm failure => exact attached
  | insert name mtu addrs => exact Records.insert attached (.of_new (.inserted _ _ _ _)) rfl
  | call request =>
      have reply := answered request s
      simp only [Event.next]
      generalize answers : kernel.answer request s = done at reply ⊢
      cases reply with
      | fired | refused => exact attached
      | carried calm h =>
          refine Records.step attached (step_of_perform h) .of_new ?_
          intro link r r' found change old
          refine old.step (filed _ r (get?_of_record? found)).2 change ?_
          rintro q rfl f orphan
          exact none (.deletion found (by rw [answers]) orphan)

theorem attached_throughout_iff {start : Netns} (known : start ∈ [empty, loopback, withEth0])
    (events : List Event) :
    (∀ past, past <+: events → (start.after past).Attached) ↔
      ∀ past event, past ++ [event] <+: events → ¬ Orphaning (start.after past) event := by
  have next : ∀ past event, start.after (past ++ [event]) = event.next (start.after past) :=
    fun past event => after_append start past [event]
  constructor
  · intro attached past event within
    apply not_orphaning_of_attached (filed_after known past)
    · exact attached past ((List.prefix_append _ _).trans within)
    · exact next past event ▸ attached _ within
  · -- the invariant goes from each event to the next one, so the induction takes events off the end
    intro none past
    induction past using List.reverseRecOn with
    | nil => exact fun _ => Records.of_start known .of_new
    | append_singleton past event ih =>
        intro within
        rw [next]
        have earlier := ih ((List.prefix_append _ _).trans within)
        exact attached_next (filed_after known past) earlier (none past event within)

/-- An ingress queueing discipline goes with its filter. -/
theorem attached_throughout_ingress :
    let l : Link := ⟨2, "eth0", 1500⟩
    let events : List Event := [.call (.addQdisc l Qdisc.ingress),
      .call (.addFilter l (Filter.redirect "lo")), .call (.delQdisc l Qdisc.ingress)]
    withEth0 ∈ [empty, loopback, withEth0] ∧
      ((withEth0.after events).links.get? "eth0").map (·.filters) = some [] ∧
      ((∀ past, past <+: events → (withEth0.after past).Attached) ↔
        ∀ past event, past ++ [event] <+: events → ¬ Orphaning (withEth0.after past) event) := by
  intro l events
  have taken : ((withEth0.after events).links.get? "eth0").map (·.filters) = some [] := by
    unfold events l
    rfl
  exact ⟨by simp, taken, attached_throughout_iff (by simp) events⟩

/-- A deleted tree leaves the filters of its root and of its leaf behind. -/
theorem filters_outlive_tree :
    let l : Link := ⟨2, "eth0", 1500⟩
    let htb : Qdisc := ⟨"htb", ⟨1, 0⟩, Handle.root⟩
    let leaf : Qdisc := ⟨"sfq", ⟨0x10, 0⟩, ⟨1, 1⟩⟩
    let f : Filter := ⟨htb.handle, 1, "all", none⟩
    let g : Filter := ⟨leaf.handle, 1, "all", none⟩
    let s := withEth0.after [.call (.addQdisc l htb), .call (.addQdisc l leaf),
      .call (.addFilter l f), .call (.addFilter l g), .call (.delQdisc l htb)]
    (∃ r, s.links.get? "eth0" = some r ∧ r.qdiscs = [] ∧ r.filters = [f, g]) ∧ ¬ s.Attached := by
  intro l htb leaf f g s
  have left : (s.links.get? "eth0").map (fun r => (r.qdiscs, r.filters)) =
      some (Qdisc.sweep [htb.handle.major] [leaf], [f, g]) := by
    unfold s f g leaf htb l
    rfl
  obtain ⟨r, held, same⟩ := Option.map_eq_some_iff.1 left
  obtain ⟨qdiscs, filters⟩ := Prod.mk.inj same
  have swept : Qdisc.sweep [htb.handle.major] [leaf] = [] := by
    apply List.eq_nil_iff_forall_not_mem.2
    intro q left
    obtain rfl : q = leaf := List.mem_singleton.1 ((Qdisc.sweep_sublist _ _).subset left)
    exact absurd (Qdisc.hangsBelow_of_mem_sweep left _ List.mem_cons_self) (by decide)
  rw [swept] at qdiscs
  refine ⟨⟨r, held, qdiscs, filters⟩, fun attached => ?_⟩
  obtain ⟨q, member, -⟩ := attached "eth0" r held f (filters ▸ List.mem_cons_self)
  rw [qdiscs] at member
  cases member

end Netns

end SandboxNet
