import SandboxNet.Sandbox.Cleanup
import SandboxNet.Proofs.Duplex
import SandboxNet.Proofs.Masquerade

/-! # Cleanups

A cleanup changes three things: it takes the redirects to its device off the physical link, the rule
of its subnet out of the table, and the device away. The first two are done as far as the calls
allow, and the last one decides the result.
-/

namespace SandboxNet

open Program LinkRecord Netns

namespace LinkRecord

/-- What a cleanup makes of the physical link. -/
inductive Released (faulty : Prop) (tap : String) (e : LinkRecord) : LinkRecord → Prop where
  | stopped {e₁ : LinkRecord} {error : Error}
      (filters : Edits faulty dropFilter (e.redirects tap) e (.error error) e₁) :
      Released faulty tap e e₁
  | inUse {e₁ : LinkRecord} (filters : Edits faulty dropFilter (e.redirects tap) e (.ok ()) e₁)
      (remaining : 0 < e.ingressFilters.length - (e.redirects tap).length) :
      Released faulty tap e e₁
  | unused {e₁ e₂ : LinkRecord} {result : Except Error Unit}
      (filters : Edits faulty dropFilter (e.redirects tap) e (.ok ()) e₁)
      (remaining : ¬ 0 < e.ingressFilters.length - (e.redirects tap).length)
      (qdiscs : Edits faulty dropQdisc (e₁.qdiscs.filter (·.isIngress)) e₁ result e₂) :
      Released faulty tap e e₂

theorem shorn_of_redirects {faulty : Prop} {tap : String} {e e' : LinkRecord}
    {result : Except Error Unit} (h : Edits faulty dropFilter (e.redirects tap) e result e') :
    Shorn e e' :=
  shorn_of_filter_edits h fun _ member => parent_of_mem_ingressFilters (List.mem_filter.1 member).1

theorem Released.shorn {faulty : Prop} {tap : String} {e e' : LinkRecord}
    (h : Released faulty tap e e') : Shorn e e' := by
  cases h with
  | stopped filters | inUse filters => exact shorn_of_redirects filters
  | unused filters _ qdiscs =>
      exact (shorn_of_redirects filters).trans (shorn_of_qdisc_edits qdiscs)

end LinkRecord

namespace Netns

/-- What a cleanup makes of the physical link of a namespace, if it has one. -/
inductive Releases (faulty : Prop) (tap : String) (s : Netns) : Netns → Prop where
  | absent (missing : s.links.get? Uplink.name = none) : Releases faulty tap s s
  | skipped (fails : faulty) : Releases faulty tap s s
  | released {e e' : LinkRecord} (held : s.links.get? Uplink.name = some e)
      (h : Released faulty tap e e') : Releases faulty tap s (s.put Uplink.name e')

namespace Releases

variable {faulty : Prop} {tap : String} {s s' : Netns} {t : LinkRecord}

theorem nat (h : Releases faulty tap s s') : s'.nat = s.nat := by
  cases h with
  | absent | skipped | released => rfl

theorem of_put (different : tap ≠ Uplink.name) (h : Releases faulty tap (s.put tap t) s') :
    ∃ s₁, Releases faulty tap s s₁ ∧ s' = s₁.put tap t := by
  have same : (s.put tap t).links.get? Uplink.name = s.links.get? Uplink.name :=
    NameMap.get?_insert_of_ne _ _ different.symm
  cases h with
  | absent missing => exact ⟨s, .absent (same ▸ missing), rfl⟩
  | skipped fails => exact ⟨s, .skipped fails, rfl⟩
  | released held released =>
      exact ⟨_, .released (same ▸ held) released, put_comm s _ _ different⟩

end Releases

/-- The masquerade rules without the one of the subnet that a device name stands for. -/
def rulesWithout (tap : String) (rules : List NatRule) : List NatRule :=
  match AddressPlan.ofTapName? tap with
  | some plan => rules.erase (NatRule.masquerade Uplink.name plan.subnet)
  | none => rules

end Netns

namespace Cleanup

variable {faulty : Prop} {s : Netns} {tap : String}

section

variable {σ α β : Type} {A : Answering σ} {s : σ} {step : Program α} {message : String}
  {fields : List (String × Log.Value)} {P : σ → Prop}

theorem tolerated (h : step.Always A s fun _ s' => P s') :
    (tolerate step message fields).Always A s fun result s' => result = .ok () ∧ P s' := by
  apply Always.attempt_bind h
  intro outcome s' holds
  cases outcome with
  | ok value => exact Always.pure ⟨rfl, holds⟩
  | error e => exact Always.note ⟨rfl, holds⟩

/-- A tolerated step never stops what follows it. -/
theorem always_tolerate {next : Unit → Program β} {Q : Except Error β → σ → Prop}
    (h : step.Always A s fun _ s' => P s') (later : ∀ s', P s' → (next ()).Always A s' Q) :
    (tolerate step message fields >>= next).Always A s Q := by
  apply Always.bind (tolerated h) (fun _ s' ended => later s' ended.2)
  intro e s' ended
  cases ended.1

end

theorem always_deleteIngress {link : Link} {r : LinkRecord} (found : s.record? link = some r) :
    (deleteIngress link).Always (Answers faulty) s fun result s' =>
      ∃ r', Edits faulty dropQdisc (r.qdiscs.filter (·.isIngress)) r result r' ∧
        s' = s.put link.name r' := by
  apply Always.ask_bind_ok (perform_qdiscs found)
  · intro fails e
    exact ⟨r, .failed fails e, (put_get? (get?_of_record? found)).symm⟩
  · refine always_edits ?_ (fun q r r' dropped => (shorn_delQdisc dropped).link) _ found
    intro q s r found
    rw [← bind_pure (ask (.delQdisc link q))]
    exact always_made (perform_delQdisc found q) fun _ _ ended => Always.pure ended

theorem always_releasePhysical {physical : Link} {e : LinkRecord}
    (found : s.record? physical = some e) :
    (releasePhysical physical tap).Always (Answers faulty) s fun result s' => result = .ok () ∧
      ∃ e', Released faulty tap e e' ∧ s' = s.put physical.name e' := by
  apply Always.attempt_bind (Duplex.always_deleteRedirectsTo tap found)
  rintro _ _ ⟨edited, e₁, filters, rfl, rfl⟩
  cases edited with
  | error error => exact Always.note ⟨rfl, e₁, .stopped filters, rfl⟩
  | ok done =>
      show (if 0 < e.ingressFilters.length - (e.redirects tap).length then _ else _ :
        Program Unit).Always _ _ _
      split
      · next remaining => exact Always.note ⟨rfl, e₁, .inUse filters remaining, rfl⟩
      · next remaining =>
          apply tolerated
          refine (always_deleteIngress (record?_put found (shorn_of_redirects filters).link)).mono ?_
          rintro result _ ⟨e₂, qdiscs, rfl⟩
          exact ⟨e₂, .unused filters remaining qdiscs, put_put _ _ _ _⟩

theorem always_releaseSubnet {next : Unit → Program Unit} {Q : Except Error Unit → Netns → Prop}
    (later : ∀ rules, rules = rulesWithout tap s.nat ∨ faulty ∧ rules = s.nat →
      (next ()).Always (Answers faulty) { s with nat := rules } Q) :
    (releaseSubnet tap >>= next).Always (Answers faulty) s Q := by
  cases plan : AddressPlan.ofTapName? tap with
  | none =>
      simp only [releaseSubnet, plan]
      exact later s.nat (.inl (by simp only [rulesWithout, plan]))
  | some plan' =>
      simp only [releaseSubnet, plan]
      have without : rulesWithout tap s.nat =
          s.nat.erase (NatRule.masquerade Uplink.name plan'.subnet) := by
        simp only [rulesWithout, plan]
      refine always_tolerate (P := fun s' => ∃ rules, (rules = rulesWithout tap s.nat ∨
        faulty ∧ rules = s.nat) ∧ s' = { s with nat := rules })
        ((Masquerade.always_remove Uplink.name plan'.subnet).mono ?_) ?_
      · rintro result _ ⟨rules, rfl, either, done, sound⟩
        refine ⟨rules, ?_, rfl⟩
        rw [without]
        rcases either with kept | erased
        · apply Classical.or_iff_not_imp_left.2
          intro other
          refine ⟨?_, kept⟩
          apply Classical.byContradiction
          intro calm
          apply other
          obtain ⟨present, ended⟩ := sound calm
          exact (done present ended).1
        · exact .inl erased
      · rintro _ ⟨rules, nat, rfl⟩
        exact later rules nat

theorem always_releaseUplink {next : Unit → Program Unit} {Q : Except Error Unit → Netns → Prop}
    (named : ∀ e, s.links.get? Uplink.name = some e → e.link.name = Uplink.name)
    (later : ∀ s₁, Releases faulty tap s s₁ → (next ()).Always (Answers faulty) s₁ Q) :
    (do
      match ← (ask (.linkByName Uplink.name)).attempt with
      | .ok physical => do
          let done ← releasePhysical physical tap
          next done
      | .error e => do
          let done ← note .debug "Skipping physical interface rules" [("error", .shown e.message)]
          next done : Program Unit).Always (Answers faulty) s Q := by
  intro reply s' answered
  cases answered with
  | failed fails e => exact Always.note_bind (later s (.skipped fails))
  | refused refused =>
      cases held : s.links.get? Uplink.name with
      | none => exact Always.note_bind (later s (.absent held))
      | some e =>
          rw [perform_linkByName held] at refused
          cases refused
  | carried carried =>
      cases held : s.links.get? Uplink.name with
      | none =>
          simp only [perform, held] at carried
          cases carried
      | some e =>
          rw [perform_linkByName held] at carried
          cases carried
          have found : s.record? e.link = some e := record?_of_get? held (named e held)
          show (releasePhysical e.link tap >>= next).Always _ _ _
          apply Always.bind (always_releasePhysical found)
          · rintro _ _ ⟨_, e', released, rfl⟩
            rw [named e held]
            exact later _ (.released held released)
          · rintro error _ ⟨impossible, _⟩
            cases impossible

/-- How a cleanup ends, of a device other than the physical link. -/
inductive Ending (faulty : Prop) (s : Netns) (tap : String) : Except Error Unit → Netns → Prop where
  | unresolved {error : Error}
      (stopped : s.links.get? tap = none ∧ error = .linkNotFound tap ∨ faulty) :
      Ending faulty s tap (.error error) s
  | undeleted {s₁ : Netns} {t t' : LinkRecord} {rules : List NatRule} {error : Error}
      (fails : faulty) (held : s.links.get? tap = some t) (shorn : Shorn t t')
      (releases : Releases faulty tap s s₁)
      (nat : rules = rulesWithout tap s.nat ∨ faulty ∧ rules = s.nat) :
      Ending faulty s tap (.error error) { s₁.put tap t' with nat := rules }
  | deleted {s₁ : Netns} {t : LinkRecord} {rules : List NatRule}
      (held : s.links.get? tap = some t) (releases : Releases faulty tap s s₁)
      (nat : rules = rulesWithout tap s.nat ∨ faulty ∧ rules = s.nat) :
      Ending faulty s tap (.ok ()) { s₁ with links := s₁.links.erase tap, nat := rules }

theorem always_run (allNamed : s.Named) (notUplink : tap ≠ Uplink.name) :
    (run tap).Always (Answers faulty) s (Ending faulty s tap) := by
  rw [run, if_neg notUplink]
  cases held : s.links.get? tap with
  | none =>
      refine Always.ask_bind (fun _ _ carried => ?_) fun e stopped => .unresolved ?_
      · simp only [perform, held] at carried
        cases carried
      · apply stopped.imp_left
        intro refused
        refine ⟨held, ?_⟩
        simp only [perform, held] at refused
        cases refused
        rfl
  | some t =>
  apply Always.ask_bind_ok (perform_linkByName held) (fun fails _ => .unresolved (.inr fails))
  have named : t.link.name = tap := allNamed.link_name held
  have found : s.record? t.link = some t := record?_of_get? held named
  refine always_tolerate (P := fun s' => ∃ t₁, Shorn t t₁ ∧ s' = s.put tap t₁)
    ((Duplex.always_deleteFilters found).mono ?_) ?_
  · rintro result _ ⟨t₁, filters, rfl⟩
    exact ⟨t₁, shorn_of_filter_edits filters fun _ => parent_of_mem_ingressFilters, by rw [named]⟩
  rintro _ ⟨t₁, shorn₁, rfl⟩
  have found₁ : (s.put tap t₁).record? t.link = some t₁ := named ▸ record?_put found shorn₁.link
  refine always_tolerate (P := fun s' => ∃ t₂, Shorn t t₂ ∧ s' = s.put tap t₂)
    ((Duplex.always_deleteQdiscs found₁).mono ?_) ?_
  · rintro result _ ⟨t₂, qdiscs, rfl⟩
    exact ⟨t₂, shorn₁.trans (shorn_of_qdisc_edits qdiscs), by rw [named, put_put]⟩
  rintro _ ⟨t₂, shorn₂, rfl⟩
  have uplinkNamed : ∀ e, (s.put tap t₂).links.get? Uplink.name = some e →
      e.link.name = Uplink.name := fun e present => by
    rw [put_links, NameMap.get?_insert_of_ne _ _ notUplink.symm] at present
    exact allNamed.link_name present
  apply always_releaseUplink uplinkNamed
  intro s' releases
  obtain ⟨s₁, released, rfl⟩ := releases.of_put notUplink
  apply always_releaseSubnet
  intro rules nat
  have nat : rules = rulesWithout tap s.nat ∨ faulty ∧ rules = s.nat := released.nat ▸ nat
  have found₂ : Netns.record? { s₁.put tap t₂ with nat := rules } t.link = some t₂ := by
    refine record?_eq_some.2 ⟨named ▸ NameMap.get?_insert_self _ _ _, ?_⟩
    rw [shorn₂.link]
  have erased : (s₁.links.insert tap t₂).erase tap = s₁.links.erase tap :=
    NameMap.erase_insert _ _ _
  rw [Tap.delete, bind_assoc]
  refine Always.ask_bind_ok (perform_deleteLink found₂) ?_ (Always.note_bind (Always.note ?_))
  · intro fails e
    exact .undeleted fails held shorn₂ released nat
  · have ended : Ending faulty s tap (.ok ()) { s₁ with links := s₁.links.erase tap, nat := rules } :=
      .deleted held released nat
    rw [← erased] at ended
    rw [named]
    exact ended

end Cleanup

end SandboxNet
