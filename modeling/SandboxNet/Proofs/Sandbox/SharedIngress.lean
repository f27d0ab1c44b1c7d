import SandboxNet.Proofs.Kernel.Guarded
import SandboxNet.Proofs.Netns.Steps
import SandboxNet.Proofs.Sandbox.Calls
import SandboxNet.Proofs.Sandbox.Cleanup

/-! # The shared ingress queueing discipline

All sandboxes have their redirects under one ingress queueing discipline of the physical link, and
its deletion takes every filter under it along. A cleanup decides by a count of what it found and what
it deleted. Deletions go by priority and can fail half-way, so the filters left may be fewer than that
count, but never more.
-/

namespace SandboxNet

open Program LinkRecord Netns Call

namespace LinkRecord

variable {faulty : Prop} {tap : String} {e e' : LinkRecord} {f : Tc.Filter}

/-- Where the ingress filters were all redirects, and all of those are gone, no filter is left. -/
theorem ingressFilters_of_redirects
    (filters : Edits faulty dropFilter (e.redirects tap) e (.ok ()) e')
    (remaining : ¬ 0 < e.ingressFilters.length - (e.redirects tap).length) :
    e'.ingressFilters = [] := by
  have all : e.redirects tap = e.ingressFilters :=
    List.filter_sublist.eq_of_length_le (by rw [redirects] at remaining; omega)
  rw [all] at filters
  exact ingressFilters_of_filter_edits filters

theorem remaining_of_foreign (member : f ∈ e.ingressFilters) (foreign : f.redirectTo ≠ some tap) :
    0 < e.ingressFilters.length - (e.redirects tap).length := by
  have other : ¬ f.redirectsTo tap = true := by simpa [Tc.Filter.redirectsTo] using foreign
  exact Nat.sub_pos_of_lt (List.length_filter_lt_length_iff_exists.2 ⟨f, member, other⟩)

theorem Released.qdiscs_eq (h : Released faulty tap e e') (member : f ∈ e.ingressFilters)
    (foreign : f.redirectTo ≠ some tap) : e'.qdiscs = e.qdiscs := by
  cases h with
  | stopped filters | inUse filters => exact qdiscs_of_filter_edits filters
  | unused _ remaining => exact absurd (remaining_of_foreign member foreign) remaining

end LinkRecord

namespace Netns

variable {s s' : Netns} {name : String}

/-- A namespace whose link of the given name has no ingress filter. -/
def Unfiltered (name : String) (s : Netns) : Prop :=
  ∀ e, s.links.get? name = some e → e.ingressFilters = []

theorem LinkStep.ingressFilters {link : Link} {owner : Option Link} {r r' : LinkRecord}
    {request : Call} (h : LinkStep s link r request r') (onQdiscs : request.OnQdiscs owner) :
    r'.ingressFilters.Sublist r.ingressFilters := by
  cases h with
  | setLinkUp | addAddress | addFilter | delFilter => exact onQdiscs.elim
  | addQdisc added =>
      obtain ⟨-, rfl⟩ := addQdisc_ok added
      exact List.Sublist.refl _
  | delQdisc dropped => exact (shorn_delQdisc dropped).ingress

/-- Calls about queueing disciplines bring no filter to a link. -/
theorem Unfiltered.of_perform {owner : Option Link} {request : Call} {answer : request.Answer}
    (clear : s.Unfiltered name) (onQdiscs : request.OnQdiscs owner)
    (carried : s.perform request = .ok (answer, s')) : s'.Unfiltered name := by
  intro e held
  cases step_of_perform carried with
  | read => exact clear e held
  | addTap | deleteLink | appendNatRule | deleteNatRule | setIpv4Forwarding => exact onQdiscs.elim
  | @onLink _ link r r' found step =>
      rw [put_links, NameMap.get?_insert] at held
      split at held
      · next same =>
          cases held
          have before : r.ingressFilters = [] := clear r (same ▸ get?_of_record? found)
          exact List.sublist_nil.1 (before ▸ step.ingressFilters onQdiscs)
      · exact clear e held

/-- No queueing discipline is taken off the physical link while that link has an ingress filter. -/
def SparesFilters (request : Call) (s : Netns) : Prop :=
  ∀ link q, request = .delQdisc link q → link.name = Uplink.name → s.Unfiltered Uplink.name

end Netns

namespace Call

variable {request : Call}

/-- A call that takes no queueing discipline off the physical link at all. -/
def Harmless (request : Call) : Prop :=
  ∀ link q, request = .delQdisc link q → link.name ≠ Uplink.name

theorem Harmless.sparesFilters (h : request.Harmless) (s : Netns) : SparesFilters request s :=
  fun link q deletes uplink => absurd uplink (h link q deletes)

theorem Reading.harmless (h : request.Reading) : request.Harmless := by
  rintro _ _ rfl
  cases h

theorem OnFilters.harmless {link : Option Link} (h : request.OnFilters link) : request.Harmless := by
  rintro _ _ rfl
  exact h.elim

theorem OnQdiscs.harmless {link : Link} (h : request.OnQdiscs (some link))
    (other : link.name ≠ Uplink.name) : request.Harmless := by
  rintro _ _ rfl
  cases h
  exact other

theorem Dropping.harmless {rule : NatRule} (h : request.Dropping rule) : request.Harmless := by
  rintro _ _ rfl
  exact h.elim

end Call

namespace Cleanup

variable {faulty : Prop} {s : Netns} {tap : String}

theorem guarded_deleteIngress {physical : Link} (clear : s.Unfiltered physical.name) :
    (deleteIngress physical).Guarded (Answers faulty) SparesFilters s := by
  refine Guarded.of_invariant (asks_deleteIngress physical) (I := Unfiltered physical.name) ?_ ?_ clear
  · rintro _ s onQdiscs clear link q rfl uplink
    cases onQdiscs
    exact uplink ▸ clear
  · intro request s reply s' onQdiscs clear answered
    cases answered with
    | carried carried => exact clear.of_perform onQdiscs carried
    | refused | failed => exact clear

theorem guarded_tolerate {α : Type} {σ : Type} {A : Answering σ} {G : Call → σ → Prop} {s : σ}
    {step : Program α} {message : String} {fields : List (String × Log.Value)}
    (h : step.Guarded A G s) : (tolerate step message fields).Guarded A G s := by
  apply Guarded.attempt_andThen h
  intro outcome s'
  cases outcome <;> trivial

/-- A count of zero means that no filter is left, so the deletion that follows it is safe. -/
theorem guarded_releasePhysical (physical : Link) :
    (releasePhysical physical tap).Guarded (Answers faulty) SparesFilters s := by
  have asks := (Duplex.failStop_deleteRedirectsTo physical tap).asks.mono fun _ => OnFilters.harmless
  have redirects : (Duplex.deleteRedirectsTo physical tap).Guarded (Answers faulty) SparesFilters s :=
    Guarded.of_asks asks fun _ s harmless => harmless.sparesFilters s
  have counts : (Duplex.deleteRedirectsTo physical tap).Always (Answers faulty) s fun result s' =>
      ∀ remaining, result = .ok remaining → ¬ 0 < remaining → s'.Unfiltered physical.name := by
    cases found : s.record? physical with
    | none =>
        apply Always.ask_bind
        · intro filters s' carried
          simp only [perform, resolve, found] at carried
          cases carried
        · intros
          contradiction
    | some e =>
        apply (Duplex.always_deleteRedirectsTo tap found).mono
        rintro _ _ ⟨edited, e', filters, rfl, rfl⟩ remaining counted zero e₁ held
        obtain rfl : e' = e₁ := Option.some.inj ((NameMap.get?_insert_self _ _ _).symm.trans held)
        cases edited with
        | error => cases counted
        | ok =>
            cases counted
            exact ingressFilters_of_redirects filters zero
  apply Guarded.attempt_bind redirects counts
  intro outcome s' counted
  cases outcome with
  | error => trivial
  | ok remaining =>
      show (if 0 < remaining then _ else _ : Program Unit).Guarded _ _ _
      split
      · trivial
      · next zero => exact guarded_tolerate (guarded_deleteIngress (counted remaining rfl zero))

theorem guarded_run (named : s.Named) (notUplink : tap ≠ Uplink.name) :
    (run tap).Guarded (Answers faulty) SparesFilters s := by
  have harmless : ∀ {α : Type} {p : Program α} {s : Netns}, p.Asks Harmless →
      p.Guarded (Answers faulty) SparesFilters s := fun asks =>
    Guarded.of_asks asks fun _ s harmless => harmless.sparesFilters s
  rw [run, if_neg notUplink]
  have lookup : ∀ name, Harmless (.linkByName name) := fun name => Reading.harmless rfl
  apply Guarded.ask_bind ((lookup tap).sparesFilters s)
  intro link s' answered
  have other : link.name ≠ Uplink.name := by
    cases answered with
    | carried carried =>
        simp only [perform] at carried
        split at carried <;> cases carried
        next held => exact named.link_name held ▸ notUplink
  have filters := (Duplex.failStop_deleteFilters (some link)).asks.mono fun _ => OnFilters.harmless
  have qdiscs := (Duplex.failStop_deleteQdiscs (some link)).asks.mono fun _ onQdiscs =>
    onQdiscs.harmless other
  have rules : (releaseSubnet tap).Asks Harmless := by
    apply (asks_releaseSubnet tap).mono
    rintro _ ⟨_, _, drops⟩
    exact drops.harmless
  have device : (Tap.delete (some link)).Asks Harmless := by
    apply (Tap.failStop_delete (some link)).asks.mono
    rintro _ ⟨_, rfl⟩ _ _ other
    cases other
  refine Guarded.andThen (guarded_tolerate (harmless filters)) fun _ _ => ?_
  refine Guarded.andThen (guarded_tolerate (harmless qdiscs)) fun _ _ => ?_
  have rest : ∀ s, (do
      releaseSubnet tap
      Tap.delete (some link)
      note .info "Sandbox network removed" [("tap", .quoted tap)] : Program Unit).Guarded
        (Answers faulty) SparesFilters s := by
    intro s
    refine Guarded.andThen (harmless rules) fun _ _ => ?_
    exact Guarded.andThen (harmless device) fun _ _ => trivial
  apply Guarded.attempt_andThen (harmless (Asks.ask (lookup Uplink.name)))
  intro found s
  cases found with
  | ok physical => exact Guarded.andThen (guarded_releasePhysical physical) fun _ => rest
  | error => exact rest s

theorem Ending.qdiscs_eq {result : Except Error Unit} {s' : Netns} {e : LinkRecord} {f : Tc.Filter}
    (h : Ending faulty s tap result s') (notUplink : tap ≠ Uplink.name)
    (held : s.links.get? Uplink.name = some e) (member : f ∈ e.ingressFilters)
    (foreign : f.redirectTo ≠ some tap) :
    ∃ e', s'.links.get? Uplink.name = some e' ∧ e'.qdiscs = e.qdiscs := by
  have left : ∀ s₁, Releases faulty tap s s₁ →
      ∃ e', s₁.links.get? Uplink.name = some e' ∧ e'.qdiscs = e.qdiscs := by
    intro s₁ releases
    cases releases with
    | absent | skipped => exact ⟨e, held, rfl⟩
    | @released _ e' again released =>
        cases held.symm.trans again
        exact ⟨e', NameMap.get?_insert_self _ _ _, released.qdiscs_eq member foreign⟩
  cases h with
  | unresolved => exact ⟨e, held, rfl⟩
  | @undeleted s₁ _ t' _ _ _ _ _ releases =>
      obtain ⟨e', held', same⟩ := left s₁ releases
      exact ⟨e', (NameMap.get?_insert_of_ne _ _ notUplink.symm).trans held', same⟩
  | @deleted s₁ _ _ _ releases =>
      obtain ⟨e', held', same⟩ := left s₁ releases
      exact ⟨e', (NameMap.get?_erase_of_ne _ notUplink.symm).trans held', same⟩

/-- No cleanup takes a queueing discipline off the physical link while it has an ingress filter,
whatever calls fail. One that found there an ingress filter of another device leaves them all. -/
theorem ingress_spared {s : Netns} {tap : String} (named : s.Named) (notUplink : tap ≠ Uplink.name)
    (schedule : Schedule) (position : Nat) :
    (∀ request t, (request, t) ∈ (run tap).moments (kernel.failing schedule) (position, s) →
      ∀ link q, request = .delQdisc link q → link.name = Uplink.name →
        ∀ e, t.2.links.get? Uplink.name = some e → e.ingressFilters = []) ∧
    ∀ e, s.links.get? Uplink.name = some e → ∀ f ∈ e.ingressFilters, f.redirectTo ≠ some tap →
      ∃ e', ((run tap).run (kernel.failing schedule) (position, s)).state.2.links.get? Uplink.name =
        some e' ∧ e'.qdiscs = e.qdiscs := by
  have calm : (s.arm none).Named := named
  constructor
  · have guarded : (run tap).Guarded (Answers True) SparesFilters (s.arm none) :=
      guarded_run calm notUplink
    intro request t made
    exact guarded.moments (fun t : Nat × Netns => t.2.arm none) (t := (position, s))
      (fun request t => answers_failing schedule request t.1 t.2) (request, t) made
  · intro e held f member foreign
    have ending := (always_run calm notUplink).run_failing schedule position
    exact ending.qdiscs_eq notUplink held member foreign

theorem ingress_spared_withEth0 :
    let shared : Tc.Filter := ⟨Tc.Handle.ingress, 1, "ip", some "lo"⟩
    let e : LinkRecord := {
      link := ⟨2, Uplink.name, 1500⟩, up := true, tap := none
      addrs := LinkAddrs.none, extraAddrs := [], qdiscs := [Tc.Qdisc.ingress]
      filters := [Tc.Filter.redirect "tap0_urunc", shared] }
    let s := (withEth0.insertLink "tap0_urunc" 1500 LinkAddrs.none).put Uplink.name e
    let schedule : Schedule := fun position =>
      if position = 6 then some (.kernelOperation "list rules" "interrupted") else none
    s.Named ∧ "tap0_urunc" ≠ Uplink.name ∧
      s.links.get? Uplink.name = some e ∧ shared ∈ e.ingressFilters ∧
      shared.redirectTo ≠ some "tap0_urunc" ∧
      (∀ request t, (request, t) ∈ (run "tap0_urunc").moments (kernel.failing schedule) (0, s) →
        ∀ link q, request = .delQdisc link q → link.name = Uplink.name →
          ∀ e, t.2.links.get? Uplink.name = some e → e.ingressFilters = []) ∧
      ∃ e', ((run "tap0_urunc").run (kernel.failing schedule) (0, s)).state.2.links.get? Uplink.name =
        some e' ∧ e'.qdiscs = [Tc.Qdisc.ingress] := by
  intro shared e s schedule
  have named : s.Named := by decide
  have different : "tap0_urunc" ≠ Uplink.name := by decide
  have held : s.links.get? Uplink.name = some e := NameMap.get?_insert_self _ _ _
  have member : shared ∈ e.ingressFilters := by decide
  have foreign : shared.redirectTo ≠ some "tap0_urunc" := by decide
  obtain ⟨safe, kept⟩ := ingress_spared named different schedule 0
  exact ⟨named, different, held, member, foreign, safe, kept e held shared member foreign⟩

end Cleanup

end SandboxNet
