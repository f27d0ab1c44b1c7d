import SandboxNet.Proofs.Netns.Answers
import SandboxNet.Proofs.Netns.Calls
import SandboxNet.Proofs.Netns.Record

/-! # Steps of a namespace

A call that is carried out leaves a namespace alone, changes the record of one link, creates or
deletes a link, or changes the masquerade rules or the forwarding. `Netns.Step` says so once, with
what each of these needs, and what runs preserve is proved case by case over it.
-/

namespace SandboxNet.Netns

variable {s s' : Netns} {link : Link} {r r' : LinkRecord} {request : Call} {name : String}

/-- What a call on a link makes of the record of that link. -/
inductive LinkStep (s : Netns) (link : Link) (r : LinkRecord) : Call → LinkRecord → Prop where
  | setLinkUp : LinkStep s link r (.setLinkUp link) { r with up := true }
  | addAddress {addr : Ipv4Net} {r' : LinkRecord} (h : r.addAddress addr = .ok r') :
      LinkStep s link r (.addAddress link addr) r'
  | addQdisc {q : Tc.Qdisc} {r' : LinkRecord} (h : r.addQdisc q = .ok r') :
      LinkStep s link r (.addQdisc link q) r'
  | delQdisc {q : Tc.Qdisc} {r' : LinkRecord} (h : r.delQdisc q = .ok r') :
      LinkStep s link r (.delQdisc link q) r'
  | addFilter {f : Tc.Filter} {r' : LinkRecord}
      (target : ∀ name, f.redirectTo = some name → s.links.contains name = true)
      (h : r.addFilter f = .ok r') : LinkStep s link r (.addFilter link f) r'
  | delFilter {f : Tc.Filter} : LinkStep s link r (.delFilter link f) (r.delFilter f)

/-- What a link is and what it was created from stay as they are. -/
theorem LinkStep.rest (h : LinkStep s link r request r') :
    r' = { r with up := r'.up, addrs := r'.addrs, extraAddrs := r'.extraAddrs, qdiscs := r'.qdiscs,
                  filters := r'.filters } := by
  cases h with
  | setLinkUp | delFilter => rfl
  | addAddress h =>
      obtain ⟨-, rfl⟩ := LinkRecord.addAddress_ok h
      rfl
  | addQdisc h =>
      obtain ⟨-, rfl⟩ := LinkRecord.addQdisc_ok h
      rfl
  | delQdisc h =>
      obtain ⟨-, rfl⟩ := LinkRecord.delQdisc_ok h
      rfl
  | addFilter _ h =>
      obtain ⟨-, rfl⟩ := LinkRecord.addFilter_ok h
      rfl

/-- What a call that is carried out makes of a namespace. -/
inductive Step (s : Netns) : Call → Netns → Prop where
  | read {request : Call} (reads : request.kind.isChange = false) : Step s request s
  | addTap {spec : TapSpec} (free : s.links.contains spec.name = false) :
      Step s (.addTap spec) { s with
        nextIndex := s.nextIndex + 1
        links := s.links.insert spec.name (s.device spec) }
  | onLink {request : Call} {link : Link} {r r' : LinkRecord} (found : s.record? link = some r)
      (h : LinkStep s link r request r') : Step s request (s.put link.name r')
  | deleteLink {link : Link} {r : LinkRecord} (found : s.record? link = some r) :
      Step s (.deleteLink link) { s with links := s.links.erase link.name }
  | appendNatRule {rule : NatRule} : Step s (.appendNatRule rule) { s with nat := s.nat ++ [rule] }
  | deleteNatRule {rule : NatRule} (present : rule ∈ s.nat) :
      Step s (.deleteNatRule rule) { s with nat := s.nat.erase rule }
  | setIpv4Forwarding {on : Bool} : Step s (.setIpv4Forwarding on) { s with forwarding := on }

theorem step_of_perform {answer : request.Answer} (h : s.perform request = .ok (answer, s')) :
    Step s request s' := by
  cases request with
  | linkNames | linkByName | qdiscs | filters | natRuleExists | ipv4Forwarding | linkAddrs | routes =>
      rw [eq_of_perform rfl h]
      exact .read rfl
  | addTap spec =>
      obtain ⟨free, rfl⟩ := addTap_ok h
      exact .addTap free
  | setLinkUp link =>
      obtain ⟨r, r', found, changed, rfl⟩ := onLink_ok h
      cases changed
      exact .onLink found .setLinkUp
  | addAddress link addr =>
      obtain ⟨r, r', found, changed, rfl⟩ := onLink_ok h
      exact .onLink found (.addAddress changed)
  | addQdisc link q =>
      obtain ⟨r, r', found, changed, rfl⟩ := onLink_ok h
      exact .onLink found (.addQdisc changed)
  | delQdisc link q =>
      obtain ⟨r, r', found, changed, rfl⟩ := onLink_ok h
      exact .onLink found (.delQdisc changed)
  | addFilter link f =>
      simp only [perform] at h
      split at h
      · cases h
      next missing =>
      obtain ⟨r, r', found, changed, rfl⟩ := onLink_ok h
      refine .onLink found (.addFilter ?_ changed)
      intro name target
      simpa [target] using missing
  | delFilter link f =>
      obtain ⟨r, r', found, changed, rfl⟩ := onLink_ok h
      cases changed
      exact .onLink found .delFilter
  | deleteLink link =>
      simp only [perform] at h
      cases found : s.record? link with
      | none =>
          simp only [resolve, found] at h
          cases h
      | some r =>
          rw [resolve_of_record? found] at h
          cases h
          exact .deleteLink found
  | appendNatRule rule =>
      cases h
      exact .appendNatRule
  | deleteNatRule rule =>
      simp only [perform, Netns.deleteNatRule] at h
      split at h
      · next present =>
          cases h
          exact .deleteNatRule present
      · cases h
  | setIpv4Forwarding on =>
      cases h
      exact .setIpv4Forwarding

/-- A call is a step, or it fails, which touches the armed failure alone. -/
theorem step_or_failed (request : Call) (s : Netns) :
    Step s request (kernel.answer request s).2 ∨
      ∃ failure, (kernel.answer request s).2 = s.arm failure := by
  have reply := answered request s
  generalize kernel.answer request s = done at reply ⊢
  cases reply with
  | fired => exact .inr ⟨none, rfl⟩
  | carried _ h => exact .inl (step_of_perform h)
  | refused => exact .inr ⟨s.failNext, rfl⟩

theorem step_or_failed_of_schedule (schedule : Schedule) (request : Call) (t : Nat × Netns) :
    let s' := ((kernel.failing schedule).answer request t).2.2
    Step t.2 request s' ∨ ∃ failure, s' = t.2.arm failure := by
  simp only [Kernel.failing]
  cases schedule t.1 with
  | some e => exact .inr ⟨t.2.failNext, rfl⟩
  | none => exact step_or_failed request t.2

theorem netns_of_reading (schedule : Schedule) (t : Nat × Netns)
    (reads : request.kind.isChange = false) :
    ((kernel.failing schedule).answer request t).2.2 = t.2 := by
  have calm : t.2.isArmedFor request = false := by simp [isArmedFor, reads]
  simp only [Kernel.failing]
  cases schedule t.1 with
  | some e => rfl
  | none =>
      have reply := answered request t.2
      change (kernel.answer request t.2).2 = t.2
      generalize kernel.answer request t.2 = done at reply ⊢
      cases reply with
      | fired armed => simp [calm] at armed
      | carried _ h => exact eq_of_perform reads h
      | refused => rfl

/-- Only the deletion of a link takes a name out of use. -/
theorem contains_of_perform {answer : request.Answer} (notDeletion : request.kind ≠ .deleteLink)
    (present : s.links.contains name = true) (h : s.perform request = .ok (answer, s')) :
    s'.links.contains name = true := by
  cases step_of_perform h with
  | read | appendNatRule | deleteNatRule | setIpv4Forwarding => exact present
  | @addTap spec => exact contains_put present spec.name (s.device spec)
  | @onLink _ link _ r' => exact contains_put present link.name r'
  | deleteLink => exact absurd rfl notDeletion

/-- Only the creation of a device brings a name into use. -/
theorem contains_before_step (h : Step s request s') (present : s'.links.contains name = true) :
    s.links.contains name = true ∨ ∃ spec, request = .addTap spec ∧ spec.name = name := by
  cases h with
  | read | appendNatRule | deleteNatRule | setIpv4Forwarding => exact .inl present
  | @addTap spec =>
      obtain ⟨r, held⟩ := NameMap.contains_eq_true.1 present
      rw [NameMap.get?_insert] at held
      split at held
      · next same => exact .inr ⟨spec, rfl, same.symm⟩
      · exact .inl (NameMap.contains_eq_true.2 ⟨r, held⟩)
  | onLink found =>
      obtain ⟨r, held⟩ := NameMap.contains_eq_true.1 present
      rw [put_links, NameMap.get?_insert] at held
      split at held
      · next same =>
          rw [same]
          exact .inl (NameMap.contains_eq_true.2 ⟨_, get?_of_record? found⟩)
      · exact .inl (NameMap.contains_eq_true.2 ⟨r, held⟩)
  | deleteLink =>
      obtain ⟨r, held⟩ := NameMap.contains_eq_true.1 present
      rw [NameMap.get?_erase] at held
      split at held
      · cases held
      · exact .inl (NameMap.contains_eq_true.2 ⟨r, held⟩)

end SandboxNet.Netns
