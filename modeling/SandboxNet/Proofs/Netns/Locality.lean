import SandboxNet.Proofs.Netns.Handles

/-! # What a call leaves alone

A call either is carried out, and then changes the part of the namespace that it is about, or it
fails and changes nothing. A failure disarms what was armed against the call. Only calls that may
change something can meet an armed failure; under the name of a reading call it stays armed for good.
-/

namespace SandboxNet

open Netns

/-- Whether one namespace can be another one after a call was carried out: nothing outside the part
that the call is about differs. -/
def Call.Local : Call → Netns → Netns → Prop
  | .addTap spec, s, s' => s.links.get? spec.name = none ∧ ∃ device : LinkRecord,
      s' = { s with nextIndex := s'.nextIndex, links := s.links.insert spec.name device }
  | .deleteLink link, s, s' => s' = { s with links := s.links.erase link.name }
  | .setLinkUp link, s, s' | .addAddress link _, s, s' | .addQdisc link _, s, s'
  | .delQdisc link _, s, s' | .addFilter link _, s, s' | .delFilter link _, s, s' =>
      ∃ r r', s.record? link = some r ∧ s' = s.put link.name r' ∧ r'.link = r.link ∧ r'.tap = r.tap
  | .appendNatRule rule, s, s' => s' = { s with nat := s.nat ++ [rule] }
  | .deleteNatRule rule, s, s' => ∃ before after, s.nat = before ++ rule :: after ∧
      s' = { s with nat := before ++ after }
  | .setIpv4Forwarding on, s, s' => s' = { s with forwarding := on }
  | .linkNames, s, s' | .linkByName _, s, s' | .qdiscs _, s, s' | .filters _ _, s, s'
  | .natRuleExists _, s, s' | .ipv4Forwarding, s, s' | .linkAddrs _, s, s' | .routes, s, s' => s' = s

namespace Netns

variable {s s' : Netns} {link : Link} {r r' : LinkRecord} {request : Call}

theorem LinkStep.tap (h : LinkStep s link r request r') : r'.tap = r.tap := by rw [h.rest]

theorem LinkStep.isLocal (found : s.record? link = some r) (h : LinkStep s link r request r') :
    request.Local s (s.put link.name r') := by
  have kept := And.intro h.link h.tap
  cases h <;> exact ⟨r, _, found, rfl, kept⟩

theorem Step.isLocal (h : Step s request s') : request.Local s s' := by
  cases h with
  | read reads => cases request <;> first | rfl | cases reads
  | @addTap spec free => exact ⟨NameMap.contains_eq_false.1 free, s.device spec, rfl⟩
  | onLink found h => exact h.isLocal found
  | deleteLink | appendNatRule | setIpv4Forwarding => rfl
  | deleteNatRule present =>
      obtain ⟨before, after, -, split, erased⟩ := List.exists_erase_eq present
      exact ⟨before, after, split, by rw [erased]⟩

theorem answer_local (request : Call) (s : Netns) :
    match kernel.answer request s with
    | (.ok _, s') => request.Local s s'
    | (.error _, s') => s' = s.arm
        (if request.kind.isChange = true ∧ s.failNext = some request.kind.name then none
          else s.failNext) := by
  have armed_iff : s.isArmedFor request = true ↔
      request.kind.isChange = true ∧ s.failNext = some request.kind.name := by
    simp [isArmedFor]
  have reply := answered request s
  generalize kernel.answer request s = done at reply ⊢
  cases reply with
  | carried _ h => exact (step_of_perform h).isLocal
  | fired armed =>
      show s.arm none = _
      rw [if_pos (armed_iff.1 armed)]
  | refused calm h =>
      show s = _
      rw [if_neg (mt armed_iff.2 (Bool.eq_false_iff.1 calm))]
      rfl

/-- A reading call that fails leaves armed what is armed under its own name. -/
theorem armed_for_reading :
    let s := withEth0.arm (some "link_by_name")
    let request : Call := .linkByName "missing"
    s.failNext = some request.kind.name ∧
      kernel.answer request s = (.error (.linkNotFound "missing"), s) ∧
      (kernel.answer request s).2.failNext ≠ none := by
  intro s request
  exact ⟨rfl, rfl, nofun⟩

end Netns

end SandboxNet
