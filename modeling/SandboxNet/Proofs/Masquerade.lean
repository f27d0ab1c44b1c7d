import SandboxNet.Masquerade
import SandboxNet.Proofs.Netns.Answers

/-! # The masquerade rule of a subnet

An installed rule is in the table once more only if it was not there, and its removal takes the first
one away. Both keep all other rules and their order, and forwarding is never turned off.
-/

namespace SandboxNet.Masquerade

open Program Netns

variable {faulty : Prop} {s : Netns}

/-- A table of rules that has a rule, at its end if it was not there. -/
def adopt (rule : NatRule) (rules : List NatRule) : List NatRule :=
  if rule ∈ rules then rules else rules ++ [rule]

theorem mem_adopt (rule : NatRule) (rules : List NatRule) : rule ∈ adopt rule rules := by
  rw [adopt]
  split
  · assumption
  · exact List.mem_append_right _ (List.mem_singleton_self rule)

theorem filter_ne_of_not_mem {rule : NatRule} {rules : List NatRule} (absent : rule ∉ rules) :
    rules.filter (· ≠ rule) = rules := by
  apply List.filter_eq_self.2
  intro other member
  have different : other ≠ rule := fun same => absent (same ▸ member)
  simpa using different

theorem erase_of_count_le_one {rule : NatRule} {rules : List NatRule}
    (once : rules.count rule ≤ 1) : rules.erase rule = rules.filter (· ≠ rule) := by
  induction rules with
  | nil => rfl
  | cons head rest ih =>
      by_cases same : head = rule
      · subst same
        rw [List.count_cons_self] at once
        have absent : head ∉ rest := List.count_eq_zero.1 (by omega)
        rw [List.erase_cons_head, List.filter_cons_of_neg (by simp), filter_ne_of_not_mem absent]
      · rw [List.count_cons_of_ne same] at once
        rw [List.erase_cons_tail (by simpa using same), List.filter_cons_of_pos (by simpa using same),
          ih once]

/-- Removing a rule takes away what its installation put there, and what was there once before. -/
theorem erase_adopt {rule : NatRule} {rules : List NatRule} (once : rules.count rule ≤ 1) :
    (adopt rule rules).erase rule = rules.filter (· ≠ rule) := by
  simp only [adopt]
  split
  · exact erase_of_count_le_one once
  · next absent =>
      rw [List.erase_append_right _ absent, List.erase_cons_head, List.append_nil,
        filter_ne_of_not_mem absent]

theorem always_enableForwarding : enableForwarding.Always (Answers faulty) s fun result s' =>
    ∃ on, s' = { s with forwarding := on } ∧ (on = s.forwarding ∨ on = true) ∧
      (result = .ok () → on = true) ∧ (¬ faulty → result = .ok ()) := by
  apply Always.ask_bind_ok (t := s) rfl
  · intro fails e
    exact ⟨s.forwarding, rfl, .inl rfl, nofun, fun sound => absurd fails sound⟩
  split
  · next on => exact Always.pure ⟨s.forwarding, rfl, .inl rfl, fun _ => on, fun _ => rfl⟩
  · apply Always.ask_bind_ok rfl
    · intro fails e
      exact ⟨s.forwarding, rfl, .inl rfl, nofun, fun sound => absurd fails sound⟩
    · exact Always.note ⟨true, rfl, .inr rfl, fun _ => rfl, fun _ => rfl⟩

/-- How an installation of a rule ends. -/
structure Adoption (faulty : Prop) (rule : NatRule) (s : Netns) (result : Except Error Unit)
    (rules : List NatRule) (on : Bool) : Prop where
  nat : rules = s.nat ∨ rules = adopt rule s.nat
  forwarding : on = s.forwarding ∨ on = true
  done : result = .ok () → rules = adopt rule s.nat ∧ on = true
  sound : ¬ faulty → result = .ok ()

theorem always_install (outInterface : String) (subnet : Ipv4Net) :
    (install outInterface subnet).Always (Answers faulty) s fun result s' => ∃ rules on,
      s' = { s with nat := rules, forwarding := on } ∧
        Adoption faulty (NatRule.masquerade outInterface subnet) s result rules on := by
  have unmade : ∀ e, faulty → Adoption faulty (NatRule.masquerade outInterface subnet) s (.error e)
      s.nat s.forwarding := fun e fails =>
    ⟨.inl rfl, .inl rfl, nofun, fun sound => absurd fails sound⟩
  apply Always.ask_bind_ok (t := s) rfl (fun fails e => ⟨_, _, rfl, unmade e fails⟩)
  split
  · next present =>
      apply always_enableForwarding.mono
      rintro result _ ⟨on, rfl, forwarding, done, sound⟩
      have kept : adopt (NatRule.masquerade outInterface subnet) s.nat = s.nat :=
        if_pos (List.contains_iff_mem.1 present)
      exact ⟨s.nat, on, rfl, .inl rfl, forwarding, fun ended => ⟨kept.symm, done ended⟩, sound⟩
  · next absent =>
      apply Always.ask_bind_ok rfl (fun fails e => ⟨_, _, rfl, unmade e fails⟩)
      apply always_enableForwarding.mono
      rintro result _ ⟨on, rfl, forwarding, done, sound⟩
      have grown : adopt (NatRule.masquerade outInterface subnet) s.nat =
          s.nat ++ [NatRule.masquerade outInterface subnet] :=
        if_neg fun member => absent (List.contains_iff_mem.2 member)
      exact ⟨_, on, rfl, .inr grown.symm, forwarding, fun ended => ⟨grown.symm, done ended⟩, sound⟩

theorem always_remove (outInterface : String) (subnet : Ipv4Net) :
    (remove outInterface subnet).Always (Answers faulty) s fun result s' => ∃ rules,
      s' = { s with nat := rules } ∧
        (rules = s.nat ∨ rules = s.nat.erase (NatRule.masquerade outInterface subnet)) ∧
        (∀ present, result = .ok present →
          rules = s.nat.erase (NatRule.masquerade outInterface subnet) ∧
            present = decide (NatRule.masquerade outInterface subnet ∈ s.nat)) ∧
        (¬ faulty → ∃ present, result = .ok present) := by
  apply Always.ask_bind_ok (t := s) rfl
  · intro fails e
    exact ⟨s.nat, rfl, .inl rfl, nofun, fun sound => absurd fails sound⟩
  split
  · next present =>
      have member : NatRule.masquerade outInterface subnet ∈ s.nat := List.contains_iff_mem.1 present
      have deletes : s.perform (.deleteNatRule (NatRule.masquerade outInterface subnet)) = .ok ((),
          { s with nat := s.nat.erase (NatRule.masquerade outInterface subnet) }) := if_pos member
      refine Always.ask_bind_ok deletes ?_ (Always.note_bind (Always.pure ?_))
      · intro fails e
        exact ⟨s.nat, rfl, .inl rfl, nofun, fun sound => absurd fails sound⟩
      · refine ⟨_, rfl, .inr rfl, fun _ ended => ⟨rfl, ?_⟩, fun _ => ⟨true, rfl⟩⟩
        cases ended
        simp [member]
  · next absent =>
      have missing : NatRule.masquerade outInterface subnet ∉ s.nat := fun member =>
        absent (List.contains_iff_mem.2 member)
      have same : s.nat = s.nat.erase (NatRule.masquerade outInterface subnet) :=
        (List.erase_of_not_mem missing).symm
      refine Always.pure ⟨s.nat, rfl, .inl rfl, fun _ ended => ⟨same, ?_⟩, fun _ => ⟨false, rfl⟩⟩
      cases ended
      simp [missing]

theorem adopted_of_install (schedule : Schedule) (t : Nat × Netns) (interface : String) (net : Ipv4Net) :
    let r := (install interface net).run (kernel.failing schedule) t
    r.result = .ok () →
      r.state.2.nat = adopt ⟨interface, net.network⟩ t.2.nat ∧ r.state.2.forwarding = true := by
  intro r ended
  obtain ⟨rules, on, left, adoption⟩ :=
    (always_install interface net).run_failing schedule t.1 (s := t.2)
  obtain ⟨adopted, forwards⟩ := adoption.done ended
  constructor
  · exact (congrArg Netns.nat left).trans adopted
  · exact (congrArg Netns.forwarding left).trans forwards

theorem erased_of_remove (schedule : Schedule) (t : Nat × Netns) (interface : String) (net : Ipv4Net) :
    let r := (remove interface net).run (kernel.failing schedule) t
    ∀ present, r.result = .ok present →
      r.state.2.nat = t.2.nat.erase ⟨interface, net.network⟩ ∧
        present = decide (⟨interface, net.network⟩ ∈ t.2.nat) := by
  intro r present ended
  obtain ⟨rules, left, -, done, -⟩ := (always_remove interface net).run_failing schedule t.1 (s := t.2)
  obtain ⟨erased, found⟩ := done present ended
  exact ⟨(congrArg Netns.nat left).trans erased, found⟩

end SandboxNet.Masquerade
