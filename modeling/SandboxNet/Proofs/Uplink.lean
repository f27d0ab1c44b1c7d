import SandboxNet.TapIndex
import SandboxNet.Uplink
import SandboxNet.Proofs.Netns.Calls

/-! # Looking at a namespace

The checks of a setup only read: whatever their outcome, the namespace is as it was.
-/

namespace SandboxNet

open Program Netns

variable {faulty : Prop} {s : Netns}

namespace Uplink

theorem always_require : require.Always (Answers faulty) s fun result s' => s' = s ∧
    (result = .ok () → ∃ e, s.links.get? name = some e) ∧
    (∀ e, s.links.get? name = some e → ¬ faulty → result = .ok ()) := by
  apply Always.ask_bind_ok (t := s) rfl
  · intro fails e
    exact ⟨rfl, nofun, fun _ _ sound => absurd fails sound⟩
  split
  · next present => exact Always.pure ⟨rfl, fun _ => NameMap.mem_names_iff.1 present, fun _ _ _ => rfl⟩
  · next absent =>
      exact Always.fail ⟨rfl, nofun, fun e held _ => absurd (NameMap.mem_names_iff.2 ⟨e, held⟩) absent⟩

/-- What a link must have to be reported on. -/
structure Addressed (addrs : LinkAddrs) : Prop where
  mac : addrs.mac.isSome
  ipv4 : addrs.ipv4.isSome
  netmask : addrs.netmask.isSome

/-- A report that a link with the given addresses may get. -/
structure Reports (addrs : LinkAddrs) (report : Interface) : Prop where
  addressed : Addressed addrs
  interface : report.interface = name
  mac : addrs.mac.map Mac.text = some report.mac

theorem always_describe {interface : String} {r : LinkRecord}
    (held : s.links.get? interface = some r) :
    (describe interface).Always (Answers faulty) s fun result s' => s' = s ∧
      (∀ report, result = .ok report → Reports r.addrs report) ∧
      (Addressed r.addrs → ¬ faulty → ∃ report, result = .ok report) := by
  apply Always.ask_bind_ok (perform_linkAddrs held)
  · intro fails e
    exact ⟨rfl, nofun, fun _ sound => absurd fails sound⟩
  cases mac : r.addrs.mac with
  | none => exact Always.fail ⟨rfl, nofun, fun addressed => by simpa [mac] using addressed.mac⟩
  | some macAddr =>
  cases mask : r.addrs.netmask with
  | none => exact Always.fail ⟨rfl, nofun, fun addressed => by simpa [mask] using addressed.netmask⟩
  | some maskAddr =>
  cases ip : r.addrs.ipv4 with
  | none => exact Always.fail ⟨rfl, nofun, fun addressed => by simpa [ip] using addressed.ipv4⟩
  | some ipAddr =>
      have addressed : Addressed r.addrs := ⟨by simp [mac], by simp [ip], by simp [mask]⟩
      refine Always.ask_bind_ok (t := s) rfl ?_ (Always.note_bind (Always.pure ?_))
      · intro fails e
        exact ⟨rfl, nofun, fun _ sound => absurd fails sound⟩
      · refine ⟨rfl, ?_, fun _ _ => ⟨_, rfl⟩⟩
        intro report ended
        cases ended
        exact ⟨addressed, rfl, by rw [mac]; rfl⟩

end Uplink

namespace TapIndex

theorem always_next : next.Always (Answers faulty) s fun result s' => s' = s ∧
    (∀ index, result = .ok index → index = count s.links.names) ∧
    (count s.links.names ≤ highest → ¬ faulty → ∃ index, result = .ok index) := by
  apply Always.ask_bind_ok (t := s) rfl
  · intro fails e
    exact ⟨rfl, nofun, fun _ sound => absurd fails sound⟩
  show (if highest < count s.links.names then _ else _ : Program Nat).Always _ _ _
  split
  · next exceeded => exact Always.fail ⟨rfl, nofun, fun fits => absurd exceeded (Nat.not_lt.2 fits)⟩
  · refine Always.note_bind (Always.pure ⟨rfl, ?_, fun _ _ => ⟨_, rfl⟩⟩)
    intro index ended
    cases ended
    rfl

theorem count_eq_zero {names : List String}
    (noTap : ∀ name ∈ names, ¬ tapStem.toList <+: name.toList) : count names = 0 := by
  rw [count, List.countP_eq_zero]
  intro name listed tap
  exact noTap name listed (List.isPrefixOf_iff_prefix.1 tap)

theorem absent_of_count {name : String} (tap : tapStem.toList.isPrefixOf name.toList = true)
    (none : count s.links.names = 0) : s.links.get? name = .none := by
  rw [count, List.countP_eq_zero] at none
  cases held : s.links.get? name with
  | none => rfl
  | some r => exact absurd tap (none name (NameMap.mem_names_iff.2 ⟨r, held⟩))

end TapIndex

end SandboxNet
