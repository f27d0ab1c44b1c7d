import Mathlib.Data.List.Nodup
import SandboxNet.Proofs.Netns.Handles
import SandboxNet.Proofs.Plan
import SandboxNet.Proofs.Sandbox.Occupied
import SandboxNet.Proofs.Sandbox.Schemes

/-! # The next index and the names in use

The next index is a count, so it need not be free. Each index below it that has no device leaves room
for a device that counts without having such an index; the next index is taken when one of these has
just that index, and then some lower one is free.
-/

namespace SandboxNet

open Program Netns

variable {s : Netns} {name : String} {n index : Nat}

theorem tapStem_prefix_tapName (index : Nat) :
    tapStem.toList.isPrefixOf (tapName index).toList = true := by
  rw [List.isPrefixOf_iff_prefix, toList_tapName, tapNameAround, List.append_assoc]
  exact List.prefix_append _ _

theorem tapName_ne_empty (index : Nat) : tapName index ≠ "" := by
  intro empty
  have stem := tapStem_prefix_tapName index
  rw [empty] at stem
  cases stem

/-- Of two lists without duplicates, each has as many items of the other. -/
theorem countP_mem_comm {α : Type} [DecidableEq α] {xs ys : List α} (distinct : xs.Nodup)
    (distinct' : ys.Nodup) : xs.countP (· ∈ ys) = ys.countP (· ∈ xs) := by
  rw [List.countP_eq_length_filter, List.countP_eq_length_filter]
  apply List.Perm.length_eq
  rw [List.perm_ext_iff_of_nodup (distinct.filter _) (distinct'.filter _)]
  intro x
  simp only [List.mem_filter, decide_eq_true_eq, and_comm]

/-- The names of the indices below `n`. -/
def tapNames (n : Nat) : List String := (List.range n).map tapName

theorem tapNames_succ (n : Nat) : tapNames (n + 1) = tapNames n ++ [tapName n] := by
  simp [tapNames, List.range_succ]

theorem nodup_tapNames (n : Nat) : (tapNames n).Nodup := List.nodup_range.map tapName_injective

namespace Netns

theorem nodup_taps (s : Netns) : s.taps.Nodup := by
  have sorted : s.taps.Pairwise (· < ·) := (List.pairwise_map.2 s.links.sorted).filter _
  apply sorted.imp
  rintro name _ before rfl
  exact String.lt_irrefl name before

theorem tapName_mem_taps_iff : tapName index ∈ s.taps ↔ s.links.contains (tapName index) = true := by
  rw [mem_taps_iff, and_iff_left (tapStem_prefix_tapName index)]

/-- How many indices below `n` have no device. -/
def gaps (s : Netns) (n : Nat) : Nat := (tapNames n).countP (· ∉ s.taps)

/-- How many devices have no index up to `n`. -/
def strangers (s : Netns) (n : Nat) : Nat := s.taps.countP (· ∉ tapNames (n + 1))

/-- An index without a device makes room for a device without an index. -/
theorem taps_add_gaps (s : Netns) (n : Nat) :
    s.taps.length + s.gaps n + (if tapName n ∈ s.taps then 0 else 1) = n + 1 + s.strangers n := by
  have devices : s.taps.length = s.taps.countP (· ∈ tapNames (n + 1)) + s.strangers n := by
    simpa [strangers] using s.taps.length_eq_countP_add_countP (· ∈ tapNames (n + 1))
  have indices : (tapNames (n + 1)).length =
      (tapNames (n + 1)).countP (· ∈ s.taps) + (tapNames (n + 1)).countP (· ∉ s.taps) := by
    simpa using (tapNames (n + 1)).length_eq_countP_add_countP (· ∈ s.taps)
  have last : (tapNames (n + 1)).countP (· ∉ s.taps) =
      s.gaps n + if tapName n ∈ s.taps then 0 else 1 := by
    rw [tapNames_succ, List.countP_append, List.countP_singleton, gaps]
    by_cases taken : tapName n ∈ s.taps <;> simp [taken]
  -- The devices that have an index and the indices that have a device are the same names.
  have common := countP_mem_comm (nodup_taps s) (nodup_tapNames (n + 1))
  rw [tapNames, List.length_map, List.length_range, ← tapNames, last, ← common] at indices
  omega

theorem tapName_free_iff : s.links.get? (tapName index) = none ↔ tapName index ∉ s.taps := by
  rw [tapName_mem_taps_iff, Bool.not_eq_true, NameMap.contains_eq_false]

/-- The number of the devices is a free index when the gaps below it are as many as the strangers. -/
theorem length_taps_free_iff (s : Netns) : s.links.get? (tapName s.taps.length) = none ↔
    s.gaps s.taps.length = s.strangers s.taps.length := by
  have counted := s.taps_add_gaps s.taps.length
  rw [tapName_free_iff]
  split at counted
  · next taken => exact ⟨fun free => absurd taken free, fun same => by omega⟩
  · next free => exact ⟨fun _ => by omega, fun _ => free⟩

/-- Some index up to the number of the devices is free. -/
theorem exists_free_index (s : Netns) :
    ∃ index ≤ s.taps.length, s.links.get? (tapName index) = none := by
  by_cases full : s.gaps s.taps.length = 0
  · have counted := s.taps_add_gaps s.taps.length
    refine ⟨s.taps.length, Nat.le_refl _, tapName_free_iff.2 fun taken => ?_⟩
    rw [if_pos taken] at counted
    omega
  · obtain ⟨name, listed, missing⟩ := List.countP_pos_iff.1 (Nat.pos_of_ne_zero full)
    obtain ⟨index, below, rfl⟩ := List.mem_map.1 listed
    exact ⟨index, Nat.le_of_lt (List.mem_range.1 below), tapName_free_iff.2 (of_decide_eq_true missing)⟩

end Netns

namespace TapIndex

theorem run_next (s : Netns) : (next.run kernel s).result =
    if s.taps.length ≤ 255 then .ok s.taps.length
    else .error (.tapIndexExhausted s.taps.length) := by
  show ((if highest < count s.links.names then _ else _ : Program Nat).run kernel s).result = _
  rw [count_eq_length_taps, highest]
  by_cases exceeds : 255 < s.taps.length
  · rw [if_pos exceeds, if_neg (Nat.not_le.2 exceeds)]
    rfl
  · rw [if_neg exceeds, if_pos (Nat.not_lt.1 exceeds)]
    rfl

end TapIndex

namespace Tap

variable {queues : Int32} {mtu : Option UInt32} {uid gid : UInt32}

/-- A device is created when its name is free, under the next index. -/
theorem always_create_iff (nonempty : name ≠ "") (valid : ¬ queues < 0) :
    (create name queues mtu uid gid).Always (Answers False) s fun result _ =>
      (result.isOk = true ↔ s.links.get? name = none) ∧
        ∀ link, result = .ok link → link.index = s.nextIndex + 1 := by
  rw [create, if_neg nonempty, if_neg valid]
  cases held : s.links.get? name with
  | some r =>
      apply Always.ask_bind
      · intro tap s' carried
        obtain ⟨free, _⟩ := addTap_ok carried
        rw [NameMap.contains_eq_false.1 free] at held
        cases held
      · intro e _
        refine ⟨iff_of_false Bool.false_ne_true (Option.some_ne_none r), fun link ended => ?_⟩
        cases ended
  | none =>
      apply Always.ask_bind_ok (perform_addTap held)
      · exact False.elim
      apply Always.ask_bind_ok (perform_setLinkUp (record?_of_get? (NameMap.get?_insert_self _ _ _) rfl))
      · exact False.elim
      refine Always.note_bind (Always.pure ⟨⟨fun _ => rfl, fun _ => rfl⟩, ?_⟩)
      rintro link ⟨⟩
      rfl

end Tap

namespace TapIndex

theorem next_after_session (operations : List Operation) :
    let r := (Operation.session operations).run kernel withEth0
    let s := r.state
    let count := s.taps.length
    (next.run kernel s).result =
      (if count ≤ 255 then .ok count else .error (.tapIndexExhausted count)) ∧
    (s.links.get? (tapName count) = none ↔ s.gaps count = s.strangers count) ∧
    (∃ index ≤ count, s.links.get? (tapName index) = none) ∧
    ∀ (queues : Int32) (mtu : Option UInt32) (uid gid : UInt32), ¬ queues < 0 →
      let links := withEth0.links.entries.length + withEth0.created (r.calls.map .call)
      let made := ((Tap.create (tapName count) queues mtu uid gid).run kernel s).result
      links + 1 < 0x100000000 →
        (made.isOk = true ↔ s.gaps count = s.strangers count) ∧
          ∀ link, made = .ok link → link.index.toNat = links + 1 := by
  intro r s count
  refine ⟨run_next s, s.length_taps_free_iff, s.exists_free_index, ?_⟩
  intro queues mtu uid gid valid links made few
  have calm : s.Unarmed := Unarmed.run (unarmed_of_failNext rfl) (Operation.session operations)
  have numbered : Numbered links s := by
    have start : Numbered withEth0.links.entries.length withEth0 := numbered_of_start (by simp)
    have later := after_of_turnover Numbered.step start (r.calls.map .call) (by omega)
    rwa [after_calls] at later
  obtain ⟨free, index⟩ :=
    ((Tap.always_create_iff (tapName_ne_empty count) valid).run_unarmed calm).1
  refine ⟨free.trans s.length_taps_free_iff, fun link ended => ?_⟩
  rw [index link ended, numbered.fresh few]

/-- After the first of two devices is deleted, the next index is the one of the other. -/
theorem next_taken_after_deletion :
    let s := ((Operation.session [.createTap "tap0_urunc" 1 none 0 0,
      .createTap "tap1_urunc" 1 none 0 0, .deleteTap (some ⟨3, "tap0_urunc", 1500⟩)]).run kernel
        withEth0).state
    (next.run kernel s).result = .ok 1 ∧ s.links.contains (tapName 1) = true ∧
      ((Tap.create (tapName 1) 1 none 0 0).run kernel s).result =
        .error (.kernelOperation "add tap" "file exists") := by
  intro s
  refine ⟨?_, ?_, ?_⟩
  · decide
  · decide
  · decide

end TapIndex

end SandboxNet
