import SandboxNet.Proofs.Kernel.Trace
import SandboxNet.Proofs.Sandbox.Calls
import SandboxNet.Proofs.Sandbox.Cleanup

/-! # The calls of a cleanup

A cleanup either stops at the resolution of its device, or deletes that device with its last call,
whichever of the calls in between failed. `Cleanup.Course` says which calls those are, and that one
reply decides the result.
-/

namespace SandboxNet.Cleanup

open Program Netns

variable {σ : Type} {A : Answering σ} {s : σ} {tap : String} {link : Link} {past : List Exchange}

/-- Whether the masquerade rule has been looked up, of the subnet that a device name stands for. -/
def LookedUp (tap : String) (made : List Exchange) : Prop :=
  ∀ plan, AddressPlan.ofTapName? tap = some plan →
    ∃ x ∈ made, x.request = .natRuleExists (NatRule.masquerade Uplink.name plan.subnet)

/-- How a cleanup ends, and the exchanges that it made. -/
inductive Course (tap : String) : Except Error Unit → List Exchange → Prop where
  | unresolved (e : Error) : Course tap (.error e) [⟨.linkByName tap, .error e⟩]
  | resolved {link : Link} {made : List Exchange} (result : Except Error Unit)
      (sparing : ∀ x ∈ made, x.request.Sparing) (lookedUp : LookedUp tap made) :
      Course tap result (⟨.linkByName tap, .ok link⟩ :: made ++ [⟨.deleteLink link, result⟩])

/-- The exchanges after the resolution of the device, with no deletion among them. -/
def Ongoing (tap : String) (link : Link) (now : List Exchange) : Prop :=
  ∃ made, now = ⟨.linkByName tap, .ok link⟩ :: made ∧ ∀ x ∈ made, x.request.Sparing

theorem Ongoing.append {made : List Exchange} (ongoing : Ongoing tap link past)
    (plain : ∀ x ∈ made, x.request.Plain) : Ongoing tap link (past ++ made) := by
  obtain ⟨before, rfl, sparing⟩ := ongoing
  exact ⟨before ++ made, List.cons_append,
    List.forall_mem_append.2 ⟨sparing, fun x member => (plain x member).sparing⟩⟩

theorem Ongoing.always {α : Type} {p : Program α} (ongoing : Ongoing tap link past)
    (asks : p.Asks Call.Plain) : p.Always recording past fun _ now => Ongoing tap link now := by
  apply asks.always.mono
  rintro _ _ ⟨made, rfl, plain⟩
  exact ongoing.append plain

/-- Nothing that fails on the physical link is an error of its release. -/
theorem always_ok_releasePhysical (physical : Link) (tap : String) :
    (releasePhysical physical tap).Always A s fun result _ => result = .ok () := by
  apply Always.attempt_bind (P := fun _ _ => True) (Always.of_forall fun _ _ => trivial)
  intro outcome s' _
  cases outcome with
  | error e => exact Always.note rfl
  | ok remaining =>
      show (if 0 < remaining then _ else _ : Program Unit).Always A s' _
      split
      · exact Always.note rfl
      · exact (tolerated (P := fun _ => True) (Always.of_forall fun _ _ => trivial)).mono
          fun _ _ ended => ended.1

theorem always_lookUp (tap : String) : (releaseSubnet tap).Always recording past fun result now =>
    result = .ok () ∧
      ∃ made, now = past ++ made ∧ (∀ x ∈ made, x.request.Plain) ∧ LookedUp tap made := by
  rw [releaseSubnet]
  split
  · next plan found =>
      have removes : (Masquerade.remove Uplink.name plan.subnet).Always recording past fun _ now =>
          ∃ made, now = past ++ made ∧ (∀ x ∈ made, x.request.Plain) ∧ LookedUp tap made := by
        -- The lookup is the first call of a removal, so it is made even if it fails.
        rintro reply _ rfl
        have asks := (Masquerade.failStop_remove Uplink.name plan.subnet).asks.mono fun _ =>
          Call.Dropping.plain
        refine (asks.2 reply).always.mono ?_
        rintro _ _ ⟨made, rfl, plain⟩
        refine ⟨_ :: made, List.append_assoc _ _ _, List.forall_mem_cons.2 ⟨trivial, plain⟩, ?_⟩
        intro other same
        obtain rfl : plan = other := Option.some.inj (found.symm.trans same)
        exact ⟨_, List.mem_cons_self, rfl⟩
      exact tolerated removes
  · next missing =>
      refine Always.pure ⟨rfl, [], (List.append_nil past).symm, List.forall_mem_nil _, ?_⟩
      intro plan found
      rw [missing] at found
      cases found

theorem always_delete {made : List Exchange} (sparing : ∀ x ∈ made, x.request.Sparing)
    (lookedUp : LookedUp tap made) (fields : List (String × Log.Value)) :
    (do
      Tap.delete (some link)
      note .info "Sandbox network removed" fields : Program Unit).Always recording
        (⟨.linkByName tap, .ok link⟩ :: made) (Course tap) := by
  rintro reply _ rfl
  cases reply with
  | ok done => exact .resolved (.ok ()) sparing lookedUp
  | error e => exact .resolved (.error e) sparing lookedUp

theorem Ongoing.always_finish (ongoing : Ongoing tap link past)
    (fields : List (String × Log.Value)) :
    (do
      releaseSubnet tap
      Tap.delete (some link)
      note .info "Sandbox network removed" fields : Program Unit).Always recording past
        (Course tap) := by
  obtain ⟨before, rfl, sparing⟩ := ongoing
  apply Always.bind (always_lookUp tap)
  · rintro _ _ ⟨_, made, rfl, plain, lookedUp⟩
    have ready : ∀ x ∈ before ++ made, x.request.Sparing :=
      List.forall_mem_append.2 ⟨sparing, fun x member => (plain x member).sparing⟩
    apply always_delete ready
    intro plan found
    obtain ⟨x, member, asked⟩ := lookedUp plan found
    exact ⟨x, List.mem_append_right before member, asked⟩
  · rintro _ _ ⟨impossible, _⟩
    cases impossible

theorem always_course (notUplink : tap ≠ Uplink.name) :
    (run tap).Always recording [] (Course tap) := by
  rw [run, if_neg notUplink]
  rintro reply _ rfl
  cases reply with
  | error e => exact .unresolved e
  | ok link =>
  have ongoing : Ongoing tap link [⟨.linkByName tap, .ok link⟩] := ⟨[], rfl, List.forall_mem_nil _⟩
  have filters := (Duplex.failStop_deleteFilters link).asks.mono fun _ h => h.traffic.plain
  have qdiscs := (Duplex.failStop_deleteQdiscs link).asks.mono fun _ h => h.traffic.plain
  have released := fun physical => (asks_releasePhysical physical tap).mono fun _ h => h.plain
  refine always_tolerate (ongoing.always filters) ?_
  intro now ongoing
  refine always_tolerate (ongoing.always qdiscs) ?_
  rintro now ongoing reply _ rfl
  have ongoing : Ongoing tap link (now ++ [⟨.linkByName Uplink.name, reply⟩]) :=
    ongoing.append (List.forall_mem_singleton.2 trivial)
  cases reply with
  | error e => exact Always.note_bind (ongoing.always_finish _)
  | ok physical =>
      show (releasePhysical physical tap >>= fun _ => _).Always _ _ _
      apply Always.bind ((always_ok_releasePhysical physical tap).and
        (ongoing.always (released physical)))
      · exact fun _ _ released => released.2.always_finish _
      · rintro _ _ ⟨impossible, _⟩
        cases impossible

/-- An error of a cleanup is the reply to the resolution of its device or to its deletion. -/
theorem Course.reply_of_error {e : Error} {made : List Exchange}
    (course : Course tap (.error e) made) :
    ⟨.linkByName tap, .error e⟩ ∈ made ∨ ∃ link, ⟨.deleteLink link, .error e⟩ ∈ made := by
  cases course with
  | unresolved => exact .inl List.mem_cons_self
  | @resolved link => exact .inr ⟨link, List.mem_append_right _ List.mem_cons_self⟩

theorem resolved_of_failing {schedule : Schedule} {s : Netns}
    (sound : ∀ position, schedule position ≠ some .unresolvedDevice) :
    ((run tap).run (kernel.failing schedule) (0, s)).result ≠ .error .unresolvedDevice := by
  intro ended
  by_cases notUplink : tap = Uplink.name
  · rw [run, if_pos notUplink] at ended
    cases ended
  have course := (always_course notUplink).exchanges (kernel.failing schedule) (0, s)
  rw [ended] at course
  rcases course.reply_of_error with resolution | ⟨link, deletion⟩
  · obtain ⟨t, replied⟩ := reply_of_mem_exchanges resolution
    rcases error_of_failing replied with planned | armed | refused
    · exact sound _ planned
    · cases armed
    · cases linkNotFound_of_linkByName refused
  · obtain ⟨t, replied⟩ := reply_of_mem_exchanges deletion
    rcases error_of_failing replied with planned | armed | refused
    · exact sound _ planned
    · cases armed
    · cases linkNotFound_of_deleteLink refused

theorem Ending.gone {faulty : Prop} {s s' : Netns} (ending : Ending faulty s tap (.ok ()) s') :
    s'.links.get? tap = none := by
  cases ending with
  | deleted => exact NameMap.get?_erase_self _ _

theorem Ending.isNotFound_iff {s s' : Netns} {result : Except Error Unit}
    (ending : Ending False s tap result s') :
    ((∃ e, result = .error e ∧ e.isNotFound = true) ↔ s.links.get? tap = none) ∧
      (s.links.get? tap = none → s' = s) := by
  cases ending with
  | unresolved stopped =>
      obtain ⟨missing, rfl⟩ := stopped.resolve_right id
      exact ⟨iff_of_true ⟨_, rfl, rfl⟩ missing, fun _ => rfl⟩
  | undeleted fails => exact fails.elim
  | deleted held =>
      have present : s.links.get? tap ≠ none := by simp [held]
      exact ⟨iff_of_false (by simp) present, fun missing => absurd missing present⟩

theorem best_effort (schedule : Schedule) (tap : String) {s : Netns} (named : s.Named) :
    let r := (run tap).run (kernel.failing schedule) (0, s)
    (tap = Uplink.name → r.result = .error (.invalidParameter
      ("refusing to clean up physical interface " ++ tap)) ∧ r.exchanges = []) ∧
    (tap ≠ Uplink.name → Course tap r.result r.exchanges) ∧
    (r.result = .ok () → r.state.2.links.get? tap = none) ∧
    ((∀ position, schedule position ≠ some .unresolvedDevice) →
      r.result ≠ .error .unresolvedDevice) ∧
    (tap ≠ Uplink.name → s.Unarmed → let r := (run tap).run kernel s
      ((∃ e, r.result = .error e ∧ e.isNotFound = true) ↔ s.links.get? tap = none) ∧
      (s.links.get? tap = none → r.state = s)) := by
  intro r
  have refused : tap = Uplink.name → r = ⟨.error (.invalidParameter
      ("refusing to clean up physical interface " ++ tap)), (0, s), [], []⟩ := by
    intro uplink
    simp only [r, run, if_pos uplink]
    rfl
  refine ⟨fun uplink => ?_, fun notUplink => ?_, fun ended => ?_, resolved_of_failing, ?_⟩
  · rw [refused uplink]
    exact ⟨rfl, rfl⟩
  · exact (always_course notUplink).exchanges (kernel.failing schedule) (0, s)
  · have notUplink : tap ≠ Uplink.name := by
      intro uplink
      rw [refused uplink] at ended
      cases ended
    have ending : Ending True (s.arm none) tap r.result (r.state.2.arm none) :=
      (always_run (s := s.arm none) named notUplink).run_failing schedule 0
    rw [ended] at ending
    exact ending.gone
  · intro notUplink calm
    have ending : Ending False s tap ((run tap).run kernel s).result ((run tap).run kernel s).state :=
      ((always_run named notUplink).run_unarmed calm).1
    exact ending.isNotFound_iff

theorem best_effort_withEth0 :
    let s := withEth0.insertLink "tap0_urunc" 1500 LinkAddrs.none
    let schedule : Schedule := fun position =>
      if 1 ≤ position ∧ position ≤ 4 then some (.kernelOperation "netlink" "timed out") else none
    let r := (run "tap0_urunc").run (kernel.failing schedule) (0, s)
    s.Named ∧ Course "tap0_urunc" r.result r.exchanges ∧
      (r.result = .ok () ∧ r.state.2.links.get? "tap0_urunc" = none) ∧
      ((∀ position, schedule position ≠ some .unresolvedDevice) ∧
        r.result ≠ .error .unresolvedDevice) ∧
      s.Unarmed ∧
      let r := (run "tap0_urunc").run kernel s
      ((∃ e, r.result = .error e ∧ e.isNotFound = true) ↔ s.links.get? "tap0_urunc" = none) ∧
        (s.links.get? "tap0_urunc" = none → r.state = s) := by
  intro s schedule r
  have named : s.Named := by decide
  have different : "tap0_urunc" ≠ Uplink.name := by decide
  have calm : s.Unarmed := unarmed_of_failNext rfl
  have sound : ∀ position, schedule position ≠ some .unresolvedDevice := by
    intro position
    simp only [schedule]
    split <;> simp
  obtain ⟨_, course, gone, resolved, truthful⟩ := best_effort schedule "tap0_urunc" named
  have done : r.result = .ok () := rfl
  exact ⟨named, course different, ⟨done, gone done⟩, ⟨sound, resolved sound⟩, calm,
    truthful different calm⟩

end SandboxNet.Cleanup
