import SandboxNet.Proofs.Netns.Steps
import SandboxNet.Proofs.Sandbox.Session
import SandboxNet.Proofs.Sandbox.SetupCalls
import SandboxNet.Proofs.Uplink

/-! # Sandboxes that are there already

The scheme of the fixed subnet refuses a namespace that has its device, and the other scheme one that
has any TAP device. A refused setup touches nothing, so that a run of dynamic setups and cleanups
never has more than one device.
-/

namespace SandboxNet

open Program Netns Call

variable {faulty : Prop} {s s' : Netns} {name : String}

namespace Netns

/-- The names of the TAP devices of a namespace. -/
def taps (s : Netns) : List String :=
  s.links.names.filter fun name => tapStem.toList.isPrefixOf name.toList

theorem count_eq_length_taps (s : Netns) : TapIndex.count s.links.names = s.taps.length :=
  List.countP_eq_length_filter

theorem mem_taps_iff : name ∈ s.taps ↔
    s.links.contains name = true ∧ tapStem.toList.isPrefixOf name.toList = true := by
  rw [taps, List.mem_filter, NameMap.mem_names_iff, NameMap.contains_eq_true]

/-- Names are different, so where all those of devices are the same, there is one at most. -/
theorem length_taps_le_one (same : ∀ a ∈ s.taps, ∀ b ∈ s.taps, a = b) : s.taps.length ≤ 1 := by
  have sorted : s.taps.Pairwise (· < ·) := (List.pairwise_map.2 s.links.sorted).filter _
  generalize s.taps = names at same sorted
  match names with
  | [] => exact Nat.zero_le 1
  | [_] => exact Nat.le_refl 1
  | a :: b :: rest =>
      have before : a < b := List.rel_of_pairwise_cons sorted List.mem_cons_self
      have equal : a = b := same a List.mem_cons_self b (List.mem_cons_of_mem a List.mem_cons_self)
      exact absurd (equal ▸ before) (String.lt_irrefl b)

theorem eq_of_mem_taps (few : s.taps.length ≤ 1) {a b : String} (first : a ∈ s.taps)
    (second : b ∈ s.taps) : a = b := by
  match names : s.taps with
  | [] =>
      rw [names] at first
      cases first
  | [_] =>
      rw [names] at first second
      rw [List.mem_singleton.1 first, List.mem_singleton.1 second]
  | _ :: _ :: rest =>
      rw [names] at few
      simp at few

end Netns

/-- A namespace in which a setup of a scheme would meet another sandbox. -/
def Scheme.Occupied (s : Netns) : Scheme → Prop
  | .static => s.links.contains "tap0_urunc" = true
  | .dynamic => s.taps ≠ []

namespace Strategy

variable {uid gid : UInt32}

theorem states_of_reading {α : Type} {p : Program α} {schedule : Schedule} {t : Nat × Netns}
    (reads : p.Asks Reading) : ∀ u ∈ p.states (kernel.failing schedule) t, u.2 = t.2 :=
  states_of_asks reads
    (fun _ u reads unchanged => (netns_of_reading schedule u reads).trans unchanged) rfl

/-- A program that does nothing without a device whose name is taken comes to nothing. -/
theorem always_of_cautious {α : Type} {p : Program α} (cautious : p.Cautious name fun _ => False)
    (taken : s.links.contains name = true) : p.Always (Answers faulty) s fun result s' =>
      s' = s ∧ ∃ e, result = .error e := by
  induction p with
  | done result =>
      cases result with
      | ok value => exact absurd cautious id
      | error e => exact ⟨rfl, e, rfl⟩
  | log event next ih => exact ih cautious
  | call request next ih =>
      intro reply s' answered
      rcases cautious with ⟨reads, later⟩ | ⟨spec, rfl, named, later⟩
      · cases answered with
        | carried h =>
            obtain rfl := eq_of_perform reads h
            exact ih _ (later _)
        | refused | failed => exact ih _ (later _)
      · cases answered with
        | carried h =>
            obtain ⟨free, _⟩ := addTap_ok h
            rw [named, taken] at free
            cases free
        | refused | failed => exact ih _ (later _)

/-- A setup that would meet another sandbox is refused before it touches anything. -/
theorem always_refused (strategy : Strategy) (occupied : strategy.scheme.Occupied s) :
    (strategy.setup uid gid).Always (Answers faulty) s fun result s' =>
      s' = s ∧ ∃ e, result = .error e := by
  obtain ⟨scheme, queues⟩ := strategy
  cases scheme with
  | static => exact always_of_cautious (cautious_setup ⟨.static, queues⟩) occupied
  | dynamic =>
      apply Always.bind Uplink.always_require
      · rintro _ _ ⟨rfl, _, _⟩
        apply Always.bind TapIndex.always_next
        · rintro index _ ⟨rfl, counted, _⟩
          have taken : 0 < index := by
            rw [counted index rfl, count_eq_length_taps]
            exact List.length_pos_iff.2 occupied
          rw [if_pos taken]
          exact Always.fail ⟨rfl, _, rfl⟩
        · rintro e _ ⟨rfl, _, _⟩
          exact ⟨rfl, e, rfl⟩
      · rintro e _ ⟨rfl, _, _⟩
        exact ⟨rfl, e, rfl⟩

/-- A dynamic setup that would meet another device only reads. -/
theorem states_refused {schedule : Schedule} {queues : UInt32} {t : Nat × Netns}
    (occupied : t.2.taps ≠ []) :
    ∀ u ∈ (setup ⟨.dynamic, queues⟩ uid gid).states (kernel.failing schedule) t, u.2 = t.2 := by
  intro u member
  rcases mem_states_bind member with looking | ⟨_, _, member⟩
  · exact states_of_reading Uplink.failStop_require.asks u looking
  have required : (Uplink.require.run (kernel.failing schedule) t).state.2 = t.2 :=
    states_of_reading Uplink.failStop_require.asks _ (state_mem_states _)
  generalize (Uplink.require.run (kernel.failing schedule) t).state = t₁ at member required
  rw [← required] at occupied ⊢
  rcases mem_states_bind member with counting | ⟨index, counted, member⟩
  · exact states_of_reading TapIndex.failStop_next.asks u counting
  have index_eq : index = t₁.2.taps.length := by
    have always : TapIndex.next.Always (Answers True) (t₁.2.arm none) _ := TapIndex.always_next
    obtain ⟨_, counts, _⟩ := always.run_failing schedule t₁.1
    rw [counts index counted]
    exact count_eq_length_taps t₁.2
  rw [if_pos (index_eq ▸ List.length_pos_iff.2 occupied)] at member
  rw [List.mem_singleton.1 member]
  exact states_of_reading TapIndex.failStop_next.asks _ (state_mem_states _)

end Strategy

namespace Netns

variable {schedule : Schedule} {t : Nat × Netns}

/-- A call brings no device but the one it creates. -/
theorem mem_taps_of_answer {request : Call}
    (member : name ∈ ((kernel.failing schedule).answer request t).2.2.taps) :
    name ∈ t.2.taps ∨ ∃ spec, request = .addTap spec ∧ spec.name = name := by
  rcases step_or_failed_of_schedule schedule request t with step | ⟨failure, failed⟩
  · obtain ⟨present, isTap⟩ := mem_taps_iff.1 member
    exact (contains_before_step step present).imp_left fun held => mem_taps_iff.2 ⟨held, isTap⟩
  · rw [failed] at member
    exact .inl member

/-- In a namespace without devices a setup creates the fixed one or none. -/
theorem taps_of_creating {α : Type} {p : Program α}
    (creates : p.Asks (Creating AddressPlan.fixed.tapName)) (none : t.2.taps = []) :
    ∀ u ∈ p.states (kernel.failing schedule) t, u.2.taps.length ≤ 1 := by
  have only : ∀ u ∈ p.states (kernel.failing schedule) t,
      ∀ name ∈ u.2.taps, name = AddressPlan.fixed.tapName := by
    refine states_of_asks creates ?_ (by rw [none]; nofun)
    intro request u creating only name member
    rcases mem_taps_of_answer member with held | ⟨spec, rfl, named⟩
    · exact only name held
    · rcases creating with plain | ⟨_, same, fixed⟩
      · exact absurd plain id
      · cases same
        exact named.symm.trans fixed
  intro u member
  apply length_taps_le_one
  intro a first b second
  rw [only u member a first, only u member b second]

theorem taps_of_deleting {α : Type} {p : Program α} (deletes : p.Asks Deleting)
    (few : t.2.taps.length ≤ 1) :
    ∀ u ∈ p.states (kernel.failing schedule) t, u.2.taps.length ≤ 1 := by
  refine states_of_asks deletes ?_ few
  intro request u deleting few
  have kept : ∀ name ∈ ((kernel.failing schedule).answer request u).2.2.taps, name ∈ u.2.taps := by
    intro name member
    rcases mem_taps_of_answer member with held | ⟨spec, rfl, _⟩
    · exact held
    · rcases deleting with plain | ⟨_, other⟩
      · exact absurd plain id
      · cases other
  apply length_taps_le_one
  intro a first b second
  exact eq_of_mem_taps few (kept a first) (kept b second)

end Netns

namespace Operation

/-- Whether an operation is a dynamic setup or a cleanup. -/
def isTurnover : Operation → Bool
  | setup strategy _ _ => strategy.scheme = .dynamic
  | cleanup _ => true
  | _ => false

theorem taps_of_turnover {schedule : Schedule} {operation : Operation} {t : Nat × Netns}
    (turnover : operation.isTurnover = true) (few : t.2.taps.length ≤ 1) :
    ∀ u ∈ operation.program.states (kernel.failing schedule) t, u.2.taps.length ≤ 1 := by
  cases operation with
  | setup strategy uid gid =>
      obtain ⟨scheme, queues⟩ := strategy
      obtain rfl : scheme = .dynamic := of_decide_eq_true turnover
      by_cases none : t.2.taps = []
      · exact taps_of_creating (Strategy.asks_setup ⟨.dynamic, queues⟩ uid gid) none
      · intro u member
        rw [Strategy.states_refused none u member]
        exact few
  | cleanup tap => exact taps_of_deleting (Cleanup.asks_run tap) few
  | _ => cases turnover

theorem one_sandbox (schedule : Schedule) (s : Netns) :
    (∀ (strategy : Strategy) (uid gid : UInt32), strategy.scheme.Occupied s →
      let r := (strategy.setup uid gid).run (kernel.failing schedule) (0, s)
      (∃ e, r.result = .error e) ∧ r.state.2 = { s with failNext := r.state.2.failNext }) ∧
    (s.taps = [] → ∀ operations : List Operation, (∀ operation ∈ operations, operation.isTurnover) →
      ∀ t ∈ (session operations).states (kernel.failing schedule) (0, s), t.2.taps.length ≤ 1) := by
  constructor
  · intro strategy uid gid occupied r
    have always : (strategy.setup uid gid).Always (Answers True) (s.arm none) fun result s' =>
      s' = s.arm none ∧ ∃ e, result = .error e := strategy.always_refused occupied
    obtain ⟨unchanged, refused⟩ := always.run_failing schedule 0
    exact ⟨refused, congrArg (fun left => left.arm r.state.2.failNext) unchanged⟩
  · intro none operations turnover
    exact states_session (I := fun t : Nat × Netns => t.2.taps.length ≤ 1)
      (fun operation member _ few => taps_of_turnover (turnover operation member) few) (by simp [none])

theorem one_sandbox_withEth0 :
    let schedule : Schedule := fun position =>
      if position = 7 then some (.kernelOperation "add_address" "operation not permitted") else none
    let refusals : List (Strategy × Netns) := [
      (⟨.static, 1⟩, withEth0.insertLink "tap0_urunc" 1500 LinkAddrs.none),
      (⟨.dynamic, 1⟩, withEth0.insertLink "tap5" 1500 LinkAddrs.none)]
    let operations : List Operation := [.setup ⟨.dynamic, 1⟩ 1000 1000, .setup ⟨.dynamic, 2⟩ 0 0,
      .cleanup "tap0_urunc", .setup ⟨.dynamic, 1⟩ 0 0]
    (∀ x ∈ refusals, x.1.scheme.Occupied x.2 ∧
      let r := (x.1.setup 1000 1000).run (kernel.failing schedule) (0, x.2)
      (∃ e, r.result = .error e) ∧ r.state.2 = { x.2 with failNext := r.state.2.failNext }) ∧
    (withEth0.taps = [] ∧ (∀ operation ∈ operations, operation.isTurnover) ∧
      ∀ t ∈ (session operations).states (kernel.failing schedule) (0, withEth0),
        t.2.taps.length ≤ 1) := by
  intro schedule refusals operations
  have occupied : ∀ x ∈ refusals, x.1.scheme.Occupied x.2 := by
    have fixed : (withEth0.insertLink "tap0_urunc" 1500 LinkAddrs.none).links.contains "tap0_urunc" =
        true := by decide
    have foreign : (withEth0.insertLink "tap5" 1500 LinkAddrs.none).taps ≠ [] := by decide
    simpa [refusals, Scheme.Occupied] using And.intro fixed foreign
  have turnover : ∀ operation ∈ operations, operation.isTurnover := by decide
  have none : withEth0.taps = [] := by decide
  refine ⟨fun x member => ⟨occupied x member, ?_⟩, none, turnover, ?_⟩
  · exact (one_sandbox schedule x.2).1 x.1 1000 1000 (occupied x member)
  · exact (one_sandbox schedule withEth0).2 none operations turnover

end Operation

end SandboxNet
