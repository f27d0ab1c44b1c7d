import SandboxNet.Netns.Sweep

/-! # What a sweep leaves

A sweep takes away exactly the queueing disciplines that hang, directly or further down, below the
majors it starts from, and keeps the order of the others. One that hangs off the link itself is
never among them.
-/

namespace SandboxNet.Tc.Qdisc

variable {majors rest : List UInt16} {major m : UInt16} {qdiscs : List Qdisc} {p q : Qdisc}

/-- The least set of majors with the given ones, and with that of each queueing discipline that
hangs below one of the set. -/
inductive Reached (majors : List UInt16) (qdiscs : List Qdisc) : UInt16 → Prop where
  | given {major : UInt16} (member : major ∈ majors) : Reached majors qdiscs major
  | hanging {q : Qdisc} (member : q ∈ qdiscs) (lower : q.isTopLevel = false)
      (parent : Reached majors qdiscs q.parent.major) : Reached majors qdiscs q.handle.major

/-- Whether a queueing discipline hangs below one of the given majors, directly or further down. -/
def Swept (q : Qdisc) (majors : List UInt16) (qdiscs : List Qdisc) : Prop :=
  q.isTopLevel = false ∧ Reached majors qdiscs q.parent.major

theorem reached_mono {others : List UInt16} {more : List Qdisc} (roots : majors ⊆ others)
    (subset : qdiscs ⊆ more) (reached : Reached majors qdiscs m) : Reached others more m := by
  induction reached with
  | given member => exact .given (roots member)
  | hanging member lower _ ih => exact .hanging (subset member) lower ih

/-- What is reached does not depend on any order. -/
theorem reached_iff_of_perm {more : List UInt16} {listed : List Qdisc} (roots : majors.Perm more)
    (perm : qdiscs.Perm listed) : Reached majors qdiscs m ↔ Reached more listed m :=
  ⟨reached_mono roots.subset perm.subset, reached_mono roots.symm.subset perm.symm.subset⟩

theorem hangsBelow_iff :
    q.hangsBelow major = true ↔ q.isTopLevel = false ∧ q.parent.major = major := by
  simp [hangsBelow]

/-- One visit of the sweep: its major is done with, and the majors below it are on the list. -/
theorem reached_cons : Reached (major :: rest) qdiscs m ↔ m = major ∨
    Reached ((below major qdiscs).map (·.handle.major) ++ rest) (clearOf major qdiscs) m := by
  constructor
  · intro reached
    induction reached with
    | given member =>
        exact (List.mem_cons.1 member).imp_right fun later => .given (List.mem_append_right _ later)
    | @hanging q member lower _ ih =>
        right
        by_cases hangs : q.hangsBelow major = true
        · apply Reached.given
          exact List.mem_append_left _ (List.mem_map_of_mem (List.mem_filter.2 ⟨member, hangs⟩))
        · have clear : q ∈ clearOf major qdiscs := List.mem_filter.2 ⟨member, by simpa using hangs⟩
          apply Reached.hanging clear lower
          exact ih.resolve_left fun same => hangs (hangsBelow_iff.2 ⟨lower, same⟩)
  · have visited : Reached (major :: rest) qdiscs major := .given List.mem_cons_self
    rintro (rfl | reached)
    · exact visited
    induction reached with
    | given member =>
        rcases List.mem_append.1 member with below | later
        · obtain ⟨q, hanging, rfl⟩ := List.mem_map.1 below
          obtain ⟨member, hangs⟩ := List.mem_filter.1 hanging
          obtain ⟨lower, parent⟩ := hangsBelow_iff.1 hangs
          exact .hanging member lower (parent ▸ visited)
        · exact .given (List.mem_cons_of_mem _ later)
    | hanging clear lower _ ih => exact .hanging (List.mem_filter.1 clear).1 lower ih

theorem not_reached_nil : ¬ Reached [] qdiscs m := by
  intro reached
  induction reached with
  | given member => cases member
  | hanging _ _ _ ih => exact ih

theorem swept_cons : q.Swept (major :: rest) qdiscs ↔ q.hangsBelow major = true ∨
    q.Swept ((below major qdiscs).map (·.handle.major) ++ rest) (clearOf major qdiscs) := by
  rw [Swept, reached_cons, and_or_left, ← hangsBelow_iff]
  rfl

open Classical in
theorem sweep_eq_filter (majors : List UInt16) (qdiscs : List Qdisc) :
    sweep majors qdiscs = qdiscs.filter fun q => ¬ q.Swept majors qdiscs := by
  fun_induction sweep majors qdiscs with
  | case1 qdiscs =>
      symm
      apply List.filter_eq_self.2
      intro q _
      exact decide_eq_true fun swept => not_reached_nil swept.2
  | case2 major rest qdiscs ih =>
      rw [ih]
      show List.filter _ (qdiscs.filter _) = _
      rw [List.filter_filter]
      apply List.filter_congr
      intro q _
      simp [swept_cons, Bool.and_comm]

theorem mem_sweep : q ∈ sweep majors qdiscs ↔ q ∈ qdiscs ∧ ¬ q.Swept majors qdiscs := by
  classical
  rw [sweep_eq_filter, List.mem_filter, decide_eq_true_eq]

theorem sweep_sublist (majors : List UInt16) (qdiscs : List Qdisc) :
    (sweep majors qdiscs).Sublist qdiscs := by
  classical
  rw [sweep_eq_filter]
  exact List.filter_sublist

theorem mem_sweep_of_isTopLevel (member : q ∈ qdiscs) (top : q.isTopLevel = true) :
    q ∈ sweep majors qdiscs := by
  refine mem_sweep.2 ⟨member, fun swept => ?_⟩
  rw [swept.1] at top
  cases top

theorem hangsBelow_of_mem_sweep (left : q ∈ sweep majors qdiscs) :
    ∀ major ∈ majors, q.hangsBelow major = false := by
  intro major member
  apply Bool.eq_false_iff.2
  intro hangs
  obtain ⟨lower, rfl⟩ := hangsBelow_iff.1 hangs
  exact (mem_sweep.1 left).2 ⟨lower, .given member⟩

theorem sweep_eq_self (clear : ∀ q ∈ qdiscs, ∀ major ∈ majors, q.hangsBelow major = false) :
    sweep majors qdiscs = qdiscs := by
  have stuck : ∀ m, Reached majors qdiscs m → m ∈ majors := by
    intro m reached
    induction reached with
    | given member => exact member
    | @hanging q member lower _ ih =>
        have hangs := clear q member _ ih
        rw [hangsBelow_iff.2 ⟨lower, rfl⟩] at hangs
        cases hangs
  classical
  rw [sweep_eq_filter]
  apply List.filter_eq_self.2
  intro q member
  apply decide_eq_true
  rintro ⟨lower, reached⟩
  have hangs := clear q member _ (stuck _ reached)
  rw [hangsBelow_iff.2 ⟨lower, rfl⟩] at hangs
  cases hangs

/-- Whether the root of a sweep is on the list makes no difference to what is below it. -/
theorem reached_filter_ne : Reached [q.handle.major] (qdiscs.filter (· ≠ q)) m ↔
    Reached [q.handle.major] qdiscs m := by
  constructor
  · intro reached
    induction reached with
    | given member => exact .given member
    | hanging member lower _ ih => exact .hanging (List.mem_filter.1 member).1 lower ih
  · intro reached
    induction reached with
    | given member => exact .given member
    | @hanging p member lower _ ih =>
        by_cases root : p = q
        · exact .given (root ▸ List.mem_cons_self)
        · exact .hanging (List.mem_filter.2 ⟨member, decide_eq_true root⟩) lower ih

theorem swept_filter_ne : p.Swept [q.handle.major] (qdiscs.filter (· ≠ q)) ↔
    p.Swept [q.handle.major] qdiscs := by
  rw [Swept, Swept, reached_filter_ne]

end SandboxNet.Tc.Qdisc
