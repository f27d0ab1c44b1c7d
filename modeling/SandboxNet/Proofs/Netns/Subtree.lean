import Mathlib.Data.List.Basic
import Mathlib.Order.Bounds.Defs
import SandboxNet.Proofs.Netns.Answers
import SandboxNet.Proofs.Netns.Calls
import SandboxNet.Proofs.Netns.Record

/-! # A queueing discipline deleted with its subtree

The sweep behind a deletion works through a list of majors. Its visits may come in any order: every
run of them ends, with one visit for the deleted queueing discipline and one for each that goes with
it, and all runs leave the same list. What goes is said by the least set of majors that has the
deleted one and, with the major above a queueing discipline below a class, its own.
-/

namespace SandboxNet

open Tc

namespace Tc.Qdisc

variable {n : Nat} {majors more : List UInt16} {qdiscs : List Qdisc}

/-- A set of majors with the given ones and, with the major above a queueing discipline that hangs
off a class, its own. -/
structure Closed (majors : List UInt16) (qdiscs : List Qdisc) (M : Set UInt16) : Prop where
  given : ∀ major ∈ majors, major ∈ M
  hanging : ∀ p ∈ qdiscs, p.isTopLevel = false → p.parent.major ∈ M → p.handle.major ∈ M

theorem isLeast_reached (majors : List UInt16) (qdiscs : List Qdisc) :
    IsLeast {M | Closed majors qdiscs M} {m | Reached majors qdiscs m} := by
  constructor
  · exact ⟨fun _ member => .given member, fun _ member lower parent => .hanging member lower parent⟩
  · intro M closed m reached
    induction reached with
    | given member => exact closed.given _ member
    | hanging member lower _ ih => exact closed.hanging _ member lower ih

theorem sweep_of_perm (perm : majors.Perm more) : sweep majors qdiscs = sweep more qdiscs := by
  classical
  rw [sweep_eq_filter, sweep_eq_filter]
  apply List.filter_congr
  intro p _
  rw [decide_eq_decide, Swept, Swept, reached_iff_of_perm perm (.refl _)]

/-- A sweep under way: the majors it has still to visit, and what it has left of the list. -/
structure Sweeping where
  pending : List UInt16
  left : List Qdisc

namespace Sweeping

/-- The list that a sweep under way comes to. -/
def outcome (v : Sweeping) : List Qdisc := sweep v.pending v.left

/-- How many visits a sweep under way has before it: one for each major that is pending, and one for
each queueing discipline that is still to go. -/
def visits (v : Sweeping) : Nat := v.pending.length + (v.left.length - v.outcome.length)

end Sweeping

/-- One visit. It takes any of the pending majors, and removes what hangs below it; the majors
removed wait with the others, in any order. -/
inductive Visit : Sweeping → Sweeping → Prop where
  | visit {pending rest later : List UInt16} {major : UInt16} {left : List Qdisc}
      (taken : pending.Perm (major :: rest))
      (waiting : later.Perm ((below major left).map (·.handle.major) ++ rest)) :
      Visit ⟨pending, left⟩ ⟨later, clearOf major left⟩

/-- A number of visits, one after the other. -/
inductive Visits : Nat → Sweeping → Sweeping → Prop where
  | none {v : Sweeping} : Visits 0 v v
  | next {n : Nat} {v w x : Sweeping} (first : Visit v w) (later : Visits n w x) :
      Visits (n + 1) v x

variable {v w : Sweeping}

/-- A visit is possible as long as a major is pending. -/
theorem exists_visit_iff : (∃ later, Visit v later) ↔ v.pending ≠ [] := by
  obtain ⟨pending, left⟩ := v
  constructor
  · intro ⟨later, visit⟩ empty
    cases visit with
    | visit taken _ =>
        rw [show pending = [] from empty] at taken
        cases taken.nil_eq
  · intro waiting
    obtain ⟨major, rest, rfl⟩ := List.exists_cons_of_ne_nil waiting
    exact ⟨_, .visit (.refl _) (.refl _)⟩

namespace Visit

/-- A visit takes one major off the list, and puts one on it for each queueing discipline it
removes. -/
theorem length (visit : Visit v w) :
    w.pending.length + w.left.length + 1 = v.pending.length + v.left.length := by
  cases visit with
  | @visit pending rest later major left taken waiting =>
      have split : left.length = (below major left).length + (clearOf major left).length :=
        List.length_eq_length_filter_add _
      have before := taken.length_eq
      have after := waiting.length_eq
      simp only [List.length_cons, List.length_append, List.length_map] at before after ⊢
      omega

/-- A visit does not change what the sweep comes to: the order of the pending majors is free, so it
is the visit that the sweep itself makes first. -/
theorem outcome (visit : Visit v w) : w.outcome = v.outcome := by
  cases visit with
  | @visit pending rest later major left taken waiting =>
      calc sweep later (clearOf major left)
          = sweep ((below major left).map (·.handle.major) ++ rest) (clearOf major left) :=
            sweep_of_perm waiting
        _ = sweep (major :: rest) left := by rw [sweep]
        _ = sweep pending left := sweep_of_perm taken.symm

end Visit

namespace Visits

theorem length (run : Visits n v w) :
    n + w.pending.length + w.left.length = v.pending.length + v.left.length := by
  induction run with
  | none => omega
  | next first _ ih =>
      have step := first.length
      omega

theorem outcome (run : Visits n v w) : w.outcome = v.outcome := by
  induction run with
  | none => rfl
  | next first _ ih => exact ih.trans first.outcome

/-- However its visits are ordered, a sweep makes no more than the number before it, can go on until
it has made them, and then has come to its outcome. -/
theorem ends (run : Visits n v w) :
    n ≤ v.visits ∧ ((∃ later, Visit w later) ↔ n < v.visits) ∧
      (n = v.visits → w = ⟨[], v.outcome⟩) := by
  obtain ⟨pending, left⟩ := w
  have length := run.length
  have outcome := run.outcome
  have shorter : v.outcome.length ≤ left.length := by
    rw [← outcome]
    exact (sweep_sublist pending left).length_le
  have shortest : v.outcome.length ≤ v.left.length := (sweep_sublist _ _).length_le
  -- with no major pending, what is left is what the sweep comes to
  have emptied : pending = [] → left = v.outcome := by
    intro empty
    rw [← outcome, Sweeping.outcome, empty, sweep]
  simp only [exists_visit_iff, Sweeping.visits] at length ⊢
  refine ⟨by omega, ⟨?_, ?_⟩, ?_⟩
  · intro waiting
    have pos := List.length_pos_iff.2 waiting
    omega
  · intro short empty
    rw [empty, emptied empty] at length
    simp only [List.length_nil] at length
    omega
  · intro all
    have empty : pending = [] := List.length_eq_zero_iff.1 (by omega)
    rw [empty, emptied empty]

end Visits

theorem visits_sweep (majors : List UInt16) (qdiscs : List Qdisc) :
    ∃ n, Visits n ⟨majors, qdiscs⟩ ⟨[], sweep majors qdiscs⟩ := by
  fun_induction sweep majors qdiscs with
  | case1 qdiscs => exact ⟨0, .none⟩
  | case2 major rest qdiscs ih =>
      obtain ⟨n, later⟩ := ih
      exact ⟨n + 1, .next (.visit (.refl _) (.refl _)) later⟩

theorem visits_outcome (v : Sweeping) : Visits v.visits v ⟨[], v.outcome⟩ := by
  obtain ⟨n, run⟩ := visits_sweep v.pending v.left
  obtain ⟨bound, further, -⟩ := run.ends
  -- a run that is short of its visits could go on, but no major is pending after this one
  have spent : ¬ n < v.visits := by
    intro short
    exact exists_visit_iff.1 (further.2 short) rfl
  obtain rfl : n = v.visits := Nat.le_antisymm bound (Nat.not_lt.1 spent)
  exact run

/-- Below the given major hangs a cycle, whose handles repeat; what hangs below itself alone stays. -/
example :
    let v : Sweeping := ⟨[1], [⟨"prio", ⟨0x10, 0⟩, ⟨1, 1⟩⟩, ⟨"sfq", ⟨0x30, 0⟩, ⟨0x30, 1⟩⟩,
      ⟨"sfq", ⟨0x20, 0⟩, ⟨0x10, 1⟩⟩, ⟨"prio", ⟨0x10, 0⟩, ⟨0x20, 1⟩⟩, ingress]⟩
    v.outcome = [⟨"sfq", ⟨0x30, 0⟩, ⟨0x30, 1⟩⟩, ingress] ∧ v.visits = 4 := by
  cbv

end Tc.Qdisc

namespace LinkRecord

variable {r : LinkRecord} {q : Qdisc}

open Classical in
/-- What a deletion leaves, said through the queueing disciplines beside the deleted one. -/
theorem sweep_others (listed : q ∈ r.qdiscs) :
    Qdisc.sweep [q.handle.major] (r.qdiscs.filter (· ≠ q)) =
      r.qdiscs.filter fun p => p ≠ q ∧ (p.isTopLevel = true ∨
        ¬ Qdisc.Reached [q.handle.major] (r.qdiscs.filter (· ≠ q)) p.parent.major) := by
  apply (qdiscs_of_delQdisc (delQdisc_of_mem listed)).trans
  apply List.filter_congr
  intro p _
  rw [decide_eq_decide, ← Qdisc.swept_filter_ne, Qdisc.Swept, not_and_or, Bool.not_eq_false]

end LinkRecord

namespace Netns

open LinkRecord

variable {s : Netns} {link : Link} {r : LinkRecord} {q : Qdisc}

open Classical in
/-- A deletion removes exactly the subtree of a queueing discipline, and the loop behind it ends there
in whatever order it makes its visits. -/
theorem subtree_deleted (calm : s.isArmedFor (.delQdisc link q) = false)
    (found : s.record? link = some r) (listed : q ∈ r.qdiscs) :
    let others := r.qdiscs.filter (· ≠ q)
    let start : Qdisc.Sweeping := ⟨[q.handle.major], others⟩
    ∃ M : Set UInt16, IsLeast {N | Qdisc.Closed [q.handle.major] others N} M ∧
      let left := r.qdiscs.filter fun p => p ≠ q ∧ (p.isTopLevel = true ∨ p.parent.major ∉ M)
      let visits := 1 + (others.length - left.length)
      kernel.answer (.delQdisc link q) s = (.ok (), s.put link.name { r with
        qdiscs := left
        filters := if q.isIngress then r.filters.filter (·.parent ≠ Handle.ingress)
          else r.filters }) ∧
      Qdisc.Visits visits start ⟨[], left⟩ ∧
      ∀ n w, Qdisc.Visits n start w →
        n ≤ visits ∧ ((∃ later, Qdisc.Visit w later) ↔ n < visits) ∧
          (n = visits → w = ⟨[], left⟩) := by
  intro others start
  refine ⟨_, Qdisc.isLeast_reached [q.handle.major] others, ?_⟩
  intro left visits
  have outcome : start.outcome = left := sweep_others listed
  have total : start.visits = visits := by
    rw [Qdisc.Sweeping.visits, outcome]
    rfl
  refine ⟨?_, ?_, ?_⟩
  · apply answer_of_perform calm
    rw [perform_delQdisc found, delQdisc_of_mem listed, ← outcome]
    rfl
  · rw [← outcome, ← total]
    exact Qdisc.visits_outcome start
  · intro n w run
    rw [← outcome, ← total]
    exact run.ends

open Classical in
/-- A deleted root is listed twice. Below it hang a cycle with a repeated handle and a leaf of a
shared major; beside it stand an ingress point and a leaf that hangs below itself. -/
theorem subtree_deleted_cyclic :
    let htb : Qdisc := ⟨"htb", ⟨1, 0⟩, Handle.root⟩
    let e : LinkRecord := ⟨⟨2, "eth0", 1500⟩, true, none, LinkAddrs.none, [],
      [⟨"sfq", ⟨0x20, 0⟩, ⟨0x10, 1⟩⟩, htb, ⟨"prio", ⟨0x10, 0⟩, ⟨1, 1⟩⟩,
        ⟨"sfq", ⟨0x30, 0⟩, ⟨0x30, 1⟩⟩, ⟨"prio", ⟨0x10, 0⟩, ⟨0x20, 1⟩⟩, htb,
        ⟨"sfq", ⟨0x10, 5⟩, ⟨1, 2⟩⟩, Qdisc.ingress],
      [Filter.redirect "tap0_urunc"]⟩
    let s := withEth0.put "eth0" e
    let others := e.qdiscs.filter (· ≠ htb)
    let start : Qdisc.Sweeping := ⟨[htb.handle.major], others⟩
    s.isArmedFor (.delQdisc e.link htb) = false ∧ s.record? e.link = some e ∧ htb ∈ e.qdiscs ∧
      ∃ M : Set UInt16, IsLeast {N | Qdisc.Closed [htb.handle.major] others N} M ∧
        let left := e.qdiscs.filter fun p => p ≠ htb ∧ (p.isTopLevel = true ∨ p.parent.major ∉ M)
        let visits := 1 + (others.length - left.length)
        kernel.answer (.delQdisc e.link htb) s = (.ok (), s.put e.link.name { e with
          qdiscs := left
          filters := if htb.isIngress then e.filters.filter (·.parent ≠ Handle.ingress)
            else e.filters }) ∧
        Qdisc.Visits visits start ⟨[], left⟩ ∧
        ∀ n w, Qdisc.Visits n start w →
          n ≤ visits ∧ ((∃ later, Qdisc.Visit w later) ↔ n < visits) ∧
            (n = visits → w = ⟨[], left⟩) := by
  intro htb e s others start
  have calm : s.isArmedFor (.delQdisc e.link htb) = false := rfl
  have found : s.record? e.link = some e := by rfl
  have listed : htb ∈ e.qdiscs := by decide
  exact ⟨calm, found, listed, subtree_deleted calm found listed⟩

end Netns

end SandboxNet
