import SandboxNet.Tc.Qdisc

/-! # What goes with a queueing discipline

A deleted queueing discipline takes along those that hang below it, and those below them in turn.
The sweep keeps a list of major numbers still to visit; a visit removes what hangs below one of them
and puts the majors removed in front of the rest. Parents may form cycles, and majors may be shared.
-/

namespace SandboxNet.Tc.Qdisc

/-- Those of a list that hang below a major number. -/
def below (major : UInt16) (qdiscs : List Qdisc) : List Qdisc :=
  qdiscs.filter (·.hangsBelow major)

/-- Those of a list that do not hang below a major number. -/
def clearOf (major : UInt16) (qdiscs : List Qdisc) : List Qdisc :=
  qdiscs.filter (!·.hangsBelow major)

theorem clearOf_eq_self {major : UInt16} {qdiscs : List Qdisc} (h : below major qdiscs = []) :
    clearOf major qdiscs = qdiscs := by
  refine List.filter_eq_self.2 fun q member => ?_
  simpa using List.filter_eq_nil_iff.1 h q member

theorem length_clearOf_lt {major : UInt16} {qdiscs : List Qdisc} (h : below major qdiscs ≠ []) :
    (clearOf major qdiscs).length < qdiscs.length := by
  obtain ⟨q, removed⟩ := List.exists_mem_of_ne_nil _ h
  obtain ⟨member, hangs⟩ := List.mem_filter.1 removed
  exact List.length_filter_lt_length_iff_exists.2 ⟨q, member, by simpa using hangs⟩

/-- Removes from a list what hangs below any of the given majors, directly or further down. -/
def sweep : List UInt16 → List Qdisc → List Qdisc
  | [], qdiscs => qdiscs
  | major :: rest, qdiscs =>
      sweep ((below major qdiscs).map (·.handle.major) ++ rest) (clearOf major qdiscs)
termination_by majors qdiscs => (qdiscs.length, majors.length)
decreasing_by
  by_cases h : below major qdiscs = []
  · simpa [h, clearOf_eq_self h] using Prod.Lex.right _ (Nat.lt_succ_self _)
  · exact Prod.Lex.left _ _ (length_clearOf_lt h)

end SandboxNet.Tc.Qdisc
