import Mathlib.Data.List.Induction
import Mathlib.Data.List.Nodup
import SandboxNet.Proofs.Tc.FilterListing

/-! # Which filter a redirect is read for

A redirect belongs to the filter of the nearest header above it. It is read for the filter that was
opened last, and that is another one when the header repeats an earlier priority or gives none that is
valid. The filters read are given here in closed form, and from that when every redirect is read for
the filter that it belongs to.
-/

namespace SandboxNet.Tc.Filter

open Text

variable {parent : Handle} {lined : List (List Char)} {line : List Char} {p : UInt16}

/-- The priority that a line gives, if it is a header and the priority is valid. -/
def headerPriority? (line : List Char) : Option UInt16 :=
  if isHeader line then priorityOf? (tokens line) else none

/-- The device of a redirect that a line shows. -/
def shownTarget? (line : List Char) : Option String :=
  if isHeader line then none else targetOf? line

/-- The priorities that some lines open a filter for, in order. -/
def priorities (lined : List (List Char)) : List UInt16 := (lined.filterMap headerPriority?).eraseDups

/-- The priority of the filter opened last. -/
def openPriority? (lined : List (List Char)) : Option UInt16 := (priorities lined).getLast?

/-- The priority that the last header of some lines gives. -/
def nearestPriority? (lined : List (List Char)) : Option UInt16 :=
  (lined.filter isHeader).getLast?.bind headerPriority?

/-- The devices of the redirects for a priority, in order. The priority of a redirect is a function of
the lines above it. -/
def targets (priority? : List (List Char) → Option UInt16) (p : UInt16) (above : List (List Char)) :
    List (List Char) → List String
  | [] => []
  | line :: below =>
      let own := if priority? above = some p then (shownTarget? line).toList else []
      own ++ targets priority? p (above ++ [line]) below

/-- The devices of the redirects that are read for the filter of a priority. -/
def readTargets (lined : List (List Char)) (p : UInt16) : List String := targets openPriority? p [] lined

/-- The devices of the redirects that are shown for a priority, under a nearest header that gives it. -/
def ownTargets (lined : List (List Char)) (p : UInt16) : List String := targets nearestPriority? p [] lined

/-- Every redirect of some filters was shown for its filter, and a priority that redirects were shown
for has a filter with one of them. -/
structure Attributed (lined : List (List Char)) (fs : List Filter) : Prop where
  own : ∀ f ∈ fs, ∀ target ∈ f.redirectTo, target ∈ ownTargets lined f.priority
  kept : ∀ p, ownTargets lined p ≠ [] →
    ∃ f ∈ fs, f.priority = p ∧ ∃ target ∈ f.redirectTo, target ∈ ownTargets lined p

/-- The protocol in the first header of a priority. -/
def protocolOf (lined : List (List Char)) (p : UInt16) : String :=
  ((lined.find? (headerPriority? · == some p)).bind (valueOf "protocol" <| tokens ·)).getD "all"

/-- The filter that is read for a priority. A later redirect replaces an earlier one. -/
def ofLines (parent : Handle) (lined : List (List Char)) (p : UInt16) : Filter :=
  ⟨parent, p, protocolOf lined p, (readTargets lined p).getLast?⟩

theorem mem_priorities : p ∈ priorities lined ↔ ∃ line ∈ lined, headerPriority? line = some p := by
  rw [priorities, List.mem_eraseDups, List.mem_filterMap]

theorem eraseDups_concat (ps : List UInt16) (p : UInt16) :
    (ps ++ [p]).eraseDups = if p ∈ ps then ps.eraseDups else ps.eraseDups ++ [p] := by
  rw [List.eraseDups_append]
  by_cases known : p ∈ ps
  · have none : [p].removeAll ps = [] := by simp [List.removeAll, known]
    rw [none, if_pos known]
    exact List.append_nil _
  · have same : [p].removeAll ps = [p] := by simp [List.removeAll, known]
    rw [same, if_neg known]
    rfl

/-- A line opens a filter when it gives a priority that no line above gives. -/
theorem priorities_concat (lined : List (List Char)) (line : List Char) :
    priorities (lined ++ [line]) = match headerPriority? line with
      | none => priorities lined
      | some p => if p ∈ priorities lined then priorities lined else priorities lined ++ [p] := by
  rw [priorities, List.filterMap_append, List.filterMap_cons, List.filterMap_nil]
  cases headerPriority? line with
  | none => rw [List.append_nil]; rfl
  | some p => simp only [priorities, List.mem_eraseDups, eraseDups_concat]

theorem nodup_priorities (lined : List (List Char)) : (priorities lined).Nodup := by
  induction lined using List.reverseRecOn with
  | nil => exact List.nodup_nil
  | append_singleton lined line ih =>
      rw [priorities_concat]
      cases headerPriority? line with
      | none => exact ih
      | some p =>
          simp only
          split
          · exact ih
          · next new => exact List.concat_eq_append ▸ ih.concat new

theorem targets_append (priority? : List (List Char) → Option UInt16) (p : UInt16)
    (above lined below : List (List Char)) : targets priority? p above (lined ++ below) =
      targets priority? p above lined ++ targets priority? p (above ++ lined) below := by
  induction lined generalizing above with
  | nil => rw [List.append_nil]; rfl
  | cons line rest ih =>
      rw [List.cons_append, targets, targets, ih, List.append_assoc, List.append_assoc]
      rfl

/-- Where no line gives a priority, there is no redirect for it. -/
theorem targets_eq_nil {priority? : List (List Char) → Option UInt16} {above : List (List Char)}
    (absent : ∀ before, before <+: above ++ lined → priority? before ≠ some p) :
    targets priority? p above lined = [] := by
  induction lined generalizing above with
  | nil => rfl
  | cons line rest ih =>
      have later : targets priority? p (above ++ [line]) rest = [] :=
        ih fun before within => absent before (by simpa using within)
      rw [targets, if_neg (absent above (List.prefix_append _ _)), later]
      rfl

theorem mem_priorities_of_open (isOpen : openPriority? lined = some p) :
    p ∈ priorities lined :=
  List.mem_of_getLast? isOpen

theorem mem_priorities_of_nearest (nearest : nearestPriority? lined = some p) :
    p ∈ priorities lined := by
  obtain ⟨header, last, shows⟩ := Option.bind_eq_some_iff.1 nearest
  exact mem_priorities.2 ⟨header, (List.mem_filter.1 (List.mem_of_getLast? last)).1, shows⟩

/-- Where a priority is not given at all, no redirect is for it. -/
theorem targets_eq_nil_of_absent {priority? : List (List Char) → Option UInt16}
    (given : ∀ {above p}, priority? above = some p → p ∈ priorities above)
    (absent : p ∉ priorities lined) : targets priority? p [] lined = [] := by
  refine targets_eq_nil fun before within shows => absent ?_
  obtain ⟨line, member, gives⟩ := mem_priorities.1 (given shows)
  exact mem_priorities.2 ⟨line, within.subset member, gives⟩

theorem readTargets_concat (lined : List (List Char)) (line : List Char) (p : UInt16) :
    readTargets (lined ++ [line]) p = readTargets lined p ++
      if openPriority? lined = some p then (shownTarget? line).toList else [] := by
  rw [readTargets, targets_append, List.nil_append, targets, targets, List.append_nil]
  rfl

/-- A header changes nothing about the filters that are read already. -/
theorem ofLines_header (header : isHeader line = true) (known : p ∈ priorities lined) :
    ofLines parent (lined ++ [line]) p = ofLines parent lined p := by
  obtain ⟨first, member, shows⟩ := mem_priorities.1 known
  have found : (lined.find? (headerPriority? · == some p)).isSome = true :=
    List.find?_isSome.2 ⟨first, member, beq_iff_eq.2 shows⟩
  have protocol : protocolOf (lined ++ [line]) p = protocolOf lined p := by
    rw [protocolOf, List.find?_append, Option.or_of_isSome found, protocolOf]
  have targets : readTargets (lined ++ [line]) p = readTargets lined p := by
    rw [readTargets_concat, shownTarget?, if_pos header]
    exact (congrArg _ (ite_self [])).trans (List.append_nil _)
  rw [ofLines, ofLines, protocol, targets]

/-- The filter that a header opens. -/
theorem ofLines_opened (shows : headerPriority? line = some p) (new : p ∉ priorities lined) :
    ofLines parent (lined ++ [line]) p =
      ⟨parent, p, (valueOf "protocol" (tokens line)).getD "all", none⟩ := by
  have unfound : lined.find? (headerPriority? · == some p) = none :=
    List.find?_eq_none.2 fun other member gives =>
      new (mem_priorities.2 ⟨other, member, beq_iff_eq.1 gives⟩)
  have protocol : protocolOf (lined ++ [line]) p = (valueOf "protocol" (tokens line)).getD "all" := by
    have found : [line].find? (headerPriority? · == some p) = some line :=
      List.find?_cons_of_pos (by simp [shows])
    rw [protocolOf, List.find?_append, unfound, Option.none_or, found, Option.bind_some]
  have targets : readTargets (lined ++ [line]) p = [] := by
    have closed : openPriority? lined ≠ some p := mt mem_priorities_of_open new
    rw [readTargets_concat, if_neg closed, List.append_nil]
    exact targets_eq_nil_of_absent mem_priorities_of_open new
  rw [ofLines, protocol, targets]
  rfl

/-- A body line counts for the filter that is open. -/
theorem ofLines_body (body : isHeader line = false) : ofLines parent (lined ++ [line]) p =
    if openPriority? lined = some p then
      { ofLines parent lined p with redirectTo := (targetOf? line).or (ofLines parent lined p).redirectTo }
    else ofLines parent lined p := by
  have gives : headerPriority? line = none := if_neg (by simp [body])
  have protocol : protocolOf (lined ++ [line]) p = protocolOf lined p := by
    rw [protocolOf, List.find?_append, List.find?_cons_of_neg (by simp [gives]), List.find?_nil,
      Option.or_none, protocolOf]
  have shows : shownTarget? line = targetOf? line := if_neg (by simp [body])
  rw [ofLines, protocol, readTargets_concat, shows]
  split
  · rw [List.getLast?_append, ofLines]
    cases targetOf? line <;> rfl
  · rw [List.append_nil, ofLines]

theorem map_ofLines_body (parent : Handle) (body : isHeader line = false) :
    ((priorities lined).map (ofLines parent (lined ++ [line]))).reverse =
      ((priorities lined).map (ofLines parent lined)).reverse.modifyHead fun f =>
        { f with redirectTo := (targetOf? line).or f.redirectTo } := by
  rcases List.eq_nil_or_concat (priorities lined) with none | ⟨earlier, p, opened⟩
  · rw [none]
    rfl
  · rw [List.concat_eq_append] at opened
    have isOpen : openPriority? lined = some p := by
      rw [openPriority?, opened, List.getLast?_concat]
    have distinct : ∀ q ∈ earlier, q ≠ p := by
      intro q member same
      have nodup := opened ▸ nodup_priorities lined
      exact (List.nodup_append.1 nodup).2.2 q member p List.mem_cons_self same
    have closed : earlier.map (ofLines parent (lined ++ [line])) = earlier.map (ofLines parent lined) := by
      refine List.map_congr_left fun q member => ?_
      rw [ofLines_body body, isOpen, if_neg]
      exact fun same => distinct q member (Option.some.inj same).symm
    rw [opened, List.map_append, closed, List.map_singleton, ofLines_body body, if_pos isOpen]
    simp

/-- The filters read, latest first, after all of some lines. -/
theorem foldl_readLine (parent : Handle) (lined : List (List Char)) :
    lined.foldl (readLine parent) [] = ((priorities lined).map (ofLines parent lined)).reverse := by
  induction lined using List.reverseRecOn with
  | nil => rfl
  | append_singleton lined line ih =>
      rw [List.foldl_append, ih, List.foldl_cons, List.foldl_nil]
      cases header : isHeader line with
      | true =>
          have old : (priorities lined).map (ofLines parent (lined ++ [line])) =
              (priorities lined).map (ofLines parent lined) :=
            List.map_congr_left fun p known => ofLines_header header known
          have gives : headerPriority? line = priorityOf? (tokens line) := if_pos header
          have known : ∀ p, ((priorities lined).map (ofLines parent lined)).reverse.any
              (·.priority == p) = true ↔ p ∈ priorities lined := by
            simp [ofLines]
          rw [readLine_header header, priorities_concat, gives]
          cases shows : priorityOf? (tokens line) with
          | none => rw [old]
          | some p =>
              simp only [known]
              split
              · rw [old]
              · next new =>
                  rw [List.map_append, old, List.map_singleton, List.reverse_append,
                    ofLines_opened (gives.trans shows) new]
                  rfl
      | false =>
          have gives : headerPriority? line = none := if_neg (by simp [header])
          rw [readLine_body header, priorities_concat, gives]
          simp only [map_ofLines_body parent header]
          cases targetOf? line with
          | none => exact (congrFun List.modifyHead_id _).symm
          | some target => rfl

theorem ofListing_eq (parent : Handle) (text : List Char) :
    ofListing parent text = (priorities (lines text)).map (ofLines parent (lines text)) := by
  rw [ofListing, foldl_readLine, List.reverse_reverse]

theorem mem_ofListing {f : Filter} {text : List Char} : f ∈ ofListing parent text ↔
    ∃ p ∈ priorities (lines text), ofLines parent (lines text) p = f := by
  rw [ofListing_eq, List.mem_map]

theorem redirects_attributed_iff (parent : Handle) (text : List Char) :
    let lined := lines text
    ofListing parent text = (priorities lined).map (ofLines parent lined) ∧
      (Attributed lined (ofListing parent text) ↔ ∀ p ∈ priorities lined,
        (∀ target ∈ (readTargets lined p).getLast?, target ∈ ownTargets lined p) ∧
          (readTargets lined p = [] → ownTargets lined p = [])) := by
  intro lined
  refine ⟨ofListing_eq parent text, ?_, ?_⟩
  · intro attributed p known
    have listed : ofLines parent lined p ∈ ofListing parent text := mem_ofListing.2 ⟨p, known, rfl⟩
    refine ⟨attributed.own _ listed, fun unread => ?_⟩
    by_contra owned
    obtain ⟨f, member, same, target, shown, -⟩ := attributed.kept p owned
    obtain ⟨q, -, rfl⟩ := mem_ofListing.1 member
    rw [ofLines, show q = p from same, unread] at shown
    cases shown
  · intro right
    constructor
    · intro f member target shown
      obtain ⟨p, known, rfl⟩ := mem_ofListing.1 member
      exact (right p known).1 target shown
    · intro p owned
      have known : p ∈ priorities lined :=
        by_contra fun absent => owned (targets_eq_nil_of_absent mem_priorities_of_nearest absent)
      have some : readTargets lined p ≠ [] := mt (right p known).2 owned
      have last := List.getLast?_eq_some_getLast some
      exact ⟨_, mem_ofListing.2 ⟨p, known, rfl⟩, rfl, _, last, (right p known).1 _ last⟩

/-- A header of a second chain repeats the priority of an earlier filter. The redirect below it is read
for the filter in between, in place of its own. -/
theorem chains_misattributed :
    let tap0 : List Char := "\taction order 1: mirred (Egress Redirect to device tap0_urunc) stolen".toList
    let tap1 : List Char := "\taction order 1: mirred (Egress Redirect to device tap1_urunc) stolen".toList
    let text := ended [
      "filter protocol all pref 1 u32 chain 0".toList, tap0,
      "filter protocol all pref 2 u32 chain 0".toList, tap1,
      "filter protocol all pref 1 u32 chain 1".toList, tap0]
    let lined := lines text
    ofListing Handle.ingress text = [⟨Handle.ingress, 1, "all", some "tap0_urunc"⟩,
        ⟨Handle.ingress, 2, "all", some "tap0_urunc"⟩] ∧
      ownTargets lined 2 = ["tap1_urunc"] ∧ ¬ Attributed lined (ofListing Handle.ingress text) := by
  intro tap0 tap1 text lined
  have read : ofListing Handle.ingress text = [⟨Handle.ingress, 1, "all", some "tap0_urunc"⟩,
      ⟨Handle.ingress, 2, "all", some "tap0_urunc"⟩] := by
    rfl
  have owned : ownTargets lined 2 = ["tap1_urunc"] := by
    rfl
  refine ⟨read, owned, fun attributed => ?_⟩
  have wrong : "tap0_urunc" ∈ ownTargets lined 2 :=
    attributed.own ⟨Handle.ingress, 2, "all", some "tap0_urunc"⟩ (by simp [read]) "tap0_urunc" rfl
  rw [owned] at wrong
  simp at wrong

end SandboxNet.Tc.Filter
