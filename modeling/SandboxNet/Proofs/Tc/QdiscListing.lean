import SandboxNet.Tc.QdiscListing
import SandboxNet.Proofs.Tc.Handle

/-! # Listings of queueing disciplines read back

Each queueing discipline has a line of its own, and the lines between them show none. A listing of
such lines is read as the queueing disciplines that it shows, in its order.
-/

namespace SandboxNet.Tc.Qdisc

open Text

variable {q : Qdisc} {qs : List Qdisc} {line rest text : List Char} {lined : List (List Char)}

/-- How a parent is shown after a handle. -/
def parentText (q : Qdisc) : String :=
  if q.parent = Handle.root then "root" else "parent " ++ q.parent.text

/-- How the line of a queueing discipline starts. -/
def lineText (q : Qdisc) : String :=
  "qdisc " ++ q.kind ++ " " ++ q.handle.text ++ " " ++ q.parentText

/-- A line that shows no queueing discipline. -/
inductive Noise (line : List Char) : Prop where
  /-- It is blank, or its first word is another one. -/
  | other (h : (tokens line).head? ≠ some "qdisc")
  /-- It ends before the handle. -/
  | short (h : (tokens line).length < 3)
  /-- There is no handle in the place of the handle. -/
  | handle {kind word : String} {more : List String}
      (shown : tokens line = "qdisc" :: kind :: word :: more) (h : Handle.ofText? word = none)
  /-- What follows the handle gives no parent. -/
  | orphan {kind word : String} {more : List String}
      (shown : tokens line = "qdisc" :: kind :: word :: more)
      (h : more.head? ≠ some "root" ∧ more.head? ≠ some "parent")
  /-- There is no handle in the place of the parent. -/
  | parent {kind word : String} {more : List String}
      (shown : tokens line = "qdisc" :: kind :: word :: "parent" :: more)
      (h : ∀ word ∈ more.head?, Handle.ofText? word = none)

/-- The lines of a listing: one for each queueing discipline, with free text after it, and noise
between them. -/
inductive Listed : List Qdisc → List (List Char) → Prop where
  | nil : Listed [] []
  | qdisc {q : Qdisc} {rest : List Char} {qs : List Qdisc} {lined : List (List Char)}
      (kind : IsWord q.kind.toList) (apart : Apart rest) (later : Listed qs lined) :
      Listed (q :: qs) ((q.lineText.toList ++ rest) :: lined)
  | noise {line : List Char} {qs : List Qdisc} {lined : List (List Char)}
      (h : Noise line) (later : Listed qs lined) : Listed qs (line :: lined)

/-- The words of a parent, and those of the text after it. -/
theorem parent?_tokens (q : Qdisc) (apart : Apart rest) :
    parent? (tokens (q.parentText.toList ++ rest)) = some q.parent := by
  rw [parentText]
  split
  · next isRoot =>
      rw [tokens_append (by decide) apart, parent?, if_pos rfl, isRoot]
  · next notRoot =>
      have spaced : ("parent " ++ q.parent.text).toList ++ rest =
          "parent".toList ++ ' ' :: (q.parent.text.toList ++ rest) := by
        rw [String.toList_append, List.append_assoc]
        rfl
      rw [spaced, tokens_append_space (by decide), tokens_append q.parent.isWord_text apart, parent?,
        if_neg (by decide), if_pos rfl, List.head?_cons, Option.bind_some, Handle.ofText?_text]

theorem ofWords?_line (kind : IsWord q.kind.toList) (apart : Apart rest) :
    ofWords? (tokens (q.lineText.toList ++ rest)) = some q := by
  have spaced : q.lineText.toList ++ rest = "qdisc".toList ++ ' ' :: (q.kind.toList ++
      ' ' :: (q.handle.text.toList ++ ' ' :: (q.parentText.toList ++ rest))) := by
    simp [lineText]
  rw [spaced, tokens_append_space (by decide), tokens_append_space kind,
    tokens_append_space q.handle.isWord_text, ofWords?, if_pos rfl]
  simp only [Handle.ofText?_text, parent?_tokens q apart]
  rfl

theorem ofWords?_noise (noise : Noise line) : ofWords? (tokens line) = none := by
  cases noise with
  | other h =>
      rw [ofWords?.eq_def]
      split
      · next word _ _ _ shown =>
          have different : word ≠ "qdisc" := by
            rintro rfl
            exact h (by rw [shown, List.head?_cons])
          rw [if_neg different]
      · rfl
  | short h =>
      rw [ofWords?.eq_def]
      split
      · next shown =>
          rw [shown] at h
          simp only [List.length_cons] at h
          omega
      · rfl
  | handle shown h =>
      rw [shown, ofWords?, if_pos rfl, h]
      rfl
  | @orphan kind word more shown h =>
      have none : parent? more = none := by
        cases more with
        | nil => rfl
        | cons word more => rw [parent?, if_neg (by simpa using h.1), if_neg (by simpa using h.2)]
      rw [shown, ofWords?, if_pos rfl, none]
      cases Handle.ofText? word <;> rfl
  | @parent kind word more shown h =>
      have none : parent? ("parent" :: more) = none := by
        rw [parent?, if_neg (by decide), if_pos rfl]
        cases more with
        | nil => rfl
        | cons word more => exact h word rfl
      rw [shown, ofWords?, if_pos rfl, none]
      cases Handle.ofText? word <;> rfl

theorem filterMap_listed (listed : Listed qs lined) :
    (lined.map tokens).filterMap ofWords? = qs := by
  induction listed with
  | nil => rfl
  | qdisc kind apart _ ih =>
      rw [List.map_cons, List.filterMap_cons_some (ofWords?_line kind apart), ih]
  | noise noise _ ih => rw [List.map_cons, List.filterMap_cons_none (ofWords?_noise noise), ih]

theorem ofListing_qdiscLines (listed : Listed qs lined) (written : Lined lined text) :
    ofListing text = qs := by
  have read : (lines text).map tokens = lined.map tokens := map_lines tokens_append_return written
  calc ofListing text
      = ((lines text).map tokens).filterMap ofWords? := by rw [List.filterMap_map]; rfl
    _ = (lined.map tokens).filterMap ofWords? := by rw [read]
    _ = qs := filterMap_listed listed

/-- A listing with statistics, an empty line and lines that are cut short or do not give a handle. -/
theorem ofListing_qdiscLines_mixed :
    let mq : Qdisc := ⟨"mq", Handle.unspecified, Handle.root⟩
    let codel : Qdisc := ⟨"fq_codel", Handle.unspecified, ⟨0, 1⟩⟩
    let lined : List (List Char) := [
      mq.lineText.toList ++ " ".toList, " Sent 0 bytes 0 pkt".toList, [],
      codel.lineText.toList ++ " limit 10240p\r".toList, "qdisc htb".toList,
      "qdisc htb 1g: root refcnt 2".toList, "qdisc htb 1: refcnt 2".toList,
      "qdisc sfq 10: parent 1:10000".toList,
      Qdisc.ingress.lineText.toList ++ " ----------------".toList]
    let text := ended lined
    Listed [mq, codel, Qdisc.ingress] lined ∧ Lined lined text ∧
      ofListing text = [mq, codel, Qdisc.ingress] := by
  intro mq codel lined text
  have listed : Listed [mq, codel, Qdisc.ingress] lined := by
    refine .qdisc (by decide) (by decide) ?_
    refine .noise (.other (by decide)) (.noise (.other (by decide)) ?_)
    refine .qdisc (by decide) (by decide) ?_
    refine .noise (.short (by decide)) (.noise (.handle rfl (by decide)) ?_)
    refine .noise (.orphan rfl (by decide)) (.noise (.parent rfl (by decide)) ?_)
    exact .qdisc (by decide) (by decide) .nil
  have written : Lined lined text := lined_ended (by decide)
  exact ⟨listed, written, ofListing_qdiscLines listed written⟩

end SandboxNet.Tc.Qdisc
