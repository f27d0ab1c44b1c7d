import SandboxNet.Tc.FilterListing
import SandboxNet.Proofs.Text.Number
import SandboxNet.Proofs.Text.Search

/-! # Listings of filters read back

Each filter has a block of lines: headers that repeat its protocol and priority, one line that shows
its redirect, if it has one, and lines that show nothing. Blocks of filters with different priorities
are read as those filters, in their order.
-/

namespace SandboxNet.Tc.Filter

open Text

variable {f : Filter} {fs read : List Filter} {parent : Handle} {target : Option String}
  {line more text : List Char} {lined : List (List Char)}

/-- Whether a line is a header. -/
def isHeader (line : List Char) : Bool := (tokens line).head? == some "filter"

theorem readLine_header (header : isHeader line = true) : readLine parent read line =
    match priorityOf? (tokens line) with
    | none => read
    | some priority =>
        if read.any (·.priority == priority) then read
        else ⟨parent, priority, (valueOf "protocol" (tokens line)).getD "all", none⟩ :: read :=
  if_pos (beq_iff_eq.1 header)

theorem readLine_body (body : isHeader line = false) : readLine parent read line =
    match targetOf? line with
    | none => read
    | some target => read.modifyHead fun f => { f with redirectTo := some target } :=
  if_neg (by simpa [isHeader] using body)

theorem targetOf?_append_return (line : List Char) : targetOf? (line ++ ['\r']) = targetOf? line := by
  have stops : ∀ rest : List Char, (rest ++ ['\r']).takeWhile (fun c => c ≠ ')' && !isBlank c) =
      rest.takeWhile fun c => c ≠ ')' && !isBlank c := by
    intro rest
    induction rest with
    | nil => rfl
    | cons c rest ih => rw [List.cons_append, List.takeWhile_cons, List.takeWhile_cons, ih]
  rw [targetOf?, targetOf?, after?_append_singleton (by decide) (by decide), Option.map_map]
  exact congrArg (Option.map · _) (funext fun rest => congrArg String.ofList (stops rest))

/-- A carriage return at the end of a line makes no difference. -/
theorem readLine_append_return (parent : Handle) (read : List Filter) (line : List Char) :
    readLine parent read (line ++ ['\r']) = readLine parent read line := by
  simp only [readLine, tokens_append_return, targetOf?_append_return]

/-- How a header of a filter starts. -/
def headerText (f : Filter) : String :=
  "filter protocol " ++ f.protocol ++ " pref " ++ digits 10 f.priority.toNat

/-- What can be read back of a filter's protocol and target. -/
structure Printable (f : Filter) : Prop where
  protocol : IsWord f.protocol.toList
  notPref : f.protocol ≠ "pref"
  target : ∀ target ∈ f.redirectTo, ∀ c ∈ target.toList, c ≠ ')' ∧ isBlank c = false

/-- A line that shows nothing. -/
structure Silent (line : List Char) : Prop where
  body : isHeader line = false
  quiet : ¬ redirectPhrase <:+: line

/-- A line that shows a redirect to `target`. -/
structure ShowsRedirect (target : String) (line : List Char) : Prop where
  body : isHeader line = false
  names : ∃ more, FirstAfter redirectPhrase line (target.toList ++ ')' :: more)

/-- The lines of a filter's block after its first header: more headers, silent lines, and one line
for the redirect that is still to be shown. -/
inductive Body (f : Filter) : Option String → List (List Char) → Prop where
  | nil : Body f none []
  | header {target : Option String} {more : List Char} {lined : List (List Char)} (apart : Apart more)
      (later : Body f target lined) : Body f target ((f.headerText.toList ++ more) :: lined)
  | silent {target : Option String} {line : List Char} {lined : List (List Char)} (h : Silent line)
      (later : Body f target lined) : Body f target (line :: lined)
  | redirect {target : String} {line : List Char} {lined : List (List Char)}
      (h : ShowsRedirect target line) (later : Body f none lined) : Body f (some target) (line :: lined)

/-- The lines of a filter. -/
inductive Block (f : Filter) : List (List Char) → Prop where
  | silent {line : List Char} {lined : List (List Char)} (h : Silent line) (later : Block f lined) :
      Block f (line :: lined)
  | header {more : List Char} {lined : List (List Char)} (apart : Apart more)
      (body : Body f f.redirectTo lined) : Block f ((f.headerText.toList ++ more) :: lined)

/-- The lines of some filters, block after block. -/
inductive Listed : List Filter → List (List Char) → Prop where
  | nil : Listed [] []
  | block {f : Filter} {block : List (List Char)} {fs : List Filter} {lined : List (List Char)}
      (h : Block f block) (later : Listed fs lined) : Listed (f :: fs) (block ++ lined)

theorem tokens_header (protocol : IsWord f.protocol.toList) (apart : Apart more) :
    tokens (f.headerText.toList ++ more) =
      "filter" :: "protocol" :: f.protocol :: "pref" :: digits 10 f.priority.toNat :: tokens more := by
  have spaced : f.headerText.toList ++ more = "filter".toList ++ ' ' :: ("protocol".toList ++
      ' ' :: (f.protocol.toList ++ ' ' :: ("pref".toList ++
        ' ' :: ((digits 10 f.priority.toNat).toList ++ more)))) := by
    unfold headerText
    generalize digits 10 f.priority.toNat = number
    simp
  rw [spaced, tokens_append_space (by decide), tokens_append_space (by decide),
    tokens_append_space protocol, tokens_append_space (by decide),
    tokens_append (isWord_digits (by decide) (by decide) _) apart]

theorem readLine_headerText (printable : f.Printable) (apart : Apart more) :
    readLine f.parent read (f.headerText.toList ++ more) =
      if read.any (·.priority == f.priority) then read else { f with redirectTo := none } :: read := by
  have words := tokens_header printable.protocol apart
  have header : isHeader (f.headerText.toList ++ more) = true := by
    rw [isHeader, words]
    rfl
  have protocol : valueOf "protocol" (tokens (f.headerText.toList ++ more)) = some f.protocol := by
    rw [words]
    rfl
  have pref : valueOf "pref" (tokens (f.headerText.toList ++ more)) =
      some (digits 10 f.priority.toNat) := by
    rw [words]
    simp [valueOf, printable.notPref]
  have number : unsigned? 10 0x10000 (digits 10 f.priority.toNat).toList = some f.priority.toNat :=
    unsigned?_digits (by decide) (by decide) f.priority.toNat_lt
  have priority : priorityOf? (tokens (f.headerText.toList ++ more)) = some f.priority := by
    rw [priorityOf?, pref, Option.bind_some, number, Option.map_some, UInt16.ofNat_toNat]
  rw [readLine_header header, priority, protocol]
  rfl

theorem readLine_silent (silent : Silent line) : readLine parent read line = read := by
  have none : after? redirectPhrase line = none := by
    cases found : after? redirectPhrase line with
    | none => rfl
    | some rest => exact absurd (contains_iff.1 (by rw [contains, found]; rfl)) silent.quiet
  rw [readLine_body silent.body, targetOf?, none]
  rfl

theorem readLine_redirect {target : String} (shows : ShowsRedirect target line)
    (printable : ∀ c ∈ target.toList, c ≠ ')' ∧ isBlank c = false) :
    readLine parent (f :: read) line = { f with redirectTo := some target } :: read := by
  obtain ⟨more, first⟩ := shows.names
  have all : ∀ c ∈ target.toList, (c ≠ ')' && !isBlank c) = true := by
    intro c member
    simp [printable c member]
  have named : targetOf? line = some target := by
    rw [targetOf?, after?_eq_some_iff.2 first, Option.map_some, List.takeWhile_append_of_pos all,
      List.takeWhile_cons_of_neg (by simp), List.append_nil, String.ofList_toList]
  rw [readLine_body shows.body, named]
  rfl

/-- The rest of a block adds the redirect to the filter that the block is of. -/
theorem foldl_body (body : Body f target lined) (printable : f.Printable)
    (names : ∀ t ∈ target, ∀ c ∈ t.toList, c ≠ ')' ∧ isBlank c = false) (shown : Option String) :
    lined.foldl (readLine f.parent) ({ f with redirectTo := shown } :: read) =
      { f with redirectTo := target.or shown } :: read := by
  induction body generalizing shown with
  | nil => rfl
  | header apart _ ih =>
      have known : ({ f with redirectTo := shown } :: read).any (·.priority == f.priority) = true := by
        simp
      rw [List.foldl_cons, readLine_headerText printable apart, if_pos known, ih names]
  | silent silent _ ih => rw [List.foldl_cons, readLine_silent silent, ih names]
  | @redirect target _ _ shows _ ih =>
      rw [List.foldl_cons, readLine_redirect shows (names target rfl)]
      exact ih (fun _ member => by cases member) (some target)

theorem foldl_block (block : Block f lined) (printable : f.Printable)
    (fresh : ∀ g ∈ read, g.priority ≠ f.priority) :
    lined.foldl (readLine f.parent) read = f :: read := by
  induction block with
  | silent silent _ ih => rw [List.foldl_cons, readLine_silent silent, ih]
  | header apart body =>
      have unknown : ¬ read.any (·.priority == f.priority) = true := by simpa using fresh
      rw [List.foldl_cons, readLine_headerText printable apart, if_neg unknown,
        foldl_body body printable printable.target, Option.or_none]

theorem foldl_listed (read : List Filter) (listed : Listed fs lined)
    (parents : ∀ f ∈ fs, f.parent = parent) (printable : ∀ f ∈ fs, f.Printable)
    (distinct : ((read.reverse ++ fs).map (·.priority)).Nodup) :
    lined.foldl (readLine parent) read = fs.reverse ++ read := by
  induction listed generalizing read with
  | nil => rfl
  | @block f block fs lined h _ ih =>
      have fresh : ∀ g ∈ read, g.priority ≠ f.priority := by
        intro g member
        rw [List.map_append] at distinct
        refine (List.nodup_append.1 distinct).2.2 _ ?_ _ (List.mem_map_of_mem List.mem_cons_self)
        exact List.mem_map_of_mem (List.mem_reverse.2 member)
      have own := foldl_block h (printable f List.mem_cons_self) fresh
      rw [parents f List.mem_cons_self] at own
      rw [List.foldl_append, own, ih (f :: read) (fun g member => parents g (List.mem_cons_of_mem f member))
        (fun g member => printable g (List.mem_cons_of_mem f member)) (by simpa using distinct)]
      simp

theorem ofListing_filterBlocks (parents : ∀ f ∈ fs, f.parent = parent)
    (printable : ∀ f ∈ fs, f.Printable) (distinct : (fs.map (·.priority)).Nodup)
    (listed : Listed fs lined) (written : Lined lined text) : ofListing parent text = fs := by
  rw [ofListing, foldl_lines (readLine_append_return parent) written,
    foldl_listed [] listed parents printable distinct]
  simp

/-- Two filters: a redirect with its hash table and key node, and one of another owner that shows no
redirect. -/
theorem ofListing_filterBlocks_two :
    let first : Filter := Filter.redirect "tap0_urunc"
    let second : Filter := ⟨Handle.ingress, 49152, "ip", none⟩
    let lined : List (List Char) := [
      first.headerText.toList ++ " u32 chain 0".toList,
      first.headerText.toList ++ " u32 chain 0 fh 800: ht divisor 1".toList,
      "  match 00000000/00000000 at 0".toList,
      "\taction order 1: mirred (Egress Redirect to device tap0_urunc) stolen\r".toList,
      " \tindex 1 ref 1 bind 1".toList, second.headerText.toList ++ [], []]
    let text := ended lined
    (∀ f ∈ [first, second], f.parent = Handle.ingress) ∧ (∀ f ∈ [first, second], f.Printable) ∧
      ([first, second].map (·.priority)).Nodup ∧ Listed [first, second] lined ∧
      Lined lined text ∧ ofListing Handle.ingress text = [first, second] := by
  intro first second lined text
  have parents : ∀ f ∈ [first, second], f.parent = Handle.ingress := by decide
  have names : ∀ c ∈ "tap0_urunc".toList, c ≠ ')' ∧ isBlank c = false := by
    have all : "tap0_urunc".toList.all (fun c => c != ')' && !isBlank c) = true := by decide
    intro c member
    simpa using List.all_eq_true.1 all c member
  have printable : ∀ f ∈ [first, second], f.Printable := by
    intro f member
    simp only [List.mem_cons, List.not_mem_nil, or_false] at member
    rcases member with rfl | rfl
    · exact ⟨by decide, by decide, fun target shown => Option.some.inj shown ▸ names⟩
    · exact ⟨by decide, by decide, fun target shown => by cases shown⟩
  have distinct : ([first, second].map (·.priority)).Nodup := by decide
  have silent : ∀ line : List Char, isHeader line = false → contains redirectPhrase line = false →
      Silent line := fun line body quiet => ⟨body, fun occurs => by simp [contains_iff.2 occurs] at quiet⟩
  have redirect : ShowsRedirect "tap0_urunc"
      "\taction order 1: mirred (Egress Redirect to device tap0_urunc) stolen\r".toList :=
    ⟨by decide, _, after?_eq_some_iff.1 rfl⟩
  have listed : Listed [first, second] lined := by
    have one : Block first (lined.take 5) := by
      refine .header (by decide) (.header (by decide) (.silent (silent _ (by decide) (by decide)) ?_))
      exact .redirect redirect (.silent (silent _ (by decide) (by decide)) .nil)
    have two : Block second (lined.drop 5) :=
      .header (by decide) (.silent (silent _ (by decide) (by decide)) .nil)
    exact .block one (.block two .nil)
  have written : Lined lined text := lined_ended (by decide)
  exact ⟨parents, printable, distinct, listed, written,
    ofListing_filterBlocks parents printable distinct listed written⟩

end SandboxNet.Tc.Filter
