import SandboxNet.Text.Lines

/-! # Reading what was written in lines

A text that was written line by line falls into those lines again, up to a carriage return at the end
of a line. Readers that look at the words of a line do not see that one.
-/

namespace SandboxNet.Text

variable {α : Type} {c : Char} {cs line text : List Char} {lined : List (List Char)}

/-- A text in lines: each ends with a newline, and the last one may go without it. -/
inductive Lined : List (List Char) → List Char → Prop where
  | nil : Lined [] []
  | unended {line : List Char} (nonempty : line ≠ []) (whole : '\n' ∉ line) : Lined [line] line
  | line {line text : List Char} {lined : List (List Char)} (whole : '\n' ∉ line)
      (later : Lined lined text) : Lined (line :: lined) (line ++ '\n' :: text)

/-- Lines that all end with a newline, one after the other. -/
def ended (lined : List (List Char)) : List Char := lined.flatMap (· ++ ['\n'])

theorem lined_ended (whole : ∀ line ∈ lined, '\n' ∉ line) : Lined lined (ended lined) := by
  induction lined with
  | nil => exact .nil
  | cons line rest ih =>
      have later : Lined rest (ended rest) := ih fun line member => whole line (List.mem_cons_of_mem _ member)
      have joined : ended (line :: rest) = line ++ '\n' :: ended rest := by
        simp [ended]
      exact joined ▸ .line (whole line List.mem_cons_self) later

theorem lines_cons_of_ne (notNewline : c ≠ '\n') (notEnd : c = '\r' → cs.head? ≠ some '\n') :
    lines (c :: cs) = consHead c (lines cs) := by
  rw [lines.eq_def]
  split
  · next h => cases h
  · next h =>
      cases h
      exact absurd rfl notNewline
  · next h =>
      cases h
      exact absurd rfl (notEnd rfl)
  · next h =>
      cases h
      rfl

theorem lines_of_unended (nonempty : line ≠ []) (whole : '\n' ∉ line) : lines line = [line] := by
  induction line with
  | nil => exact absurd rfl nonempty
  | cons c rest ih =>
      obtain ⟨notNewline, whole⟩ := not_or.1 (mt List.mem_cons.2 whole)
      rw [lines_cons_of_ne (Ne.symm notNewline)]
      · cases rest with
        | nil => rfl
        | cons d rest =>
            rw [ih (List.cons_ne_nil d rest) whole]
            rfl
      · intro _ next
        exact whole (List.mem_of_mem_head? next)

/-- A line is read back without the carriage return that it may end with. -/
theorem lines_append_newline (text : List Char) (whole : '\n' ∉ line) :
    ∃ kept, (line = kept ∨ line = kept ++ ['\r']) ∧ lines (line ++ '\n' :: text) = kept :: lines text := by
  induction line with
  | nil => exact ⟨[], .inl rfl, rfl⟩
  | cons c rest ih =>
      obtain ⟨notNewline, whole⟩ := not_or.1 (mt List.mem_cons.2 whole)
      by_cases last : c = '\r' ∧ rest = []
      · obtain ⟨rfl, rfl⟩ := last
        exact ⟨[], .inr rfl, rfl⟩
      · obtain ⟨kept, same, read⟩ := ih whole
        refine ⟨c :: kept, same.imp (congrArg (c :: ·)) (congrArg (c :: ·)), ?_⟩
        have notEnd : c = '\r' → (rest ++ '\n' :: text).head? ≠ some '\n' := by
          intro isReturn next
          cases rest with
          | nil => exact last ⟨isReturn, rfl⟩
          | cons d rest => exact whole (List.mem_of_mem_head? next)
        rw [List.cons_append, lines_cons_of_ne (Ne.symm notNewline) notEnd, read]
        rfl

/-- A reader of single lines that passes over a carriage return at the end reads what was written. -/
theorem map_lines {f : List Char → α} (same : ∀ line, f (line ++ ['\r']) = f line)
    (written : Lined lined text) : (lines text).map f = lined.map f := by
  induction written with
  | nil => rfl
  | unended nonempty whole => rw [lines_of_unended nonempty whole]
  | @line line text lined whole _ ih =>
      obtain ⟨kept, origin, read⟩ := lines_append_newline text whole
      have shown : f line = f kept := by
        rcases origin with rfl | rfl
        · rfl
        · exact same kept
      rw [read, List.map_cons, List.map_cons, ih, shown]

theorem foldl_lines {step : α → List Char → α}
    (same : ∀ value line, step value (line ++ ['\r']) = step value line)
    (written : Lined lined text) (start : α) :
    (lines text).foldl step start = lined.foldl step start := by
  have read : (lines text).map (fun line value => step value line) =
      lined.map fun line value => step value line :=
    map_lines (fun line => funext fun value => same value line) written
  calc (lines text).foldl step start
      = ((lines text).map fun line value => step value line).foldl (fun value f => f value) start := by
        rw [List.foldl_map]
    _ = (lined.map fun line value => step value line).foldl (fun value f => f value) start := by
        rw [read]
    _ = lined.foldl step start := by rw [List.foldl_map]

/-- One word: characters that are not blank. -/
def IsWord (w : List Char) : Prop := w ≠ [] ∧ ∀ c ∈ w, isBlank c = false

-- the search for an instance may take one that goes through all characters
instance (w : List Char) : Decidable (IsWord w) :=
  @instDecidableAnd _ _ _ (List.decidableBAll (fun c => isBlank c = false) w)

/-- Whether a word ends before a text. -/
def Apart (cs : List Char) : Prop := ∀ c ∈ cs.head?, isBlank c = true

instance (cs : List Char) : Decidable (Apart cs) :=
  Option.decidableForallMem (p := fun c => isBlank c = true) cs.head?

theorem words_cons_blank (blank : isBlank c = true) : words (c :: cs) = words cs := by
  rw [words.eq_def]
  exact if_pos blank

theorem words_cons_cons (c d : Char) (cs : List Char) : words (c :: d :: cs) =
    if isBlank c then words (d :: cs)
    else if isBlank d then [c] :: words (d :: cs) else consHead c (words (d :: cs)) := by
  rw [words.eq_def]

theorem words_append {w : List Char} (isWord : IsWord w) (apart : Apart cs) :
    words (w ++ cs) = w :: words cs := by
  obtain ⟨nonempty, visible⟩ := isWord
  induction w with
  | nil => exact absurd rfl nonempty
  | cons c rest ih =>
      have shown : ¬ isBlank c = true := by simp [visible c List.mem_cons_self]
      cases rest with
      | nil =>
          cases cs with
          | nil => simp [words, shown]
          | cons d cs =>
              have blank : isBlank d = true := apart d rfl
              simp [words, shown, blank]
      | cons d rest =>
          have later : ∀ x ∈ d :: rest, isBlank x = false :=
            fun x member => visible x (List.mem_cons_of_mem c member)
          have next : ¬ isBlank d = true := by simp [later d List.mem_cons_self]
          have read : words (d :: (rest ++ cs)) = (d :: rest) :: words cs :=
            ih (List.cons_ne_nil d rest) later
          show words (c :: d :: (rest ++ cs)) = _
          rw [words_cons_cons, if_neg shown, if_neg next, read]
          rfl

theorem words_append_blank (blank : isBlank c = true) : words (cs ++ [c]) = words cs := by
  induction cs with
  | nil => simp [words, blank]
  | cons d rest ih =>
      cases rest with
      | nil => simp [words, blank]
      | cons e rest =>
          rw [words_cons_cons, ← ih]
          exact words_cons_cons d e (rest ++ [c])

theorem tokens_cons_blank (blank : isBlank c = true) : tokens (c :: cs) = tokens cs := by
  rw [tokens, words_cons_blank blank, tokens]

theorem tokens_append {w : String} (isWord : IsWord w.toList) (apart : Apart cs) :
    tokens (w.toList ++ cs) = w :: tokens cs := by
  rw [tokens, words_append isWord apart, List.map_cons, String.ofList_toList, tokens]

/-- A word and the space after it. -/
theorem tokens_append_space {w : String} (isWord : IsWord w.toList) :
    tokens (w.toList ++ ' ' :: cs) = w :: tokens cs := by
  have apart : Apart (' ' :: cs) := by
    intro c first
    cases first
    rfl
  rw [tokens_append isWord apart, tokens_cons_blank rfl]

theorem tokens_append_return (line : List Char) : tokens (line ++ ['\r']) = tokens line := by
  rw [tokens, words_append_blank rfl, tokens]

end SandboxNet.Text
