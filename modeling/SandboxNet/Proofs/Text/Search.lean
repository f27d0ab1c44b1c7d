import SandboxNet.Text.Lines

/-! # Phrases in texts

A text contains a phrase when the phrase is a stretch of it. Trimming a text loses no phrase that
starts and ends with something else than a blank, so a trimmed complaint can be searched for the same
phrases as the whole one.
-/

namespace SandboxNet.Text

variable {phrase cs : List Char}

theorem contains_iff : contains phrase cs = true ↔ phrase <:+: cs := by
  rw [contains]
  induction cs with
  | nil => simp [after?]
  | cons c rest ih =>
      rw [after?, List.infix_cons_iff, ← List.isPrefixOf_iff_prefix]
      split
      · next starts => simp [starts]
      · next differs => simp [differs, ih]

/-- What follows the first occurrence of a phrase in a text. -/
def FirstAfter (phrase cs rest : List Char) : Prop :=
  ∃ before, cs = before ++ phrase ++ rest ∧
    ∀ earlier later, cs = earlier ++ phrase ++ later → before.length ≤ earlier.length

theorem firstAfter_of_prefix (starts : phrase <+: cs) : FirstAfter phrase cs (cs.drop phrase.length) := by
  obtain ⟨rest, rfl⟩ := starts
  exact ⟨[], by rw [List.drop_left]; rfl, fun _ _ _ => Nat.zero_le _⟩

theorem firstAfter_cons {c : Char} {rest : List Char} (differs : ¬ phrase <+: c :: cs) :
    FirstAfter phrase (c :: cs) rest ↔ FirstAfter phrase cs rest := by
  constructor
  · rintro ⟨before, joined, first⟩
    cases before with
    | nil => exact absurd ⟨rest, joined.symm⟩ differs
    | cons d before =>
        have tail : cs = before ++ phrase ++ rest := (List.cons.inj joined).2
        refine ⟨before, tail, fun earlier later other => ?_⟩
        exact Nat.le_of_succ_le_succ (first (c :: earlier) later (congrArg (c :: ·) other))
  · rintro ⟨before, joined, first⟩
    refine ⟨c :: before, congrArg (c :: ·) joined, fun earlier later other => ?_⟩
    cases earlier with
    | nil => exact absurd ⟨later, other.symm⟩ differs
    | cons d earlier => exact Nat.succ_le_succ (first earlier later (List.cons.inj other).2)

theorem FirstAfter.unique {rest other : List Char} (h : FirstAfter phrase cs rest)
    (h' : FirstAfter phrase cs other) : rest = other := by
  obtain ⟨before, joined, first⟩ := h
  obtain ⟨before', joined', first'⟩ := h'
  have length : before.length = before'.length :=
    Nat.le_antisymm (first before' other joined') (first' before rest joined)
  rw [joined, List.append_assoc, List.append_assoc] at joined'
  exact List.append_cancel_left (List.append_inj joined' length).2

theorem after?_eq_some_iff {rest : List Char} :
    after? phrase cs = some rest ↔ FirstAfter phrase cs rest := by
  induction cs with
  | nil =>
      cases phrase with
      | nil =>
          have start : FirstAfter [] [] [] := firstAfter_of_prefix (List.prefix_refl [])
          exact ⟨fun same => Option.some.inj same ▸ start, fun h => congrArg some (start.unique h)⟩
      | cons c phrase =>
          constructor
          · intro found
            cases found
          · rintro ⟨before, joined, -⟩
            simp at joined
  | cons c cs ih =>
      rw [after?]
      split
      · next starts =>
          have start := firstAfter_of_prefix (List.isPrefixOf_iff_prefix.1 starts)
          exact ⟨fun same => Option.some.inj same ▸ start, fun h => congrArg some (start.unique h)⟩
      · next differs =>
          rw [firstAfter_cons (mt List.isPrefixOf_iff_prefix.2 differs)]
          exact ih

/-- A character at the end that the phrase does not have is no part of an occurrence. -/
theorem after?_append_singleton {c : Char} (nonempty : phrase ≠ []) (foreign : c ∉ phrase) :
    after? phrase (cs ++ [c]) = (after? phrase cs).map (· ++ [c]) := by
  have starts_iff : ∀ cs : List Char,
      phrase.isPrefixOf (cs ++ [c]) = true ↔ phrase.isPrefixOf cs = true := by
    intro cs
    rw [List.isPrefixOf_iff_prefix, List.isPrefixOf_iff_prefix, List.prefix_concat_iff]
    refine or_iff_right fun whole => ?_
    exact foreign (whole ▸ List.mem_append_right cs List.mem_cons_self)
  induction cs with
  | nil =>
      have differs : ¬ phrase.isPrefixOf [] = true := by
        rw [List.isPrefixOf_iff_prefix, List.prefix_nil]
        exact nonempty
      have still : ¬ phrase.isPrefixOf [c] = true := mt (starts_iff []).1 differs
      simp [after?, still, nonempty]
  | cons d rest ih =>
      rw [List.cons_append, after?, after?]
      by_cases starts : phrase.isPrefixOf (d :: rest) = true
      · have still : phrase.isPrefixOf (d :: (rest ++ [c])) = true := (starts_iff (d :: rest)).2 starts
        have length : phrase.length ≤ (d :: rest).length :=
          (List.isPrefixOf_iff_prefix.1 starts).length_le
        rw [if_pos starts, if_pos still, ← List.cons_append, List.drop_append_of_le_length length]
        rfl
      · have still : ¬ phrase.isPrefixOf (d :: (rest ++ [c])) = true :=
          mt (starts_iff (d :: rest)).1 starts
        rw [if_neg starts, if_neg still, ih]

/-- Blanks in front of a text are no part of a phrase that starts with something else. -/
theorem infix_dropWhile_isBlank (starts : ∃ c ∈ phrase.head?, isBlank c = false) :
    phrase <:+: cs.dropWhile isBlank ↔ phrase <:+: cs := by
  obtain ⟨first, isFirst, visible⟩ := starts
  induction cs with
  | nil => simp
  | cons c rest ih =>
      rw [List.dropWhile_cons]
      split
      · next blank =>
          have differs : ¬ phrase <+: c :: rest := by
            rintro ⟨after, joined⟩
            cases phrase <;> grind
          rw [ih, List.infix_cons_iff, or_iff_right differs]
      · rfl

theorem infix_trim (starts : ∃ c ∈ phrase.head?, isBlank c = false)
    (ends : ∃ c ∈ phrase.getLast?, isBlank c = false) : phrase <:+: trim cs ↔ phrase <:+: cs := by
  have backwards : ∃ c ∈ phrase.reverse.head?, isBlank c = false := by
    rwa [List.head?_reverse]
  rw [trim, ← List.reverse_infix, List.reverse_reverse, infix_dropWhile_isBlank backwards,
    List.reverse_infix, infix_dropWhile_isBlank starts]

end SandboxNet.Text
