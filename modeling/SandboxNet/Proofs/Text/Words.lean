import SandboxNet.Proofs.Text.Lines

/-! # Words between blanks

How a line of words is written: any blanks may stand before, after and between the words, and between
two words there is at least one. The words of a text are the ones that it is written with.
-/

namespace SandboxNet.Text

variable {c d : Char} {cs line : List Char} {ws : List (List Char)}

/-- A text of words with blanks around them. -/
inductive Spaced : List (List Char) → List Char → Prop where
  | nil : Spaced [] []
  | blank {c : Char} {cs : List Char} {ws : List (List Char)} (blank : isBlank c = true)
      (later : Spaced ws cs) : Spaced ws (c :: cs)
  | word {w cs : List Char} {ws : List (List Char)} (isWord : IsWord w) (apart : Apart cs)
      (later : Spaced ws cs) : Spaced (w :: ws) (w ++ cs)

/-- A character in front of a word is part of it. -/
theorem Spaced.consHead (spaced : Spaced ws (d :: cs)) (visible : isBlank c = false)
    (next : isBlank d = false) : Spaced (Text.consHead c ws) (c :: d :: cs) := by
  generalize text : d :: cs = line at spaced
  cases spaced with
  | nil => cases text
  | blank blank =>
      cases text
      rw [next] at blank
      cases blank
  | word isWord apart later =>
      refine .word (w := c :: _) ⟨List.cons_ne_nil _ _, ?_⟩ apart later
      intro e member
      rcases List.mem_cons.1 member with rfl | member
      · exact visible
      · exact isWord.2 e member

theorem isWord_singleton (visible : isBlank c = false) : IsWord [c] := by
  refine ⟨List.cons_ne_nil _ _, ?_⟩
  intro d member
  exact List.mem_singleton.1 member ▸ visible

theorem spaced_words (cs : List Char) : Spaced (words cs) cs := by
  fun_induction words cs with
  | case1 => exact .nil
  | case2 c rest blank ih => exact .blank blank ih
  | case3 c visible => exact .word (isWord_singleton (Bool.eq_false_iff.2 visible)) nofun .nil
  | case4 c visible d rest blank ih =>
      refine .word (isWord_singleton (Bool.eq_false_iff.2 visible)) ?_ ih
      intro e first
      cases first
      exact blank
  | case5 c visible d rest next ih =>
      exact ih.consHead (Bool.eq_false_iff.2 visible) (Bool.eq_false_iff.2 next)

theorem Spaced.words_eq (spaced : Spaced ws cs) : words cs = ws := by
  induction spaced with
  | nil => rfl
  | blank blank _ ih => rw [words_cons_blank blank, ih]
  | word isWord apart _ ih => rw [words_append isWord apart, ih]

theorem words_eq_iff : words cs = ws ↔ Spaced ws cs :=
  ⟨fun same => same ▸ spaced_words cs, Spaced.words_eq⟩

end SandboxNet.Text
