import Mathlib.Data.List.Basic
import SandboxNet.Proofs.Text.Number

/-! # Numerals

A numeral is a text of digits, letters in either case, with any number of zeros in front. A number is
read from a numeral that a plus sign may precede, and from no other text. Of the numerals of a decimal
number only the one that is printed has no superfluous zero.
-/

namespace SandboxNet.Text

variable {radix bound n d value : Nat} {c : Char} {cs before : List Char}

/-- A character that stands for a digit, a letter in either case. -/
def DigitOf (radix : Nat) (c : Char) (d : Nat) : Prop :=
  d < radix ∧ (c = Nat.digitChar d ∨ c = (Nat.digitChar d).toUpper)

/-- A text of one or more digits, with its value in positional notation. -/
inductive Numeral (radix : Nat) : List Char → Nat → Prop where
  | digit {c : Char} {d : Nat} (h : DigitOf radix c d) : Numeral radix [c] d
  | snoc {cs : List Char} {c : Char} {n d : Nat} (before : Numeral radix cs n)
      (h : DigitOf radix c d) : Numeral radix (cs ++ [c]) (n * radix + d)

/-- A numeral that a plus sign may precede. -/
inductive Unsigned (radix : Nat) : List Char → Nat → Prop where
  | plain {cs : List Char} {n : Nat} (h : Numeral radix cs n) : Unsigned radix cs n
  | plus {cs : List Char} {n : Nat} (h : Numeral radix cs n) : Unsigned radix ('+' :: cs) n

theorem Numeral.ne_nil (h : Numeral radix cs n) : cs ≠ [] := by
  cases h with
  | digit => exact List.cons_ne_nil _ _
  | snoc => exact List.append_ne_nil_of_right_ne_nil _ (List.cons_ne_nil _ _)

theorem Numeral.digitOf_of_mem (h : Numeral radix cs n) (member : c ∈ cs) :
    ∃ d, DigitOf radix c d := by
  induction h with
  | digit h => exact List.mem_singleton.1 member ▸ ⟨_, h⟩
  | snoc _ h ih =>
      rcases List.mem_append.1 member with earlier | last
      · exact ih earlier
      · exact List.mem_singleton.1 last ▸ ⟨_, h⟩

theorem toNat_lt_of_digit? (read : digit? radix c = some d) : c.toNat < 103 := by
  simp only [digit?, Option.filter_eq_some_iff] at read
  obtain ⟨value, -⟩ := read
  split at value
  · next decimal => exact Nat.lt_of_le_of_lt decimal.2 (by decide)
  split at value
  · next lower => exact Nat.lt_of_le_of_lt lower.2 (by decide)
  split at value
  · next upper => exact Nat.lt_of_le_of_lt upper.2 (by decide)
  · cases value

theorem digit?_eq_some_iff_sixteen (small : radix ≤ 16) :
    digit? radix c = some d ↔ digit? 16 c = some d ∧ d < radix := by
  simp only [digit?, Option.filter_eq_some_iff, decide_eq_true_eq]
  constructor
  · rintro ⟨value, below⟩
    exact ⟨⟨value, by omega⟩, below⟩
  · rintro ⟨⟨value, -⟩, below⟩
    exact ⟨value, below⟩

section

variable (small : radix ≤ 16)

include small

theorem digit?_eq_some_iff : digit? radix c = some d ↔ DigitOf radix c d := by
  have shown : ∀ k < 103, ∀ d ∈ digit? 16 (Char.ofNat k),
      Char.ofNat k = Nat.digitChar d ∨ Char.ofNat k = (Nat.digitChar d).toUpper := by decide
  have lower : ∀ d < 16, digit? 16 (Nat.digitChar d) = some d := by decide
  have upper : ∀ d < 16, digit? 16 (Nat.digitChar d).toUpper = some d := by decide
  rw [digit?_eq_some_iff_sixteen small, and_comm, DigitOf]
  refine and_congr_right fun below => ⟨fun value => ?_, ?_⟩
  · have known := shown c.toNat (toNat_lt_of_digit? value)
    rw [Char.ofNat_toNat] at known
    exact known d value
  · rintro (rfl | rfl)
    · exact lower d (by omega)
    · exact upper d (by omega)

theorem Numeral.digitsFrom? (h : Numeral radix cs n) : digitsFrom? radix 0 cs = some n := by
  induction h with
  | @digit c d h => simp [Text.digitsFrom?, (digit?_eq_some_iff small).2 h]
  | snoc _ h ih => simp [digitsFrom?_append, ih, Text.digitsFrom?, (digit?_eq_some_iff small).2 h]

/-- Digits that are read after others continue their numeral. -/
theorem Numeral.append_of_digitsFrom? (h : Numeral radix before value)
    (read : Text.digitsFrom? radix value cs = some n) : Numeral radix (before ++ cs) n := by
  induction cs generalizing before value with
  | nil =>
      cases read
      rwa [List.append_nil]
  | cons c rest ih =>
      obtain ⟨d, digit, later⟩ := Option.bind_eq_some_iff.1 read
      rw [List.append_cons]
      exact ih (h.snoc ((digit?_eq_some_iff small).1 digit)) later

theorem digits?_eq_some_iff : digits? radix cs = some n ↔ Numeral radix cs n := by
  cases cs with
  | nil => exact ⟨nofun, fun h => absurd rfl h.ne_nil⟩
  | cons c rest =>
      refine ⟨fun read => ?_, fun h => h.digitsFrom? small⟩
      obtain ⟨d, digit, later⟩ := Option.bind_eq_some_iff.1 read
      have first : Numeral radix [c] (0 * radix + d) := by
        rw [Nat.zero_mul, Nat.zero_add]
        exact .digit ((digit?_eq_some_iff small).1 digit)
      exact first.append_of_digitsFrom? small later

theorem Numeral.unique {m : Nat} (h : Numeral radix cs n) (h' : Numeral radix cs m) : n = m :=
  Option.some.inj ((h.digitsFrom? small).symm.trans (h'.digitsFrom? small))

theorem Numeral.head?_ne_plus (h : Numeral radix cs n) : cs.head? ≠ some '+' := by
  intro first
  obtain ⟨d, digit⟩ := h.digitOf_of_mem (List.mem_of_mem_head? first)
  have none : digit? 16 '+' = none := by decide
  have digit := (digit?_eq_some_iff_sixteen small).1 ((digit?_eq_some_iff small).2 digit)
  rw [none] at digit
  cases digit.1

theorem digits?_dropPlus : digits? radix (dropPlus cs) = some n ↔ Unsigned radix cs n := by
  rw [digits?_eq_some_iff small, dropPlus.eq_def]
  split
  · next rest =>
      refine ⟨.plus, fun h => ?_⟩
      cases h with
      | plain h => exact absurd rfl (h.head?_ne_plus small)
      | plus h => exact h
  · next unsigned =>
      refine ⟨.plain, fun h => ?_⟩
      cases h with
      | plain h => exact h
      | plus h => exact absurd rfl (unsigned _)

theorem Unsigned.unique {m : Nat} (h : Unsigned radix cs n) (h' : Unsigned radix cs m) : n = m :=
  Option.some.inj (((digits?_dropPlus small).2 h).symm.trans ((digits?_dropPlus small).2 h'))

/-- A number is read from its numerals, which may have a plus sign, as long as it is in the range. -/
theorem unsigned?_eq_some_iff :
    unsigned? radix bound cs = some n ↔ Unsigned radix cs n ∧ n < bound := by
  rw [unsigned?, Option.filter_eq_some_iff, digits?_dropPlus small, decide_eq_true_eq]

end

theorem unsigned_toDigits (positional : 1 < radix) (small : radix ≤ 16) (n : Nat) :
    Unsigned radix (Nat.toDigits radix n) n := by
  have read := unsigned?_digits positional small (Nat.lt_succ_self n)
  rw [digits, String.toList_ofList] at read
  exact ((unsigned?_eq_some_iff small).1 read).1

theorem digits_injective (positional : 1 < radix) (small : radix ≤ 16) :
    Function.Injective (digits radix) := by
  intro m n same
  have printed : Nat.toDigits radix m = Nat.toDigits radix n := String.ofList_injective same
  have spelled := unsigned_toDigits positional small m
  rw [printed] at spelled
  exact spelled.unique small (unsigned_toDigits positional small n)

/-- A decimal digit has no other case. -/
theorem DigitOf.eq_digitChar (h : DigitOf 10 c d) : c = Nat.digitChar d := by
  have caseless : ∀ d < 10, (Nat.digitChar d).toUpper = Nat.digitChar d := by decide
  rcases h.2 with lower | upper
  · exact lower
  · rw [upper, caseless d h.1]

/-- Digits as they are printed: no sign, and no zero before other digits. -/
def Plain (cs : List Char) : Prop :=
  cs.head? ≠ some '+' ∧ (cs.head? = some '0' → cs = ['0'])

theorem head?_toDigits (positive : 0 < n) : (Nat.toDigits 10 n).head? ≠ some '0' := by
  induction n using Nat.strongRecOn with
  | _ n ih =>
      rw [Nat.toDigits_eq_if (by decide)]
      split
      · next single =>
          have nonzero : ∀ d < 10, 0 < d → some (Nat.digitChar d) ≠ some '0' := by decide
          exact nonzero n single positive
      · next several =>
          rw [List.head?_append_of_ne_nil _ Nat.toDigits_ne_nil]
          exact ih (n / 10) (by omega) (by omega)

theorem plain_toDigits (n : Nat) : Plain (Nat.toDigits 10 n) := by
  constructor
  · intro first
    obtain ⟨d, -, plus⟩ := mem_toDigits (by decide) (by decide) (List.mem_of_mem_head? first)
    exact Nat.digitChar_ne '+' rfl plus.symm
  · intro first
    cases n with
    | zero => rfl
    | succ n => exact absurd first (head?_toDigits n.succ_pos)

theorem Numeral.eq_toDigits (h : Numeral 10 cs n) (leads : cs.head? ≠ some '0') :
    0 < n ∧ cs = Nat.toDigits 10 n := by
  induction h with
  | @digit c d h =>
      have shown : c = Nat.digitChar d := h.eq_digitChar
      refine ⟨Nat.pos_of_ne_zero ?_, by rw [Nat.toDigits_of_lt_base h.1, shown]⟩
      rintro rfl
      exact leads (congrArg some shown)
  | @snoc cs c n d before h ih =>
      -- A positive number with one more digit is printed as that number and the digit.
      rw [List.head?_append_of_ne_nil _ before.ne_nil] at leads
      obtain ⟨positive, printed⟩ := ih leads
      have shown : c = Nat.digitChar d := h.eq_digitChar
      refine ⟨by omega, ?_⟩
      rw [Nat.mul_comm, ← Nat.toDigits_append_toDigits (by decide) positive h.1, ← printed,
        Nat.toDigits_of_lt_base h.1, shown]

/-- Of the texts that are read as a decimal number one is printed: the one in plain digits. -/
theorem Unsigned.eq_toDigits_iff (h : Unsigned 10 cs n) : cs = Nat.toDigits 10 n ↔ Plain cs := by
  constructor
  · rintro rfl
    exact plain_toDigits n
  · rintro ⟨unsigned, zero⟩
    cases h with
    | plus => exact absurd rfl unsigned
    | plain h =>
        by_cases leads : cs.head? = some '0'
        · rw [zero leads] at h ⊢
          have single : Numeral 10 ['0'] 0 := .digit ⟨by decide, .inl rfl⟩
          rw [h.unique (by decide) single]
          rfl
        · exact (h.eq_toDigits leads).2

end SandboxNet.Text
