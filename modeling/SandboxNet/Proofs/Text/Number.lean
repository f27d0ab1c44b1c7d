import SandboxNet.Proofs.Text.Lines
import SandboxNet.Text.Number

/-! # Reading printed numbers back -/

namespace SandboxNet.Text

variable {radix n value : Nat} {c : Char} {xs ys : List Char}

theorem digit?_digitChar {d : Nat} (digit : d < radix) (small : radix ≤ 16) :
    digit? radix (Nat.digitChar d) = some d := by
  have values : ∀ d < 16, digit? 16 (Nat.digitChar d) = some d := by decide
  have value := values d (by omega)
  simp only [digit?, Option.filter_eq_some_iff] at value ⊢
  exact ⟨value.1, by simpa using digit⟩

theorem digitsFrom?_append : digitsFrom? radix value (xs ++ ys) =
    (digitsFrom? radix value xs).bind fun value => digitsFrom? radix value ys := by
  induction xs generalizing value with
  | nil => rfl
  | cons c rest ih =>
      rw [List.cons_append, digitsFrom?, digitsFrom?, Option.bind_assoc]
      exact congrArg _ (funext fun _ => ih)

variable (positional : 1 < radix) (small : radix ≤ 16)

include positional small

theorem digitsFrom?_toDigits : digitsFrom? radix 0 (Nat.toDigits radix n) = some n := by
  induction n using Nat.strongRecOn with
  | _ n ih =>
      rw [Nat.toDigits_eq_if positional]
      split
      · next single => simp [digitsFrom?, digit?_digitChar single small]
      · next several =>
          have shorter : n / radix < n := Nat.div_lt_self (by omega) positional
          have last : n % radix < radix := Nat.mod_lt _ (by omega)
          rw [digitsFrom?_append, ih _ shorter, Option.bind_some, digitsFrom?,
            digit?_digitChar last small, Option.bind_some, digitsFrom?, Nat.div_add_mod']

theorem mem_toDigits (member : c ∈ Nat.toDigits radix n) : ∃ d < 16, c = Nat.digitChar d := by
  induction n using Nat.strongRecOn with
  | _ n ih =>
      rw [Nat.toDigits_eq_if positional] at member
      split at member
      · next single => exact ⟨n, by omega, List.mem_singleton.1 member⟩
      · next several =>
          have shorter : n / radix < n := Nat.div_lt_self (by omega) positional
          have last : n % radix < radix := Nat.mod_lt _ (by omega)
          rcases List.mem_append.1 member with earlier | final
          · exact ih _ shorter earlier
          · exact ⟨n % radix, by omega, List.mem_singleton.1 final⟩

theorem ne_of_mem_digits {d : Char} (member : c ∈ (digits radix n).toList)
    (other : ∀ k < 16, Nat.digitChar k ≠ d) : c ≠ d := by
  rw [digits, String.toList_ofList] at member
  obtain ⟨k, bound, rfl⟩ := mem_toDigits positional small member
  exact other k bound

theorem isWord_digits (n : Nat) : IsWord (digits radix n).toList := by
  rw [digits, String.toList_ofList]
  refine ⟨Nat.toDigits_ne_nil, ?_⟩
  intro c member
  have visible : ∀ k < 16, isBlank (Nat.digitChar k) = false := by decide
  obtain ⟨k, bound, rfl⟩ := mem_toDigits positional small member
  exact visible k bound

/-- A printed number is read back. -/
theorem unsigned?_digits {bound : Nat} (below : n < bound) :
    unsigned? radix bound (digits radix n).toList = some n := by
  have unsigned : dropPlus (Nat.toDigits radix n) = Nat.toDigits radix n := by
    rw [dropPlus.eq_def]
    split
    · next rest plus =>
        have member : '+' ∈ (digits radix n).toList := by
          rw [digits, String.toList_ofList, plus]
          exact List.mem_cons_self
        exact absurd rfl (ne_of_mem_digits positional small member (by decide))
    · rfl
  have read : digits? radix (Nat.toDigits radix n) = some n := by
    rw [digits?.eq_def]
    split
    · next empty => exact absurd empty Nat.toDigits_ne_nil
    · next first rest printed => exact printed ▸ digitsFrom?_toDigits positional small
  rw [unsigned?, digits, String.toList_ofList, unsigned, read]
  simp [below]

end SandboxNet.Text
