import SandboxNet.Tc.Handle
import SandboxNet.Proofs.Text.Numeral

/-! # Handles in text

The notation of a handle is one word, and it is read back as that handle. Besides the notation that is
printed, reading takes zeros in front of each half, a plus sign, letters of either case and a half
that is left out, and nothing else.
-/

namespace SandboxNet.Tc.Handle

open Text

variable {h : Handle} {cs major minor : List Char} {n : Nat}

/-- The minor number as it is printed. -/
def minorText (h : Handle) : List Char :=
  if h.minor = 0 then [] else (digits 16 h.minor.toNat).toList

theorem toList_text (notRoot : h ≠ root) :
    h.text.toList = (digits 16 h.major.toNat).toList ++ ':' :: h.minorText := by
  rw [text, if_neg notRoot, minorText, String.toList_append, String.toList_append,
    List.append_assoc]
  split <;> rfl

theorem half?_digits (n : UInt16) : half? (digits 16 n.toNat).toList = some n := by
  have read : unsigned? 16 0x10000 (digits 16 n.toNat).toList = some n.toNat :=
    unsigned?_digits (by decide) (by decide) n.toNat_lt
  rw [half?.eq_def]
  split
  · next empty => exact absurd empty (isWord_digits (by decide) (by decide) n.toNat).1
  · next first rest printed => rw [← printed, read, Option.map_some, UInt16.ofNat_toNat]

theorem half?_minorText (h : Handle) : half? h.minorText = some h.minor := by
  rw [minorText]
  split
  · next zero => rw [zero, half?]
  · exact half?_digits h.minor

theorem isWord_text (h : Handle) : IsWord h.text.toList := by
  by_cases isRoot : h = root
  · subst isRoot
    decide
  · have major : IsWord (digits 16 h.major.toNat).toList :=
      isWord_digits (by decide) (by decide) h.major.toNat
    rw [toList_text isRoot]
    refine ⟨by simp, ?_⟩
    intro c member
    rcases List.mem_append.1 member with left | right
    · exact major.2 c left
    rcases List.mem_cons.1 right with rfl | right
    · rfl
    · rw [minorText] at right
      split at right
      · cases right
      · exact (isWord_digits (by decide) (by decide) h.minor.toNat).2 c right

/-- What one half of the notation stands for: zero when it is left out, and else a number of sixteen
bits. -/
inductive Half : List Char → Nat → Prop where
  | empty : Half [] 0
  | number {cs : List Char} {n : Nat} (h : Unsigned 16 cs n) (range : n ≤ 0xffff) : Half cs n

theorem Half.lt (h : Half cs n) : n < 0x10000 := by
  cases h with
  | empty => decide
  | number _ range => omega

theorem half?_eq_some_iff {number : UInt16} : half? cs = some number ↔ Half cs number.toNat := by
  cases cs with
  | nil =>
      constructor
      · intro read
        cases read
        exact .empty
      · intro h
        generalize value : number.toNat = n at h
        cases h with
        | empty => exact congrArg some (UInt16.toNat_inj.1 value.symm)
        | number h =>
            cases h with
            | plain h => exact absurd rfl h.ne_nil
  | cons c rest =>
      rw [half?, Option.map_eq_some_iff]
      constructor
      · rintro ⟨n, read, rfl⟩
        obtain ⟨spelled, range⟩ := (unsigned?_eq_some_iff (by decide)).1 read
        rw [UInt16.toNat_ofNat_of_lt' range]
        exact .number spelled (by omega)
      · intro h
        cases h with
        | number h range =>
            refine ⟨number.toNat, (unsigned?_eq_some_iff (by decide)).2 ⟨h, by omega⟩, ?_⟩
            exact UInt16.ofNat_toNat

theorem noColon (whole : ':' ∉ cs) : ∀ c ∈ cs, decide (c ≠ ':') = true := by
  intro c member
  refine decide_eq_true ?_
  rintro rfl
  exact whole member

/-- The first colon divides the notation. -/
theorem ofChars?_halves (whole : ':' ∉ major) : ofChars? (major ++ ':' :: minor) =
    (half? major).bind fun m => (half? minor).map fun n => ⟨m, n⟩ := by
  have notRoot : major ++ ':' :: minor ≠ "root".toList := by
    intro same
    have colon : ':' ∈ "root".toList := same ▸ List.mem_append_right major List.mem_cons_self
    revert colon
    decide
  rw [ofChars?, if_neg notRoot, List.dropWhile_append_of_pos (noColon whole),
    List.takeWhile_append_of_pos (noColon whole), List.dropWhile_cons_of_neg (by simp),
    List.takeWhile_cons_of_neg (by simp), List.append_nil]
  show (half? major >>= fun m => half? minor >>= fun n => some (⟨m, n⟩ : Handle)) = _
  cases half? minor <;> rfl

theorem ofChars?_of_no_colon (notRoot : cs ≠ "root".toList) (whole : ':' ∉ cs) :
    ofChars? cs = none := by
  have all : cs.dropWhile (· ≠ ':') = [] := by
    rw [← List.append_nil cs, List.dropWhile_append_of_pos (noColon whole), List.dropWhile_nil]
  rw [ofChars?, if_neg notRoot, all]

/-- The notation of a handle is read back. -/
theorem ofText?_text (h : Handle) : ofText? h.text = some h := by
  by_cases isRoot : h = root
  · subst isRoot
    rfl
  · have whole : ':' ∉ (digits 16 h.major.toNat).toList := fun member =>
      ne_of_mem_digits (by decide) (by decide) member (by decide) rfl
    rw [ofText?, toList_text isRoot, ofChars?_halves whole, half?_digits, half?_minorText]
    rfl

theorem toNat_raw (h : Handle) : h.raw.toNat = h.major.toNat * 0x10000 + h.minor.toNat := by
  have minor : h.minor.toNat < 2 ^ 16 := h.minor.toNat_lt
  have major : h.major.toNat < 2 ^ 16 := h.major.toNat_lt
  have upper : (h.major.toUInt32 <<< 16).toNat = h.major.toNat <<< 16 := by
    rw [UInt32.toNat_shiftLeft, UInt16.toNat_toUInt32]
    show h.major.toNat <<< 16 % _ = _
    rw [Nat.shiftLeft_eq]
    omega
  rw [raw, UInt32.toNat_or, upper, UInt16.toNat_toUInt32, ← Nat.shiftLeft_add_eq_or_of_lt minor,
    Nat.shiftLeft_eq]

theorem raw_injective : Function.Injective raw := by
  intro h h' same
  have words := congrArg UInt32.toNat same
  rw [toNat_raw, toNat_raw] at words
  have minor := h.minor.toNat_lt
  have minor' := h'.minor.toNat_lt
  cases h
  cases h'
  congr
  · apply UInt16.toNat_inj.1
    dsimp only at words minor minor'
    omega
  · apply UInt16.toNat_inj.1
    dsimp only at words minor minor'
    omega

theorem raw_ofRaw (word : UInt32) : (ofRaw word).raw = word := by
  have range : word.toNat < 2 ^ 32 := word.toNat_lt
  have upper : (ofRaw word).major.toNat = word.toNat / 0x10000 := by
    simp only [ofRaw, UInt32.toNat_toUInt16, UInt32.toNat_shiftRight]
    show word.toNat >>> 16 % 2 ^ 16 = _
    rw [Nat.shiftRight_eq_div_pow]
    omega
  have lower : (ofRaw word).minor.toNat = word.toNat % 0x10000 := UInt32.toNat_toUInt16 word
  apply UInt32.toNat_inj.1
  rw [toNat_raw, upper, lower]
  omega

/-- A text that stands for a handle: `root`, or two halves around the first colon. -/
inductive Spelled : List Char → Handle → Prop where
  | root {h : Handle} (word : h.raw = 0xffffffff) : Spelled "root".toList h
  | halves {major minor : List Char} {m n : Nat} {h : Handle} (whole : ':' ∉ major)
      (upper : Half major m) (lower : Half minor n) (word : h.raw.toNat = m * 0x10000 + n) :
      Spelled (major ++ ':' :: minor) h

theorem ofChars?_eq_some_iff : ofChars? cs = some h ↔ Spelled cs h := by
  constructor
  · intro read
    by_cases colon : ':' ∈ cs
    · obtain ⟨major, minor, rfl, whole⟩ := List.eq_append_cons_of_mem colon
      rw [ofChars?_halves whole] at read
      obtain ⟨m, upper, read⟩ := Option.bind_eq_some_iff.1 read
      obtain ⟨n, lower, rfl⟩ := Option.map_eq_some_iff.1 read
      exact .halves whole (half?_eq_some_iff.1 upper) (half?_eq_some_iff.1 lower) (toNat_raw _)
    · by_cases isRoot : cs = "root".toList
      · subst isRoot
        cases read
        exact .root rfl
      · rw [ofChars?_of_no_colon isRoot colon] at read
        cases read
  · intro spelled
    cases spelled with
    | root word =>
        obtain rfl : h = root := raw_injective word
        rfl
    | @halves major minor m n _ whole upper lower word =>
        have split := h.toNat_raw
        have range := h.minor.toNat_lt
        have below := lower.lt
        obtain rfl : h.major.toNat = m := by omega
        obtain rfl : h.minor.toNat = n := by omega
        rw [ofChars?_halves whole, half?_eq_some_iff.2 upper, half?_eq_some_iff.2 lower]
        rfl

theorem text_injective : Function.Injective text := by
  intro h h' same
  have read := ofText?_text h
  rw [same, ofText?_text] at read
  exact (Option.some.inj read).symm

theorem ofText?_eq_some_iff :
    (∀ word : UInt32, (ofRaw word).raw = word ∧ ofText? (ofRaw word).text = some (ofRaw word)) ∧
    Function.Injective text ∧
    ∀ (s : String) (h : Handle), ofText? s = some h ↔ Spelled s.toList h :=
  ⟨fun word => ⟨raw_ofRaw word, ofText?_text _⟩, text_injective, fun _ _ => ofChars?_eq_some_iff⟩

end SandboxNet.Tc.Handle
