import SandboxNet.Plan
import SandboxNet.Proofs.Text.Numeral

/-! # Device names and plans

An index has one device name, and a name gives back the index whose digits stand in its middle. Only
plain digits make the name that the plan has: with a plus sign or a zero in front of them they make
the name of no index, which still gives the plan of their number.
-/

namespace SandboxNet

open Text

variable {name middle : List Char} {index : Nat}

/-- A device name with the given middle. -/
def tapNameAround (middle : List Char) : List Char :=
  tapStem.toList ++ middle ++ tapTail.toList

theorem tapNameAround_injective : Function.Injective tapNameAround := fun _ _ same =>
  List.append_cancel_left (List.append_cancel_right same)

theorem toList_tapName (index : Nat) :
    (tapName index).toList = tapNameAround (Nat.toDigits 10 index) := by
  simp [tapName, tapNameAround, digits]

theorem eq_tapName_iff {s : String} (shape : s.toList = tapNameAround middle) :
    s = tapName index ↔ middle = Nat.toDigits 10 index := by
  rw [← String.toList_inj, shape, toList_tapName, tapNameAround_injective.eq_iff]

theorem tapName_injective : Function.Injective tapName := by
  intro i j same
  have middles := (eq_tapName_iff (toList_tapName i)).1 same
  exact digits_injective (by decide) (by decide) (congrArg String.ofList middles)

namespace AddressPlan

variable {plan : AddressPlan} {s : String}

theorem middle?_eq_some_iff : middle? name = some middle ↔ name = tapNameAround middle := by
  have stemLength : tapStem.length = tapStem.toList.length := rfl
  have tailLength : tapTail.length = tapTail.toList.length := rfl
  simp only [middle?, List.isPrefixOf_iff_prefix, List.isSuffixOf_iff_suffix, stemLength, tailLength]
  constructor
  · intro found
    split at found
    · next stem =>
        obtain ⟨rest, rfl⟩ := stem
        rw [List.drop_left] at found
        split at found
        · next tail =>
            obtain ⟨between, rfl⟩ := tail
            rw [List.length_append, Nat.add_sub_cancel, List.take_left] at found
            cases found
            rw [tapNameAround, List.append_assoc]
        · cases found
    · cases found
  · rintro rfl
    rw [tapNameAround, List.append_assoc, if_pos (List.prefix_append _ _), List.drop_left,
      if_pos (List.suffix_append _ _), List.length_append, Nat.add_sub_cancel, List.take_left]

/-- What a name gives is the plan of the number in its middle. -/
theorem ofTapName?_eq_some_iff_unsigned : ofTapName? s = some plan ↔
    ∃ middle, ∃ index : UInt8, s.toList = tapNameAround middle ∧
      Unsigned 10 middle index.toNat ∧ plan = ofIndex index := by
  simp only [ofTapName?, Option.bind_eq_bind, Option.bind_eq_some_iff, middle?_eq_some_iff,
    unsigned?_eq_some_iff (show 10 ≤ 16 by decide)]
  constructor
  · rintro ⟨middle, shape, n, ⟨spelled, byte⟩, made⟩
    cases made
    refine ⟨middle, UInt8.ofNat n, shape, ?_, rfl⟩
    rwa [UInt8.toNat_ofNat_of_lt' byte]
  · rintro ⟨middle, index, shape, spelled, rfl⟩
    refine ⟨middle, shape, index.toNat, ⟨spelled, index.toNat_lt⟩, ?_⟩
    rw [UInt8.ofNat_toNat]
    rfl

theorem ofTapName?_tapName (index : Nat) : ofTapName? (SandboxNet.tapName index) =
    if index ≤ 255 then some (ofIndex (UInt8.ofNat index)) else none := by
  have printed : Unsigned 10 (Nat.toDigits 10 index) index :=
    unsigned_toDigits (by decide) (by decide) index
  split
  · next byte =>
      have same : (UInt8.ofNat index).toNat = index := UInt8.toNat_ofNat_of_lt' (Nat.lt_succ_of_le byte)
      exact ofTapName?_eq_some_iff_unsigned.2
        ⟨_, UInt8.ofNat index, toList_tapName index, same.symm ▸ printed, rfl⟩
  · next exceeds =>
      rw [Option.eq_none_iff_forall_ne_some]
      intro plan read
      obtain ⟨middle, byte, shape, spelled, -⟩ := ofTapName?_eq_some_iff_unsigned.1 read
      rw [(eq_tapName_iff shape).1 rfl] at spelled
      have same : index = byte.toNat := printed.unique (by decide) spelled
      have range := byte.toNat_lt
      omega

/-- A name is the one of its plan when its digits are plain. -/
theorem tapName_eq_iff_plain {index : UInt8} (shape : s.toList = tapNameAround middle)
    (spelled : Unsigned 10 middle index.toNat) : (ofIndex index).tapName = s ↔ Plain middle := by
  rw [← spelled.eq_toDigits_iff, ← eq_tapName_iff shape]
  exact eq_comm

/-- What a name with plain digits gives is the plan that has this name. -/
theorem recovered_iff_plain (s : String) :
    (∀ plan, ofTapName? s = some plan ↔
      ∃ index : UInt8, s = SandboxNet.tapName index.toNat ∧ plan = ofIndex index) ↔
    ∀ middle, ∀ index : UInt8, s.toList = tapNameAround middle →
      Unsigned 10 middle index.toNat → Plain middle := by
  constructor
  · intro recovered middle index shape spelled
    have read : ofTapName? s = some (ofIndex index) :=
      ofTapName?_eq_some_iff_unsigned.2 ⟨middle, index, shape, spelled, rfl⟩
    obtain ⟨own, rfl, same⟩ := (recovered _).1 read
    exact (tapName_eq_iff_plain shape spelled).1 (congrArg AddressPlan.tapName same)
  · intro plain plan
    constructor
    · intro read
      obtain ⟨middle, index, shape, spelled, rfl⟩ := ofTapName?_eq_some_iff_unsigned.1 read
      have own : (ofIndex index).tapName = s :=
        (tapName_eq_iff_plain shape spelled).2 (plain middle index shape spelled)
      exact ⟨index, own.symm, rfl⟩
    · rintro ⟨index, rfl, rfl⟩
      have byte : index.toNat ≤ 255 := Nat.le_of_lt_succ index.toNat_lt
      rw [ofTapName?_tapName, if_pos byte, UInt8.ofNat_toNat]

theorem ofTapName?_recovers (s : String) :
    (∀ plan, ofTapName? s = some plan ↔ ∃ middle, ∃ index : UInt8,
      s.toList = tapNameAround middle ∧ Unsigned 10 middle index.toNat ∧ plan = ofIndex index ∧
        (plan.tapName = s ↔ Plain middle)) ∧
    ((∀ plan, ofTapName? s = some plan ↔
        ∃ index : UInt8, s = SandboxNet.tapName index.toNat ∧ plan = ofIndex index) ↔
      ∀ middle, ∀ index : UInt8, s.toList = tapNameAround middle →
        Unsigned 10 middle index.toNat → Plain middle) ∧
    (∀ index, ofTapName? (SandboxNet.tapName index) =
      if index ≤ 255 then some (ofIndex (UInt8.ofNat index)) else none) ∧
    Function.Injective SandboxNet.tapName := by
  refine ⟨fun plan => ?_, recovered_iff_plain s, ofTapName?_tapName, tapName_injective⟩
  rw [ofTapName?_eq_some_iff_unsigned]
  constructor
  · rintro ⟨middle, index, shape, spelled, rfl⟩
    exact ⟨middle, index, shape, spelled, rfl, tapName_eq_iff_plain shape spelled⟩
  · rintro ⟨middle, index, shape, spelled, made, -⟩
    exact ⟨middle, index, shape, spelled, made⟩

/-- A plus sign makes a name that no index has and that gives a plan. -/
theorem foreign_name_recovered :
    ofTapName? "tap+5_urunc" = some (ofIndex 5) ∧ (ofIndex 5).tapName ≠ "tap+5_urunc" ∧
      ¬ ∃ index, "tap+5_urunc" = SandboxNet.tapName index := by
  have read : ofTapName? "tap+5_urunc" = some (ofIndex 5) := by decide
  refine ⟨read, by decide, ?_⟩
  rintro ⟨index, same⟩
  have shape : "tap+5_urunc".toList = tapNameAround "+5".toList := rfl
  have plain := plain_toDigits index
  rw [← (eq_tapName_iff shape).1 same] at plain
  exact plain.1 rfl

end AddressPlan

end SandboxNet
