import SandboxNet.Ipv4
import SandboxNet.Proofs.Text.Numeral

/-! # Addresses and masks as words

The kernel prints an address as the hexadecimal of a word with the first octet in its lowest byte. A
mask is read as a length when its set bits come first, and then it is the mask of that length alone.
Two addresses, or two networks, are never printed the same.
-/

namespace SandboxNet

namespace Ipv4

variable {x y : Ipv4} {n : Nat} {cs : List Char}

/-- The word of the octets, the first one the least significant. -/
def littleEndian (x : Ipv4) : Nat :=
  x.a.toNat + 0x100 * x.b.toNat + 0x10000 * x.c.toNat + 0x1000000 * x.d.toNat

/-- The word of the octets, the first one the most significant. -/
def bits (x : Ipv4) : Nat :=
  0x1000000 * x.a.toNat + 0x10000 * x.b.toNat + 0x100 * x.c.toNat + x.d.toNat

theorem octets_lt (x : Ipv4) :
    x.a.toNat < 0x100 ∧ x.b.toNat < 0x100 ∧ x.c.toNat < 0x100 ∧ x.d.toNat < 0x100 :=
  ⟨x.a.toNat_lt, x.b.toNat_lt, x.c.toNat_lt, x.d.toNat_lt⟩

theorem bits_injective : Function.Injective bits := by
  intro x y same
  have octets := x.octets_lt
  have octets' := y.octets_lt
  cases x
  cases y
  simp only [bits, mk.injEq, ← UInt8.toNat_inj] at same octets octets' ⊢
  omega

theorem bits_lt (x : Ipv4) : x.bits < 0x100000000 := by
  have octets := x.octets_lt
  rw [bits]
  omega

theorem littleEndian_lt (x : Ipv4) : x.littleEndian < 0x100000000 := by
  have octets := x.octets_lt
  rw [littleEndian]
  omega

theorem littleEndian_ofLittleEndian (word : n < 0x100000000) :
    (ofLittleEndian n).littleEndian = n := by
  simp only [ofLittleEndian, littleEndian, UInt8.toNat_ofNat']
  omega

theorem ofLittleEndian_littleEndian (x : Ipv4) : ofLittleEndian x.littleEndian = x := by
  have octets := x.octets_lt
  cases x
  simp only [ofLittleEndian, littleEndian, mk.injEq, ← UInt8.toNat_inj, UInt8.toNat_ofNat'] at octets ⊢
  omega

/-- An address is read from the hexadecimal numerals of its word. -/
theorem ofKernelHex?_eq_some_iff : ofKernelHex? cs = some x ↔ Text.Unsigned 16 cs x.littleEndian := by
  rw [ofKernelHex?, Option.map_eq_some_iff]
  constructor
  · rintro ⟨n, read, rfl⟩
    obtain ⟨spelled, word⟩ := (Text.unsigned?_eq_some_iff (by decide)).1 read
    rwa [littleEndian_ofLittleEndian word]
  · intro spelled
    exact ⟨x.littleEndian, (Text.unsigned?_eq_some_iff (by decide)).2 ⟨spelled, x.littleEndian_lt⟩,
      x.ofLittleEndian_littleEndian⟩

theorem not_mem_digits {c : Char} (other : ∀ k < 16, Nat.digitChar k ≠ c) (n : Nat) :
    c ∉ (Text.digits 10 n).toList :=
  fun member => Text.ne_of_mem_digits (by decide) (by decide) member other rfl

/-- The octets are what stands between the dots. -/
theorem splitOn_text (x : Ipv4) : x.text.toList.splitOn '.' =
    [x.a, x.b, x.c, x.d].map fun octet => (Text.digits 10 octet.toNat).toList := by
  have undotted : ∀ part ∈ [x.a, x.b, x.c, x.d].map fun octet => (Text.digits 10 octet.toNat).toList,
      '.' ∉ part := by
    intro part member
    obtain ⟨octet, -, rfl⟩ := List.mem_map.1 member
    exact not_mem_digits (by decide) _
  rw [text, String.toList_intercalate, List.map_map]
  exact List.splitOn_intercalate '.' undotted (by simp)

theorem text_injective : Function.Injective text := by
  intro x y same
  have parts := congrArg (fun s : String => s.toList.splitOn '.') same
  have read : Function.Injective fun octet : UInt8 => (Text.digits 10 octet.toNat).toList := by
    intro m n same
    exact UInt8.toNat_inj.1 (Text.digits_injective (by decide) (by decide) (String.toList_inj.1 same))
  simp only [splitOn_text] at parts
  have octets := read.list_map parts
  cases x
  cases y
  simpa using octets

theorem slash_not_mem_text (x : Ipv4) : '/' ∉ x.text.toList := by
  have unslashed (octet : UInt8) : '/' ∉ (Text.digits 10 octet.toNat).toList :=
    not_mem_digits (by decide) _
  have spelled : x.text.toList = (Text.digits 10 x.a.toNat).toList ++ '.' ::
      ((Text.digits 10 x.b.toNat).toList ++ '.' ::
        ((Text.digits 10 x.c.toNat).toList ++ '.' :: (Text.digits 10 x.d.toNat).toList)) := by
    simp [text]
  simp [spelled, unslashed]

end Ipv4

namespace Ipv4Net

variable {mask : Ipv4} {len other : Fin 33}

/-- A mask whose leading bits are set, as many as the length says, and no others. -/
def IsMask (mask : Ipv4) (len : Fin 33) : Prop :=
  ∀ i < 32, mask.bits.testBit i = decide (32 ≤ i + len.val)

instance (mask : Ipv4) (len : Fin 33) : Decidable (IsMask mask len) :=
  inferInstanceAs (Decidable (∀ i < 32, mask.bits.testBit i = decide (32 ≤ i + len.val)))

theorem isMask_maskOfLen (len : Fin 33) : IsMask (maskOfLen len) len := by
  revert len
  decide

theorem IsMask.eq_maskOfLen (h : IsMask mask len) : mask = maskOfLen len := by
  apply Ipv4.bits_injective
  apply Nat.eq_of_testBit_eq
  intro i
  by_cases low : i < 32
  · rw [h i low, isMask_maskOfLen len i low]
  · have above : 2 ^ 32 ≤ 2 ^ i := Nat.pow_le_pow_right Nat.two_pos (Nat.not_lt.1 low)
    rw [Nat.testBit_lt_two_pow (Nat.lt_of_lt_of_le mask.bits_lt above),
      Nat.testBit_lt_two_pow (Nat.lt_of_lt_of_le (maskOfLen len).bits_lt above)]

theorem IsMask.unique (h : IsMask mask len) (h' : IsMask mask other) : len = other := by
  have agree (i : Nat) (low : i < 32) : 32 ≤ i + len.val ↔ 32 ≤ i + other.val :=
    decide_eq_decide.1 ((h i low).symm.trans (h' i low))
  have first := agree (32 - len.val)
  have second := agree (32 - other.val)
  omega

theorem maskOfLen_of_lenOfMask? (read : lenOfMask? mask = some len) : maskOfLen len = mask :=
  eq_of_beq (List.find?_some (p := (maskOfLen · == mask)) read)

/-- The masks that are read as a length are the masks of that length. -/
theorem lenOfMask?_eq_some_iff : lenOfMask? mask = some len ↔ IsMask mask len := by
  constructor
  · intro read
    rw [← maskOfLen_of_lenOfMask? read]
    exact isMask_maskOfLen len
  · intro h
    cases read : lenOfMask? mask with
    | none =>
        have differs := List.find?_eq_none.1 read len (List.mem_finRange len)
        exact absurd (beq_iff_eq.2 h.eq_maskOfLen.symm) differs
    | some other =>
        have same : IsMask mask other := maskOfLen_of_lenOfMask? read ▸ isMask_maskOfLen other
        rw [h.unique same]

theorem text_injective : Function.Injective text := by
  intro net other same
  have spelled (net : Ipv4Net) : net.text.toList =
      net.addr.text.toList ++ '/' :: (Text.digits 10 net.len).toList := by
    simp [text]
  have parts := congrArg String.toList same
  rw [spelled, spelled, List.append_cons_inj_of_notMem (Ipv4.slash_not_mem_text _)
    (Ipv4.not_mem_digits (by decide) _)] at parts
  obtain ⟨addr, -, len⟩ := parts
  have sameAddr := Ipv4.text_injective (String.toList_inj.1 addr)
  have sameLen : net.len = other.len :=
    Fin.ext (Text.digits_injective (by decide) (by decide) (String.toList_inj.1 len))
  cases net
  cases other
  simp_all

end Ipv4Net

end SandboxNet
