/-! # Decoding bytes that may not be text

A tool prints bytes. They are read as UTF-8, and each longest stretch that starts a character and
cannot be finished becomes one replacement character, so that decoding never fails.
-/

namespace SandboxNet.Text

/-- Stands for bytes that are no character. -/
def replacement : Char := '\uFFFD'

/-- A byte of a character other than its first. -/
def isTail (b : UInt8) : Bool := 0x80 ≤ b && b ≤ 0xBF

/-- Whether `b` may follow `first`, the first byte of a character of three bytes. -/
def isSecondOfThree (first b : UInt8) : Bool :=
  if first = 0xE0 then 0xA0 ≤ b && b ≤ 0xBF
  else if first = 0xED then 0x80 ≤ b && b ≤ 0x9F
  else isTail b

/-- Whether `b` may follow `first`, the first byte of a character of four bytes. -/
def isSecondOfFour (first b : UInt8) : Bool :=
  if first = 0xF0 then 0x90 ≤ b && b ≤ 0xBF
  else if first = 0xF4 then 0x80 ≤ b && b ≤ 0x8F
  else isTail b

/-- The value of a byte without the marks of its place in a character. -/
def payload (b : UInt8) (weight : Nat) : Nat := b.toNat % weight

/-- Reads bytes as UTF-8 and replaces what is not a character. -/
def decodeLossy : List UInt8 → List Char
  | [] => []
  | a :: rest =>
      if a < 0x80 then Char.ofNat a.toNat :: decodeLossy rest
      else if 0xC2 ≤ a && a ≤ 0xDF then
        match rest with
        | b :: after =>
            if isTail b then
              Char.ofNat (payload a 0x20 * 0x40 + payload b 0x40) :: decodeLossy after
            else replacement :: decodeLossy (b :: after)
        | [] => [replacement]
      else if 0xE0 ≤ a && a ≤ 0xEF then
        match rest with
        | b :: c :: after =>
            if !isSecondOfThree a b then replacement :: decodeLossy (b :: c :: after)
            else if !isTail c then replacement :: decodeLossy (c :: after)
            else
              Char.ofNat ((payload a 0x10 * 0x40 + payload b 0x40) * 0x40 + payload c 0x40) ::
                decodeLossy after
        | [b] =>
            if isSecondOfThree a b then [replacement] else replacement :: decodeLossy [b]
        | [] => [replacement]
      else if 0xF0 ≤ a && a ≤ 0xF4 then
        match rest with
        | b :: c :: d :: after =>
            if !isSecondOfFour a b then replacement :: decodeLossy (b :: c :: d :: after)
            else if !isTail c then replacement :: decodeLossy (c :: d :: after)
            else if !isTail d then replacement :: decodeLossy (d :: after)
            else
              Char.ofNat (((payload a 0x08 * 0x40 + payload b 0x40) * 0x40 + payload c 0x40) * 0x40
                + payload d 0x40) :: decodeLossy after
        | [b, c] =>
            if !isSecondOfFour a b then replacement :: decodeLossy [b, c]
            else if !isTail c then replacement :: decodeLossy [c]
            else [replacement]
        | [b] => if isSecondOfFour a b then [replacement] else replacement :: decodeLossy [b]
        | [] => [replacement]
      else replacement :: decodeLossy rest
termination_by bytes => bytes.length

end SandboxNet.Text
