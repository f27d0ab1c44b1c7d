/-! # Numbers in text

Unsigned numbers in a radix of at most sixteen: one optional plus sign, then digits of either letter
case with any number of leading zeros, and a bound that the value must stay below.
-/

namespace SandboxNet.Text

/-- The value of a digit, if it is one in `radix`. -/
def digit? (radix : Nat) (c : Char) : Option Nat :=
  let value :=
    if '0' ≤ c ∧ c ≤ '9' then some (c.toNat - '0'.toNat)
    else if 'a' ≤ c ∧ c ≤ 'f' then some (c.toNat - 'a'.toNat + 10)
    else if 'A' ≤ c ∧ c ≤ 'F' then some (c.toNat - 'A'.toNat + 10)
    else none
  value.filter (· < radix)

/-- The value of the digits `cs` read after digits worth `value`. -/
def digitsFrom? (radix value : Nat) : List Char → Option Nat
  | [] => some value
  | c :: rest => (digit? radix c).bind fun d => digitsFrom? radix (value * radix + d) rest

/-- The value of one or more digits. -/
def digits? (radix : Nat) : List Char → Option Nat
  | [] => none
  | c :: rest => digitsFrom? radix 0 (c :: rest)

/-- A text without its leading plus sign, if it has one. -/
def dropPlus : List Char → List Char
  | '+' :: rest => rest
  | cs => cs

/-- An unsigned number below `bound`. -/
def unsigned? (radix bound : Nat) (cs : List Char) : Option Nat :=
  (digits? radix (dropPlus cs)).filter (· < bound)

/-- The digits of a number in a radix of at most sixteen, letters in lower case. -/
def digits (radix n : Nat) : String :=
  String.ofList (Nat.toDigits radix n)

end SandboxNet.Text
