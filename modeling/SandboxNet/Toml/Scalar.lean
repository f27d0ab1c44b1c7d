import SandboxNet.Toml.Quotation
import SandboxNet.Toml.Value

/-! # Numbers, dates and booleans

An integer must fit into 64 bits. Of a floating number only the grammar counts, and that it is not
so large that it would round to infinity.
-/

namespace SandboxNet.Toml

open Reader

/-- Whether a character is a digit in a radix of at most sixteen. -/
def isDigit (radix : Nat) (c : Char) : Bool := (Text.digit? radix c).isSome

/-- Digits, between which single underscores may stand; they are left out. -/
def digitRun (radix : Nat) : Reader (List Char) := do
  let first ← one (isDigit radix)
  let more ← many (opt (exactly '_') *> one (isDigit radix))
  return first :: more

/-- Decimal digits without leading zeros. -/
def decimalRun : Reader (List Char) :=
  (do
    let first ← one fun c => '1' ≤ c && c ≤ '9'
    let more ← many (opt (exactly '_') *> one (isDigit 10))
    return first :: more) <|>
  (exactly '0' *> pure ['0'])

/-- Whether a minus sign was taken; a plus sign counts for nothing. -/
def sign : Reader Bool :=
  (exactly '-' *> pure true) <|> (opt (exactly '+') *> pure false)

def decimal (digits : List Char) : Nat := (Text.digits? 10 digits).getD 0

/-- An integer between bounds. -/
def bounded (n : Int) : Reader Value :=
  if -0x8000000000000000 ≤ n ∧ n < 0x8000000000000000 then return .integer n else failure

/-- An integer after the mark of its radix. -/
def radixInteger (mark : String) (radix : Nat) : Reader Value := do
  phrase mark
  let digits ← digitRun radix
  bounded ((Text.digits? radix digits).getD 0)

def decimalInteger : Reader Value := do
  let negative ← sign
  let n := decimal (← decimalRun)
  bounded (if negative then -(n : Int) else n)

def integer : Reader Value :=
  radixInteger "0x" 16 <|> radixInteger "0o" 8 <|> radixInteger "0b" 2 <|> decimalInteger

def exponent : Reader Int := do
  let _ ← one fun c => c = 'e' || c = 'E'
  let negative ← sign
  let n := decimal (← digitRun 10)
  return if negative then -(n : Int) else n

/-- The least number that rounds to infinity in 64 bits. -/
def infiniteFrom : Nat := Nat.pow 2 1024 - Nat.pow 2 970

/-- Whether `digits · 10 ^ e` rounds to infinity. That least number has 309 digits, so only a number
of as many is compared with it. -/
def roundsToInfinity (digits : List Char) (e : Int) : Bool :=
  let kept := digits.dropWhile (· == '0')
  let places := kept.length + e
  if kept.isEmpty || places < 309 then false
  else if 309 < places then true
  else infiniteFrom * Nat.pow 10 (-e).toNat ≤ decimal kept * Nat.pow 10 e.toNat

/-- A floating number in digits. -/
def digitFloat : Reader Value := do
  let negative ← sign
  let whole ← decimalRun
  let fraction ← opt (exactly '.' *> digitRun 10)
  let e ← if fraction.isSome then opt exponent else some <$> exponent
  let fraction := fraction.getD []
  if !negative && roundsToInfinity (whole ++ fraction) (e.getD 0 - fraction.length) then failure
  else return .float

/-- Infinity, or no number. -/
def namedFloat : Reader Value := do
  let _ ← sign
  phrase "inf" <|> phrase "nan"
  return .float

/-- A number of some digits between two bounds. -/
def fixedNumber (count least greatest : Nat) : Reader Nat := do
  let n := decimal (← exactCount (isDigit 10) count)
  if least ≤ n ∧ n ≤ greatest then return n else failure

def isLeap (year : Nat) : Bool := year % 4 = 0 && (year % 100 ≠ 0 || year % 400 = 0)

def daysOf (year month : Nat) : Nat :=
  if month = 2 then if isLeap year then 29 else 28
  else if month = 4 || month = 6 || month = 9 || month = 11 then 30
  else 31

def date : Reader Unit := do
  let year ← fixedNumber 4 0 9999
  exactly '-'
  let month ← fixedNumber 2 1 12
  exactly '-'
  let _ ← fixedNumber 2 1 (daysOf year month)

/-- A time of day, which may be that of a leap second. -/
def time : Reader Unit := do
  let _ ← fixedNumber 2 0 23
  exactly ':'
  let _ ← fixedNumber 2 0 59
  exactly ':'
  let _ ← fixedNumber 2 0 60
  let _ ← opt (exactly '.' *> span1 (isDigit 10))

/-- How far a time is from universal time. -/
def offset : Reader Unit :=
  (do let _ ← one fun c => c = 'Z' || c = 'z') <|>
  (do
    let _ ← one fun c => c = '+' || c = '-'
    let _ ← fixedNumber 2 0 23
    exactly ':'
    let _ ← fixedNumber 2 0 59)

/-- A date, perhaps with a time, or a time alone. -/
def dateTime : Reader Value := do
  (do
    date
    let _ ← opt (one (fun c => c = 'T' || c = 't' || c = ' ') *> time *> opt offset)) <|> time
  return .dateTime

def boolean : Reader Value :=
  (phrase "true" *> pure (.boolean true)) <|> (phrase "false" *> pure (.boolean false))

/-- A value without parts. -/
def scalar : Reader Value :=
  (.text <$> string) <|> dateTime <|> digitFloat <|> namedFloat <|> integer <|> boolean

end SandboxNet.Toml
