import SandboxNet.Text.Number
import SandboxNet.Toml.Reader

/-! # Blanks, strings and keys

What stands between the words of a document, its strings with their escapes, and its keys.
-/

namespace SandboxNet.Toml

open Reader

/-- Whether a character may stand between the words of a line. -/
def isGap (c : Char) : Bool := c = ' ' || c = '\t'

/-- Whether a character may stand in comments and strings: no control character but the tab. -/
def isPlain (c : Char) : Bool := c = '\t' || (' ' ≤ c && c ≤ '~') || 0x80 ≤ c.toNat

/-- Blanks within a line. -/
def gap : Reader (List Char) := span isGap

/-- The end of a line that another line follows. -/
def newline : Reader Unit := exactly '\n' <|> (exactly '\r' *> exactly '\n')

def comment : Reader Unit := do
  exactly '#'
  let _ ← span isPlain

/-- What may stand between the items of an array: blanks, lines and comments. -/
def wideGap : Reader Unit := do
  let _ ← many ((do let _ ← span1 isGap) <|> newline <|> (comment *> newline))

/-- The end of a statement: blanks, perhaps a comment, and the end of the line. -/
def lineEnd : Reader Unit := do
  let _ ← gap
  let _ ← opt comment
  newline <|> atEnd

/-- The character of a number, if it is one. -/
def character? (n : Nat) : Option Char :=
  if n.isValidChar then some (Char.ofNat n) else none

/-- A character given by a number of hexadecimal digits. -/
def numbered (count : Nat) : Reader Char := do
  let digits ← exactCount (fun c => (Text.digit? 16 c).isSome) count
  StateT.lift ((Text.digits? 16 digits).bind character?)

/-- A character after a backslash. -/
def escape : Reader Char := do
  match ← one fun c => "bfnrt\"\\uU".toList.contains c with
  | 'b' => return '\x08'
  | 'f' => return '\x0c'
  | 'n' => return '\n'
  | 'r' => return '\r'
  | 't' => return '\t'
  | 'u' => numbered 4
  | 'U' => numbered 8
  | c => return c

/-- A string on one line, with escapes. -/
def basicString : Reader String := do
  exactly '"'
  let content ← many (one (fun c => isPlain c && c ≠ '"' && c ≠ '\\') <|> (exactly '\\' *> escape))
  exactly '"'
  return String.ofList content

/-- A string on one line, taken as it stands. -/
def literalString : Reader String := do
  exactly '\''
  let content ← span fun c => isPlain c && c ≠ '\''
  exactly '\''
  return String.ofList content

/-- One or two quotes that are content. -/
def fewQuotes (quote : Char) : Reader (List Char) := do
  let quotes ← span1 (· == quote)
  if quotes.length ≤ 2 then return quotes else failure

/-- The quotes at the end of a string of several lines: three close it, and up to two more before
them are content. -/
def closingQuotes (quote : Char) : Reader (List Char) := fun s =>
  let count := (s.takeWhile (· == quote)).length
  if 3 ≤ count then some (List.replicate (min (count - 3) 2) quote, s.drop (min count 5)) else none

/-- The end of a line in a string. -/
def newlineChar : Reader (List Char) := newline *> pure ['\n']

/-- A line that goes on after its end, and after the blanks that follow. -/
def lineJoin : Reader (List Char) := do
  let _ ← gap
  newline
  let _ ← many ((do let _ ← one isGap) <|> newline)
  return []

/-- A string of several lines between three quotes at each end. A line end right after the first
three is dropped. -/
def longString (quote : Char) (piece : Reader (List Char)) : Reader String := do
  let _ ← exactCount (· == quote) 3
  let _ ← opt newline
  let content ← many (piece <|> newlineChar <|> fewQuotes quote)
  let last ← closingQuotes quote
  return String.ofList (content.flatten ++ last)

/-- A string of several lines, with escapes. -/
def longBasicString : Reader String :=
  longString '"'
    ((do return [← one fun c => isPlain c && c ≠ '"' && c ≠ '\\']) <|>
      (exactly '\\' *> ((do return [← escape]) <|> lineJoin)))

/-- A string of several lines, taken as it stands. -/
def longLiteralString : Reader String :=
  longString '\'' (do return [← one fun c => isPlain c && c ≠ '\''])

def string : Reader String :=
  longBasicString <|> basicString <|> longLiteralString <|> literalString

/-- Whether a character may stand in a key without quotes. -/
def isBare (c : Char) : Bool := c.isAlphanum || c = '_' || c = '-'

/-- A key without dots. -/
def simpleKey : Reader String :=
  (do return String.ofList (← span1 isBare)) <|> basicString <|> literalString

/-- The most parts that a dotted key may have. -/
def longestKey : Nat := 79

/-- A dotted key with the blanks around it: the path to its last part, and that part. -/
def dottedKey : Reader (List String × String) := do
  let parts ← separated (gap *> simpleKey <* gap) (exactly '.')
  match parts.getLast? with
  | some last => if parts.length ≤ longestKey then return (parts.dropLast, last) else failure
  | none => failure

end SandboxNet.Toml
