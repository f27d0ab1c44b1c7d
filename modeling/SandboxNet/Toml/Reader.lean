/-! # Reading a text piece by piece

A reader takes a piece off the front of a text or fails. An alternative is tried on the text that
the first choice failed on, and a repetition ends where a piece takes nothing, so that every reader
ends.
-/

namespace SandboxNet.Toml

/-- Takes an `α` off the front of a text, or fails. -/
abbrev Reader := StateT (List Char) Option

namespace Reader

variable {α β : Type}

/-- One character of a class. -/
def one (p : Char → Bool) : Reader Char
  | [] => none
  | c :: rest => if p c then some (c, rest) else none

def exactly (c : Char) : Reader Unit := do
  let _ ← one (· == c)

def phrase (s : String) : Reader Unit := s.toList.forM exactly

/-- As many characters of a class as there are. -/
def span (p : Char → Bool) : Reader (List Char) := fun s =>
  some (s.takeWhile p, s.dropWhile p)

/-- As many characters of a class as there are, one at least. -/
def span1 (p : Char → Bool) : Reader (List Char) := do
  let c ← one p
  let more ← span p
  return c :: more

/-- A certain number of characters of a class. -/
def exactCount (p : Char → Bool) : Nat → Reader (List Char)
  | 0 => return []
  | n + 1 => do
      let c ← one p
      let more ← exactCount p n
      return c :: more

def atEnd : Reader Unit := fun s => if s.isEmpty then some ((), []) else none

/-- The pieces at the front of a text, and the rest of it. -/
def pieces (item : Reader α) (s : List Char) : List α × List Char :=
  match item s with
  | none => ([], s)
  | some (a, rest) =>
      if rest.length < s.length then
        let more := pieces item rest
        (a :: more.1, more.2)
      else ([], s)
termination_by s.length

def many (item : Reader α) : Reader (List α) := fun s => some (pieces item s)

def opt (item : Reader α) : Reader (Option α) :=
  (do return some (← item)) <|> pure none

/-- Whether a piece is there, which is then taken. -/
def present (item : Reader α) : Reader Bool := do
  return (← opt item).isSome

/-- One piece or more, with something between each two. -/
def separated (item : Reader α) (between : Reader β) : Reader (List α) := do
  let first ← item
  let more ← many (between *> item)
  return first :: more

/-- What a reader makes of a whole text. -/
def whole? (item : Reader α) (s : List Char) : Option α :=
  ((item <* atEnd).run s).map (·.1)

end Reader

end SandboxNet.Toml
