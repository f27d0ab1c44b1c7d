import SandboxNet.Text.Blank

/-! # Lines and words

How a text falls into lines and a line into words, and how a text is trimmed and searched. Texts
are lists of characters here, so that each function follows its text by recursion.
-/

namespace SandboxNet.Text

/-- Puts a character at the front of the first of some pieces, opening one if there is none. -/
def consHead (c : Char) : List (List Char) → List (List Char)
  | [] => [[c]]
  | piece :: pieces => (c :: piece) :: pieces

/-- The lines of a text. A line ends with a newline, which a carriage return may precede; the last
line may go without its ending. -/
def lines : List Char → List (List Char)
  | [] => []
  | '\n' :: rest => [] :: lines rest
  | '\r' :: '\n' :: rest => [] :: lines rest
  | c :: rest => consHead c (lines rest)

/-- The lines of a text that is written with a newline after it. A text that ends in a newline has an
empty line at its end then, and the empty text is one empty line. -/
def writtenLines (s : String) : List String :=
  (lines (s.toList ++ ['\n'])).map String.ofList

/-- The words of a text: its longest stretches without blanks. -/
def words : List Char → List (List Char)
  | [] => []
  | c :: rest =>
      if isBlank c then words rest
      else match rest with
        | [] => [[c]]
        | d :: _ => if isBlank d then [c] :: words rest else consHead c (words rest)

def tokens (cs : List Char) : List String :=
  (words cs).map String.ofList

/-- A text without the blanks at its two ends. -/
def trim (cs : List Char) : List Char :=
  ((cs.dropWhile isBlank).reverse.dropWhile isBlank).reverse

/-- What follows the first occurrence of `phrase`, if there is one. -/
def after? (phrase : List Char) : List Char → Option (List Char)
  | [] => if phrase.isEmpty then some [] else none
  | c :: rest =>
      if phrase.isPrefixOf (c :: rest) then some ((c :: rest).drop phrase.length)
      else after? phrase rest

/-- Whether `phrase` occurs in a text. -/
def contains (phrase cs : List Char) : Bool :=
  (after? phrase cs).isSome

/-- A string without the blanks at its two ends. -/
def trimmed (s : String) : String :=
  String.ofList (trim s.toList)

end SandboxNet.Text
