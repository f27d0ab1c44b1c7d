/-! # JSON strings and objects

Printing for a result that other programs read: strings with their escapes, and objects on one line
or indented.
-/

namespace SandboxNet.Text

/-- Four hexadecimal digits of a number below 65536. -/
def fourDigits (n : Nat) : List Char :=
  [n / 0x1000 % 0x10, n / 0x100 % 0x10, n / 0x10 % 0x10, n % 0x10].map Nat.digitChar

/-- A character as it stands in a JSON string. -/
def jsonEscaped (c : Char) : List Char :=
  match c with
  | '"' => ['\\', '"']
  | '\\' => ['\\', '\\']
  | '\x08' => ['\\', 'b']
  | '\x0c' => ['\\', 'f']
  | '\n' => ['\\', 'n']
  | '\r' => ['\\', 'r']
  | '\t' => ['\\', 't']
  | c => if c.toNat < 0x20 then '\\' :: 'u' :: fourDigits c.toNat else [c]

def jsonString (s : String) : String :=
  String.ofList ('"' :: s.toList.flatMap jsonEscaped ++ ['"'])

/-- An object on one line, its members given by key and printed value. -/
def jsonObject (members : List (String × String)) : String :=
  "\x7b" ++ ",".intercalate (members.map fun (key, value) => jsonString key ++ ":" ++ value) ++
    "\x7d"

/-- An object with members, each on a line of its own and set in by `indent`. -/
def jsonBlock (indent : String) (members : List (String × String)) : String :=
  let inner := indent ++ "  "
  "\x7b\n" ++ ",\n".intercalate
    (members.map fun (key, value) => inner ++ jsonString key ++ ": " ++ value) ++
    "\n" ++ indent ++ "\x7d"

end SandboxNet.Text
