import SandboxNet.Text.Number
import SandboxNet.Text.Printable

/-! # Quoted text

Log fields and messages that hold a name of unknown content show it between double quotes, with
every quote, backslash and hidden character escaped, so that the name can be read back.
-/

namespace SandboxNet.Text

/-- A character by its number, in hexadecimal between braces. -/
def numbered (c : Char) : List Char :=
  "\\u\x7b".toList ++ Nat.toDigits 16 c.toNat ++ ['\x7d']

/-- A character as it stands inside double quotes. -/
def escaped (c : Char) : List Char :=
  match c with
  | '\x00' => ['\\', '0']
  | '\t' => ['\\', 't']
  | '\r' => ['\\', 'r']
  | '\n' => ['\\', 'n']
  | '"' => ['\\', '"']
  | '\\' => ['\\', '\\']
  | c => if isPrintable c then [c] else numbered c

def quoted (s : String) : String :=
  String.ofList ('"' :: s.toList.flatMap escaped ++ ['"'])

end SandboxNet.Text
