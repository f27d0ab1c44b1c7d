/-! # Files to be read

What may be found at a path, and how reading it as text can fail.
-/

namespace SandboxNet

/-- What is at a path. -/
inductive File where
  | missing
  | directory
  /-- Something that may be neither read nor written, for the given cause. -/
  | barred (cause : String)
  | bytes (content : List UInt8)
  /-- A file that may be read but not written, for the given cause. -/
  | readOnly (content : List UInt8) (cause : String)
  deriving DecidableEq, Repr

namespace File

/-- What is said of a path with nothing there. -/
def notFound : String := "No such file or directory (os error 2)"

/-- What is said of a directory that should be a file. -/
def isDirectory : String := "Is a directory (os error 21)"

/-- The text that the content of a file encodes, if it encodes one. -/
def decode (content : List UInt8) : Except String String :=
  match String.fromUTF8? ⟨content.toArray⟩ with
  | some text => .ok text
  | none => .error "stream did not contain valid UTF-8"

/-- The text of a file, or why there is none. -/
def read : File → Except String String
  | missing => .error notFound
  | directory => .error isDirectory
  | barred cause => .error cause
  | bytes content | readOnly content _ => decode content

def ofText (text : String) : File := bytes text.toUTF8.toList

/-- What can be read is a file, which may or may not be written. -/
theorem read_eq_ok_iff {file : File} {text : String} : file.read = .ok text ↔
    ∃ content, (file = bytes content ∨ ∃ cause, file = readOnly content cause) ∧
      String.fromUTF8? ⟨content.toArray⟩ = some text := by
  have decode_eq_ok_iff (content : List UInt8) :
      decode content = .ok text ↔ String.fromUTF8? ⟨content.toArray⟩ = some text := by
    unfold decode
    cases String.fromUTF8? ⟨content.toArray⟩ <;> simp
  cases file <;> simp [read, decode_eq_ok_iff]

/-- The file after a text was written over it, or why it could not be. -/
def write (text : String) : File → Except String File
  | directory => .error isDirectory
  | barred cause | readOnly _ cause => .error cause
  | missing | bytes _ => .ok (ofText text)

end File

end SandboxNet
