import SandboxNet.Text.Quoted
import SandboxNet.Text.Lines

/-! # Log events

An event is a level, a message and named fields. `Event.text` is its only rendering, `Event.lines`
is what a reader of the log sees of it, and a threshold decides which events are written.
-/

namespace SandboxNet.Log

/-- How much an event matters. -/
inductive Level where
  | trace
  | debug
  | info
  | warn
  | error
  deriving DecidableEq, Repr

namespace Level

/-- Every level, from the most talkative to the gravest. -/
def all : List Level := [trace, debug, info, warn, error]

/-- The name of a level in a configuration. -/
def name : Level → String
  | trace => "trace"
  | debug => "debug"
  | info => "info"
  | warn => "warn"
  | error => "error"

/-- The name of a level in a log line. -/
def label : Level → String
  | trace => "TRACE"
  | debug => "DEBUG"
  | info => "INFO"
  | warn => "WARN"
  | error => "ERROR"

/-- How talkative a level is, one for errors. -/
def verbosity : Level → Nat
  | trace => 5
  | debug => 4
  | info => 3
  | warn => 2
  | error => 1

/-- The level of a name in lower case. -/
def ofName? (s : String) : Option Level :=
  all.find? fun level => level.name == s

end Level

/-- The value of a field. -/
inductive Value where
  /-- A text as it is. -/
  | shown (text : String)
  /-- A text between quotes. -/
  | quoted (text : String)
  | number (n : Nat)
  deriving DecidableEq, Repr

/-- A value as it stands in a log line. -/
def Value.text : Value → String
  | shown text => text
  | quoted text => Text.quoted text
  | number n => Text.digits 10 n

structure Event where
  level : Level
  message : String
  fields : List (String × Value)
  deriving DecidableEq, Repr

/-- An event as a text: its level and message, then its fields. -/
def Event.text (e : Event) : String :=
  " ".intercalate
    (e.level.label :: e.message :: e.fields.map fun (name, value) => name ++ "=" ++ value.text)

/-- The log lines of an event. The first one has no blanks at its ends; those that a newline in a
value breaks off stay as they are. -/
def Event.lines (e : Event) : List String :=
  match Text.writtenLines e.text with
  | [] => []
  | first :: rest => Text.trimmed first :: rest

/-- The verbosity up to which events are written. -/
structure Threshold where
  verbosity : Nat
  deriving DecidableEq, Repr

namespace Threshold

def off : Threshold := ⟨0⟩

/-- Writes the events of a level and the graver ones. -/
def upTo (level : Level) : Threshold := ⟨level.verbosity⟩

/-- Reads a threshold: `off`, a level in either letter case, or a verbosity in one digit. An empty
text keeps errors only, and any other text names something that logs nothing here. -/
def ofText (s : String) : Threshold :=
  let lower := s.toLower
  if s = "" then upTo .error
  else if lower = "off" then off
  else match Level.ofName? lower with
    | some level => upTo level
    | none => match s.toList with
      | [c] => ⟨(Text.digit? 6 c).getD 0⟩
      | _ => off

def admits (t : Threshold) (e : Event) : Bool :=
  e.level.verbosity ≤ t.verbosity

end Threshold

end SandboxNet.Log
