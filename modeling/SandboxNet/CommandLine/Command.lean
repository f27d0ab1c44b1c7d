import SandboxNet.CommandLine.Grammar
import SandboxNet.Text.Number
import SandboxNet.Uplink

/-! # Commands

The commands that can be given, and how a command line is understood as one.
-/

namespace SandboxNet

/-- The shells that can complete command lines. -/
inductive Shell where
  | bash
  | elvish
  | fish
  | powershell
  | zsh
  deriving DecidableEq, Repr

namespace Shell

def ofName? : String → Option Shell
  | "bash" => some bash
  | "elvish" => some elvish
  | "fish" => some fish
  | "powershell" => some powershell
  | "zsh" => some zsh
  | _ => none

end Shell

inductive Command where
  | setup (mode : Option String) (uid gid : Option UInt32) (json : Bool)
  /-- Tears down the sandbox network behind a device. -/
  | cleanup (tap : String) (ignoreMissing : Bool)
  | info (interface : String) (json : Bool)
  | index
  | completion (shell : Shell)
  deriving DecidableEq, Repr

/-- A command line understood. -/
structure Invocation where
  config : Option String
  verbose : Bool
  command : Command
  deriving DecidableEq, Repr

namespace CommandLine

def programName : String := "tapnet"

/-- The first word of a command. -/
inductive Verb where
  | setup
  | cleanup
  | info
  | index
  | completion
  deriving DecidableEq, Repr

namespace Verb

def all : List Verb := [setup, cleanup, info, index, completion]

def name : Verb → String
  | setup => "setup"
  | cleanup => "cleanup"
  | info => "info"
  | index => "index"
  | completion => "completion"

def ofName? (s : String) : Option Verb :=
  all.find? fun verb => verb.name == s

end Verb

/-- The number of a user or a group. A minus sign suits zero alone. -/
def idOf? (s : String) : Option UInt32 :=
  match s.toList with
  | '-' :: cs => ((Text.digits? 10 cs).filter (· = 0)).map UInt32.ofNat
  | cs => (Text.unsigned? 10 0x100000000 cs).map UInt32.ofNat

def jsonOption : Opt := ⟨"json", none, .switch⟩

def Verb.grammar (verb : Verb) : Grammar where
  title := programName ++ "-" ++ verb.name
  options := standardOptions ++
    match verb with
    | setup => [
        ⟨"mode", some 'm', .value fun _ => true⟩,
        ⟨"uid", none, .value fun s => (idOf? s).isSome⟩,
        ⟨"gid", none, .value fun s => (idOf? s).isSome⟩,
        jsonOption]
    | cleanup => [⟨"ignore-missing", none, .switch⟩]
    | info => [jsonOption]
    | index | completion => []
  operands := match verb with
    | setup | index => []
    | cleanup => [⟨"tap", fun _ => true⟩]
    | info => [⟨"iface", fun _ => true⟩]
    | completion => [⟨"shell", fun s => (Shell.ofName? s).isSome⟩]

/-- The options before the verb. -/
def rootGrammar : Grammar := ⟨programName, standardOptions, []⟩

def isOn (given : Given) (name : String) : Bool := (given.lookup name).isSome

/-- The command of a verb with what was given, unless an operand is missing. -/
def Verb.command? (given : Given) : Verb → Option Command
  | setup => some (.setup (given.lookup "mode") ((given.lookup "uid").bind idOf?)
      ((given.lookup "gid").bind idOf?) (isOn given "json"))
  | cleanup => (given.lookup "tap").map fun tap => .cleanup tap (isOn given "ignore-missing")
  | info => some (.info ((given.lookup "iface").getD Uplink.name) (isOn given "json"))
  | index => some .index
  | completion => ((given.lookup "shell").bind Shell.ofName?).map .completion

/-- How a request for help about a command ends: it must name at most one. -/
def helpAbout : List String → Stop
  | [] => .help
  | [word] => if word = "help" || (Verb.ofName? word).isSome then .help else .misuse
  | _ => .misuse

/-- Understands a command line, without the name of the program. The options after the verb go
before those that precede it, and what is pending before the verb is settled last. -/
def parse (args : List String) : Except Stop Invocation := do
  match ← rootGrammar.read args rootGrammar.start with
  | (_, []) => throw .misuse
  | (p, word :: rest) =>
      match Verb.ofName? word with
      | none => throw (if word = "help" then helpAbout rest else .misuse)
      | some verb =>
          let given ← verb.grammar.readAll rest
          match verb.command? given with
          | none => throw .misuse
          | some command =>
              let before := (← p.settle).given
              return {
                config := (given.lookup "config").or (before.lookup "config")
                verbose := isOn given "verbose" || isOn before "verbose"
                command }

end CommandLine

end SandboxNet
