/-! # Options and operands

How the arguments at one level of a command line are understood. An option may have its value
attached, or take the next argument for it. Such a value, and an operand, is settled late, with the
next option or operand or at the end: only then is it found missing, repeated or wrong. So a request
for help ends the reading before whatever is wrong after it, but not before what is wrong before it.
-/

namespace SandboxNet.CommandLine

/-- Why arguments lead to no command. -/
inductive Stop where
  | help
  /-- The version of the named program was asked for. -/
  | version (title : String)
  | misuse
  deriving DecidableEq, Repr

/-- What an option stands for. -/
inductive Meaning where
  | help
  | version
  /-- A switch that is on when the option is given. -/
  | switch
  /-- A value, which must be an accepted one. -/
  | value (accepts : String → Bool)

/-- An option with its spellings. -/
structure Opt where
  long : String
  short : Option Char
  meaning : Meaning

/-- An operand: its name, and which values it accepts. -/
structure Operand where
  name : String
  accepts : String → Bool

/-- What may be given at one level of a command line. -/
structure Grammar where
  title : String
  options : List Opt
  operands : List Operand

/-- What was given, by name; a switch has the empty value. -/
abbrev Given := List (String × String)

/-- Something given that is not settled yet, with its value once there is one. -/
structure Pending where
  name : String
  accepts : String → Bool
  value : Option String

/-- What was understood so far. -/
structure Progress where
  given : Given
  pending : Option Pending
  /-- The operands that are still to come. -/
  operands : List Operand

def standardOptions : List Opt := [
  ⟨"config", some 'c', .value (· ≠ "")⟩,
  ⟨"verbose", some 'v', .switch⟩,
  ⟨"help", some 'h', .help⟩,
  ⟨"version", some 'V', .version⟩]

namespace Progress

/-- Records a value that is right and the first of its name. -/
def record (p : Progress) (name value : String) : Except Stop Progress :=
  if (p.given.lookup name).isSome then .error .misuse
  else .ok { p with given := p.given ++ [(name, value)] }

def settle (p : Progress) : Except Stop Progress :=
  match p.pending with
  | none => .ok p
  | some ⟨name, accepts, some value⟩ =>
      if accepts value then { p with pending := none }.record name value else .error .misuse
  | some ⟨_, _, none⟩ => .error .misuse

/-- Whether the next argument is the value of the option before it. -/
def awaitsValue (p : Progress) : Bool :=
  match p.pending with
  | some ⟨_, _, none⟩ => true
  | _ => false

/-- Takes an argument as the value of the option before it. -/
def fill (p : Progress) (arg : String) : Progress :=
  { p with pending := p.pending.map fun pending => { pending with value := some arg } }

/-- Settles what is pending and leaves something else so. -/
def await (p : Progress) (next : Pending) : Except Stop Progress := do
  return { ← p.settle with pending := some next }

/-- Takes an operand, if one is still to come. -/
def operand (p : Progress) (arg : String) : Except Stop Progress :=
  match p.operands with
  | [] => .error .misuse
  | ⟨name, accepts⟩ :: operands => { p with operands }.await ⟨name, accepts, some arg⟩

end Progress

namespace Grammar

def start (g : Grammar) : Progress := ⟨[], none, g.operands⟩

/-- Takes an option with the value attached to it, if there is one. -/
def option (g : Grammar) (o : Opt) (attached : Option String) (p : Progress) :
    Except Stop Progress :=
  match o.meaning, attached with
  | .help, none => p.settle.bind fun _ => .error .help
  | .version, none => p.settle.bind fun _ => .error (.version g.title)
  | .switch, none => p.settle.bind fun p => p.record o.long ""
  | .value accepts, none => p.await ⟨o.long, accepts, none⟩
  | .value accepts, some value => (p.await ⟨o.long, accepts, some value⟩).bind Progress.settle
  | _, some _ => .error .misuse

/-- Takes a long option, without its dashes. -/
def longOption (g : Grammar) (body : List Char) (p : Progress) : Except Stop Progress :=
  let name := String.ofList (body.takeWhile (· ≠ '='))
  let attached := match body.dropWhile (· ≠ '=') with
    | [] => none
    | _ :: value => some (String.ofList value)
  match g.options.find? (·.long == name) with
  | some o => g.option o attached p
  | none => .error .misuse

/-- The value attached to a short option, which an equals sign may set off. -/
def attachedValue : List Char → Option String
  | [] => none
  | '=' :: value => some (String.ofList value)
  | value => some (String.ofList value)

/-- Takes short options that share a dash. The first that has a value takes the rest for it. -/
def shortOptions (g : Grammar) : List Char → Progress → Except Stop Progress
  | [], p => .ok p
  | c :: rest, p =>
      match g.options.find? (·.short == some c) with
      | none => .error .misuse
      | some o =>
          match o.meaning with
          | .value _ => g.option o (attachedValue rest) p
          | _ => (g.option o none p).bind (g.shortOptions rest)

/-- Takes arguments up to the first that is neither an option, nor its value, nor an operand. What
is left starts with that argument. After two dashes, everything is an operand. -/
def read (g : Grammar) : List String → Progress → Except Stop (Progress × List String)
  | [], p => .ok (p, [])
  | arg :: rest, p =>
      match arg.toList with
      | ['-', '-'] => do
          let p ← rest.foldlM Progress.operand p
          return (p, [])
      | '-' :: '-' :: body => (g.longOption body p).bind (g.read rest)
      | '-' :: c :: body => (g.shortOptions (c :: body) p).bind (g.read rest)
      | _ =>
          if p.awaitsValue then g.read rest (p.fill arg)
          else if p.operands.isEmpty then .ok (p, arg :: rest)
          else (p.operand arg).bind (g.read rest)

/-- What arguments give at the last level, where nothing may be left. -/
def readAll (g : Grammar) (args : List String) : Except Stop Given := do
  match ← g.read args g.start with
  | (p, []) => return (← p.settle).given
  | _ => throw .misuse

end Grammar

end SandboxNet.CommandLine
