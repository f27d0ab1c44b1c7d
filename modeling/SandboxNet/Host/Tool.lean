import SandboxNet.Error
import SandboxNet.NatRule
import SandboxNet.Tc.Filter
import SandboxNet.Tc.Qdisc
import SandboxNet.Text.Lines
import SandboxNet.Text.Utf8

/-! # Host tools

Queueing disciplines, filters, masquerade rules and deletions on a real host are left to its tools.
Here are the command lines, and what the answers of the tools mean.
-/

namespace SandboxNet.Host

/-- A program and its arguments. -/
abbrev Command := List String

namespace Command

def line (command : Command) : String := " ".intercalate command

/-- Whether an argument has a zero byte in it, which no program can be given. -/
def hasZeroByte (command : Command) : Bool := command.any (·.toList.contains '\x00')

def deleteLink (link : String) : Command := ["ip", "link", "delete", "dev", link]

def showQdiscs (link : String) : Command := ["tc", "qdisc", "show", "dev", link]

/-- Where a queueing discipline is attached. -/
def place (q : Tc.Qdisc) : List String :=
  if q.parent = Tc.Handle.root then ["root"] else ["parent", q.parent.text]

def addQdisc (link : String) (q : Tc.Qdisc) : Command :=
  ["tc", "qdisc", "add", "dev", link] ++
    if q.isIngress then ["handle", "ffff:", "ingress"]
    else place q ++ ["handle", q.handle.text, q.kind]

def delQdisc (link : String) (q : Tc.Qdisc) : Command :=
  ["tc", "qdisc", "del", "dev", link] ++
    if q.isIngress then ["ingress"] else place q ++ ["handle", q.handle.text]

/-- Lists the filters of a link under one parent. -/
def showFilters (link : String) (parent : Tc.Handle) : Command :=
  ["tc", "filter", "show", "dev", link, "parent", parent.text]

/-- Attaches a filter that redirects to `target`. -/
def addFilter (link : String) (f : Tc.Filter) (target : String) : Command :=
  ["tc", "filter", "add", "dev", link, "parent", f.parent.text, "protocol", f.protocol,
    "prio", Text.digits 10 f.priority.toNat, "u32", "match", "u32", "0", "0",
    "action", "mirred", "egress", "redirect", "dev", target]

/-- Deletes the filters of one parent and priority. -/
def delFilter (link : String) (f : Tc.Filter) : Command :=
  ["tc", "filter", "del", "dev", link, "parent", f.parent.text,
    "prio", Text.digits 10 f.priority.toNat]

/-- Checks for a masquerade rule, appends or deletes it: `action` is `-C`, `-A` or `-D`. -/
def natRule (action : String) (rule : NatRule) : Command :=
  ["iptables", "-t", NatRule.table, action, NatRule.chain] ++ rule.spec

end Command

/-- How a program ended. -/
inductive Status where
  /-- It exited with a status. -/
  | exited (code : Nat)
  /-- A signal ended it. -/
  | signalled
  deriving DecidableEq, Repr

/-- What a program answered. -/
structure Reply where
  status : Status
  out : List UInt8
  err : List UInt8
  deriving DecidableEq, Repr

namespace Reply

def silent : Reply := ⟨.exited 0, [], []⟩

def succeeded (r : Reply) : Bool := r.status == .exited 0

@[simp] theorem succeeded_iff {r : Reply} : r.succeeded = true ↔ r.status = .exited 0 := beq_iff_eq

/-- What the program printed. -/
def output (r : Reply) : List Char := Text.decodeLossy r.out

/-- What the program complained of, trimmed. -/
def complaint (r : Reply) : List Char := Text.trim (Text.decodeLossy r.err)

end Reply

/-- What keeps a program from being started: an argument that no program can be given, or what the
system finds wrong with the program or with the start of another process. -/
inductive Obstacle where
  | zeroByte
  | notPermitted
  | missing
  | badTransfer
  | tooManyArguments
  | badFormat
  | tooManyProcesses
  | noMemory
  | denied
  | badAddress
  | notDirectory
  | directory
  | badInterpreter
  | tooManyFilesInSystem
  | tooManyFiles
  | busy
  | nameTooLong
  | unsupported
  | tooManySymlinks
  | badLibrary
  deriving DecidableEq, Repr

/-- What is said of an obstacle. -/
def Obstacle.text : Obstacle → String
  | zeroByte => "nul byte found in provided data"
  | notPermitted => "Operation not permitted (os error 1)"
  | missing => "No such file or directory (os error 2)"
  | badTransfer => "Input/output error (os error 5)"
  | tooManyArguments => "Argument list too long (os error 7)"
  | badFormat => "Exec format error (os error 8)"
  | tooManyProcesses => "Resource temporarily unavailable (os error 11)"
  | noMemory => "Cannot allocate memory (os error 12)"
  | denied => "Permission denied (os error 13)"
  | badAddress => "Bad address (os error 14)"
  | notDirectory => "Not a directory (os error 20)"
  | directory => "Is a directory (os error 21)"
  | badInterpreter => "Invalid argument (os error 22)"
  | tooManyFilesInSystem => "Too many open files in system (os error 23)"
  | tooManyFiles => "Too many open files (os error 24)"
  | busy => "Text file busy (os error 26)"
  | nameTooLong => "File name too long (os error 36)"
  | unsupported => "Function not implemented (os error 38)"
  | tooManySymlinks => "Too many levels of symbolic links (os error 40)"
  | badLibrary => "Accessing a corrupted shared library (os error 80)"

/-- The output of a command, from its reply or from why it could not be started. -/
def outcome (command : Command) : Except Obstacle Reply → Except Error (List Char)
  | .error cause => .error (.kernelOperation command.line cause.text)
  | .ok r =>
      if r.succeeded then .ok r.output
      else .error (.kernelOperation command.line (String.ofList r.complaint))

/-- Whether a complaint says that the device is gone. -/
def saysGone (complaint : List Char) : Bool :=
  Text.contains "Cannot find device".toList complaint ||
    Text.contains "does not exist".toList complaint

/-- Whether a complaint says that there is no queueing discipline to hold filters. -/
def saysNoQdisc (complaint : List Char) : Bool :=
  Text.contains "Cannot find specified qdisc".toList complaint

/-- The output of a command on a device, where a complaint may say that the device is gone. -/
def outcomeOn (device : String) (command : Command) (reply : Except Obstacle Reply) :
    Except Error (List Char) :=
  match outcome command reply with
  | .error (.kernelOperation op message) =>
      if saysGone message.toList then .error (.linkNotFound device)
      else .error (.kernelOperation op message)
  | result => result

/-- The output of a listing of filters; without a queueing discipline there are none. -/
def filtersOutcome (device : String) (command : Command) (reply : Except Obstacle Reply) :
    Except Error (List Char) :=
  match outcomeOn device command reply with
  | .error (.kernelOperation op message) =>
      if saysNoQdisc message.toList then .ok [] else .error (.kernelOperation op message)
  | result => result

/-- What a check for a masquerade rule found: status zero says that it is there and status one that
it is not. -/
def checkOutcome : Except Obstacle Reply → Except Error Bool
  | .error cause => .error (.kernelOperation "iptables -C" cause.text)
  | .ok r =>
      match r.status with
      | .exited 0 => .ok true
      | .exited 1 => .ok false
      | _ => .error (.kernelOperation "iptables -C" (String.ofList r.complaint))

end SandboxNet.Host
