import SandboxNet.File
import SandboxNet.Host.Tool
import SandboxNet.Kernel.Run
import SandboxNet.Tc.FilterListing
import SandboxNet.Tc.QdiscListing
import SandboxNet.Text.Quoted

/-! # A host as a kernel

A host answers calls by its tools, by two files of its process file system, and by its interfaces.
Its state holds which of its tools are going to be started and what these answer, in the order in which
they are asked for. The interfaces themselves are only looked at.
-/

namespace SandboxNet

/-- A host and the answers its tools will give. -/
structure Host where
  /-- Where the process file system is. -/
  procRoot : String
  routeTable : File
  forwardSwitch : File
  interfaces : List (Link × LinkAddrs)
  hasTools : Bool
  /-- What is in the way of each command to come, if anything; beyond them nothing is. -/
  obstacles : List (Option Host.Obstacle)
  /-- The answers to come; beyond them every tool succeeds without output. -/
  replies : List Host.Reply
  ran : List Host.Command
  deriving DecidableEq, Repr

namespace Host

/-- The loopback interface, which has no hardware address. -/
def loopback : Link × LinkAddrs :=
  (⟨1, "lo", 65536⟩, ⟨none, some ⟨127, 0, 0, 1⟩, some ⟨255, 0, 0, 0⟩⟩)

/-- A host with the loopback interface and an empty process file system. -/
def atRoot (procRoot : String) : Host :=
  ⟨procRoot, .missing, .missing, [loopback], true, [], [], []⟩

def running : Host := atRoot "/proc"

/-- A host in diagnostics. -/
def text (h : Host) : String :=
  "HostKernel \x7b proc_root: " ++ Text.quoted h.procRoot ++ " \x7d"

def routePath (h : Host) : String := h.procRoot ++ "/net/route"

def forwardPath (h : Host) : String := h.procRoot ++ "/sys/net/ipv4/ip_forward"

/-- What keeps a command from being started, if anything does. -/
def obstacle? (h : Host) (command : Command) : Option Obstacle :=
  if command.hasZeroByte then some .zeroByte
  else if h.hasTools then h.obstacles.headD none
  else some .missing

/-- A host after a command could not be started. -/
def hindered (h : Host) : Host := { h with obstacles := h.obstacles.tail }

/-- A host after its next reply was given to a command. -/
def answered (h : Host) (command : Command) : Host :=
  { h.hindered with replies := h.replies.tail, ran := h.ran ++ [command] }

@[simp] theorem ran_answered (h : Host) (command : Command) :
    (h.answered command).ran = h.ran ++ [command] := rfl

@[simp] theorem replies_answered (h : Host) (command : Command) :
    (h.answered command).replies = h.replies.tail := rfl

/-- Runs a command, or says why it could not be started. -/
def execute (h : Host) (command : Command) : Except Obstacle Reply × Host :=
  match h.obstacle? command with
  | some cause => (.error cause, h.hindered)
  | none => (.ok (h.replies.headD Reply.silent), h.answered command)

/-- Runs a command on a device for its effect. -/
def change (h : Host) (device : String) (command : Command) : Except Error Unit × Host :=
  let (reply, h) := h.execute command
  ((outcomeOn device command reply).map fun _ => (), h)

/-- Runs a command for its effect. -/
def changeRule (h : Host) (command : Command) : Except Error Unit × Host :=
  let (reply, h) := h.execute command
  ((outcome command reply).map fun _ => (), h)

def interface? (h : Host) (name : String) : Option (Link × LinkAddrs) :=
  h.interfaces.find? fun i => i.1.name == name

/-- The text of a file, or the failed operation. -/
def readAt (path : String) (file : File) : Except Error String :=
  file.read.mapError (.kernelOperation ("read " ++ path))

/-- Checks that a name fits the sixteen bytes that an interface request has for it. -/
def checkName (name : String) : Except Error Unit :=
  if name.isEmpty || name.toList.contains '\x00' then
    .error (.invalidParameter ("invalid interface name: " ++ Text.quoted name))
  else if 16 ≤ name.utf8ByteSize then
    .error (.invalidParameter ("interface name too long: " ++ name ++ " (max 15 chars)"))
  else .ok ()

/-- A request to change an interface: an interface that is there may not be changed, and one that
is not cannot be. -/
def request (h : Host) (name op : String) : Except Error Unit := do
  checkName name
  match h.interface? name with
  | none => .error (.kernelOperation op "No such device (os error 19)")
  | some _ => .error (.kernelOperation op "Operation not permitted (os error 1)")

def kernel : Kernel Host where
  answer
    | .linkNames, h => (.ok (h.interfaces.map (·.1.name)), h)
    | .linkByName name, h =>
        match h.interface? name with
        | some (link, _) => (.ok link, h)
        | none => (.error (.linkNotFound name), h)
    | .addTap spec, h =>
        match h.interface? spec.name with
        | some _ =>
            (.error (.kernelOperation ("create TAP device " ++ spec.name) "device already exists"),
              h)
        | none => (.error (.kernelOperation "open /dev/net/tun" File.notFound), h)
    | .setLinkUp link, h => (h.request link.name "get interface flags", h)
    | .addAddress link _, h => (h.request link.name "set IP address", h)
    | .deleteLink link, h => h.change link.name (Command.deleteLink link.name)
    | .qdiscs link, h =>
        let command := Command.showQdiscs link.name
        let (reply, h) := h.execute command
        ((outcomeOn link.name command reply).map Tc.Qdisc.ofListing, h)
    | .addQdisc link q, h => h.change link.name (Command.addQdisc link.name q)
    | .delQdisc link q, h => h.change link.name (Command.delQdisc link.name q)
    | .filters link parent, h =>
        let command := Command.showFilters link.name parent
        let (reply, h) := h.execute command
        ((filtersOutcome link.name command reply).map (Tc.Filter.ofListing parent), h)
    | .addFilter link f, h =>
        match f.redirectTo with
        | some target => h.change link.name (Command.addFilter link.name f target)
        | none => (.error (.invalidParameter "only redirect filters are supported"), h)
    | .delFilter link f, h => h.change link.name (Command.delFilter link.name f)
    | .natRuleExists rule, h =>
        let (reply, h) := h.execute (Command.natRule "-C" rule)
        (checkOutcome reply, h)
    | .appendNatRule rule, h => h.changeRule (Command.natRule "-A" rule)
    | .deleteNatRule rule, h => h.changeRule (Command.natRule "-D" rule)
    | .ipv4Forwarding, h =>
        ((readAt h.forwardPath h.forwardSwitch).map fun text => Text.trimmed text == "1", h)
    | .setIpv4Forwarding on, h =>
        match h.forwardSwitch.write (if on then "1" else "0") with
        | .ok file => (.ok (), { h with forwardSwitch := file })
        | .error cause => (.error (.kernelOperation ("write " ++ h.forwardPath) cause), h)
    | .linkAddrs name, h =>
        match h.interface? name with
        | some (_, addrs) => (.ok addrs, h)
        | none => (.error (.noSuchInterface name), h)
    | .routes, h =>
        ((readAt h.routePath h.routeTable).map fun text => Route.ofTable text.toList, h)

end Host

end SandboxNet
