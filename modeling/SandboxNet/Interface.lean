import SandboxNet.Text.JsonText

/-! # What a sandbox is told

The addressing that a sandbox boots with, and the descriptor that a finished setup answers.
-/

namespace SandboxNet

/-- The addressing of an interface, as texts. -/
structure Interface where
  ip : String
  defaultGateway : String
  mask : String
  interface : String
  mac : String
  deriving DecidableEq, Repr

namespace Interface

def isComplete (i : Interface) : Bool :=
  [i.ip, i.defaultGateway, i.mask, i.interface, i.mac].all (· ≠ "")

/-- The members of the JSON object, their values printed. -/
def members (i : Interface) : List (String × String) :=
  [("IP", i.ip), ("DefaultGateway", i.defaultGateway), ("Mask", i.mask),
    ("Interface", i.interface), ("MAC", i.mac)].map fun (key, value) => (key, Text.jsonString value)

/-- The JSON object, indented. -/
def pretty (i : Interface) : String := Text.jsonBlock "" i.members

/-- The lines that show an interface to a reader. -/
def lines (i : Interface) : List String :=
  ["  Interface: " ++ i.interface,
    "  IP:        " ++ i.ip,
    "  Mask:      " ++ i.mask,
    "  Gateway:   " ++ i.defaultGateway,
    "  MAC:       " ++ i.mac]

end Interface

/-- The result of a setup: the device made, and the addressing of the sandbox behind it. -/
structure Descriptor where
  tapDevice : String
  ethDevice : Interface
  deriving DecidableEq, Repr

namespace Descriptor

/-- The JSON object, on one line. -/
def json (d : Descriptor) : String :=
  Text.jsonObject [
    ("TapDevice", Text.jsonString d.tapDevice),
    ("EthDevice", Text.jsonObject d.ethDevice.members)]

/-- The JSON object, indented. -/
def pretty (d : Descriptor) : String :=
  Text.jsonBlock "" [
    ("TapDevice", Text.jsonString d.tapDevice),
    ("EthDevice", Text.jsonBlock "  " d.ethDevice.members)]

/-- The lines that show a descriptor to a reader. -/
def lines (d : Descriptor) : List String :=
  ("TAP device: " ++ d.tapDevice) :: d.ethDevice.lines

end Descriptor

end SandboxNet
