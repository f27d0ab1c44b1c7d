import SandboxNet.Text.Number

/-! # Errors

Each constructor is a cause; `Error.message` holds the wording.
-/

namespace SandboxNet

/-- An attribute that an interface turned out not to have. -/
inductive MissingAttribute where
  | mac
  | mask
  | ipv4
  deriving DecidableEq, Repr

def MissingAttribute.message : MissingAttribute → String
  | mac => "failed to get MAC address"
  | mask => "failed to find mask"
  | ipv4 => "failed to find IPv4 address"

/-- Why an operation failed. -/
inductive Error where
  | configRead (path cause : String)
  /-- The configuration file does not hold a configuration. -/
  | configParse
  /-- The configuration holds a value that cannot be used. -/
  | configValidation (reason : String)
  /-- There is no addressing scheme of that name. -/
  | unsupportedManager (kind : String)
  | deviceNotFound (name : String)
  | tapIndexExhausted (count : Nat)
  | multipleSandboxes
  | invalidParameter (reason : String)
  /-- The link does not exist, or is no longer the one resolved. -/
  | linkNotFound (name : String)
  | kernelOperation (op message : String)
  /-- The interface to report on does not exist. -/
  | noSuchInterface (name : String)
  /-- The interface to report on lacks an attribute. -/
  | introspection (interface : String) (missing : MissingAttribute)
  /-- A caller asked to delete a device that it had not resolved, which breaks the contract. -/
  | unresolvedDevice
  deriving DecidableEq, Repr

namespace Error

def message : Error → String
  | configRead path cause => "Failed to read config file '" ++ path ++ "': " ++ cause
  | configParse => "Failed to parse config"
  | configValidation reason => "Config validation failed: " ++ reason
  | unsupportedManager kind => "network manager " ++ kind ++ " not supported"
  | deviceNotFound name =>
      "failed to find " ++ name ++ " interface: " ++ name ++ " device not found"
  | tapIndexExhausted count =>
      "TAP interface index is too high: " ++ Text.digits 10 count ++ " (max 255)"
  | multipleSandboxes =>
      "unsupported operation: can't spawn multiple unikernels in the same network namespace"
  | invalidParameter reason => "invalid parameter: " ++ reason
  | linkNotFound name => "link not found: " ++ name
  | kernelOperation op message => op ++ " failed: " ++ message
  | noSuchInterface name => name ++ ": no such network interface"
  | introspection interface missing => missing.message ++ " for interface " ++ interface
  | unresolvedDevice => "delete_tap_device called without a resolved TAP link"

/-- Whether an error only says that its object is gone already. -/
def isNotFound : Error → Bool
  | linkNotFound _ | noSuchInterface _ => true
  | _ => false

end Error

end SandboxNet
