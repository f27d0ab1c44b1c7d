import SandboxNet.Error

/-! # Addressing schemes -/

namespace SandboxNet

/-- How sandboxes are addressed. -/
inductive Scheme where
  /-- One fixed subnet, masqueraded. -/
  | static
  /-- A subnet that follows from the TAP index, one sandbox to a namespace. -/
  | dynamic
  deriving DecidableEq, Repr

namespace Scheme

def name : Scheme → String
  | static => "static"
  | dynamic => "dynamic"

def ofName (s : String) : Except Error Scheme :=
  if s = "static" then .ok static
  else if s = "dynamic" then .ok dynamic
  else .error (.unsupportedManager s)

end Scheme

end SandboxNet
