import SandboxNet.Log
import SandboxNet.Sandbox.Setup

/-! # Settings

The settings of an installation. Each has a default, and only settings that pass `validate` are
used.
-/

namespace SandboxNet

structure NetworkSettings where
  mode : String
  tapQueues : UInt32
  deriving DecidableEq, Repr

structure LoggingSettings where
  /-- The name of the level from which on events are written. -/
  level : String
  deriving DecidableEq, Repr

structure Settings where
  network : NetworkSettings
  logging : LoggingSettings
  deriving DecidableEq, Repr

namespace NetworkSettings

def standard : NetworkSettings := ⟨Scheme.static.name, 1⟩

/-- The addressing scheme, if the mode names one. -/
def scheme (s : NetworkSettings) : Except Error Scheme :=
  (Scheme.ofName s.mode).mapError fun e => .configValidation ("network.mode: " ++ e.message)

end NetworkSettings

namespace LoggingSettings

def standard : LoggingSettings := ⟨Log.Level.info.name⟩

end LoggingSettings

namespace Settings

def standard : Settings := ⟨.standard, .standard⟩

/-- What is said of a level that is none. -/
def unknownLevel (level : String) : String :=
  "Unknown log level '" ++ level ++ "' (expected one of: " ++
    ", ".intercalate (Log.Level.all.map Log.Level.name) ++ ")"

/-- Checks the mode, then the queues, then the level. -/
def validate (s : Settings) : Except Error Unit := do
  let _ ← s.network.scheme
  if s.network.tapQueues = 0 then
    throw (.configValidation "network.tap_queues must be at least 1")
  else if (Log.Level.ofName? s.logging.level).isNone then
    throw (.configValidation (unknownLevel s.logging.level))
  else return ()

end Settings

end SandboxNet
