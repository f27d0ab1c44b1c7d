import SandboxNet.CommandLine.Session
import SandboxNet.Netns.Kernel

/-! # The command line

Runs the command line over a namespace in memory that holds the loopback interface and a configured
`eth0`.
-/

namespace SandboxNet

/-- What is at a path. -/
def fileAt (path : String) : IO File := do
  try
    return .bytes (← IO.FS.readBinFile path).toList
  catch
    | .noFileOrDirectory .. => return .missing
    | .inappropriateType .. => return .directory
    | e => return .barred e.toString

/-- The path of the settings that a command line names. -/
def configPath (args : List String) : Option String :=
  match CommandLine.parse args with
  | .ok invocation => invocation.config
  | .error _ => none

end SandboxNet

open SandboxNet

def main (args : List String) : IO UInt32 := do
  let file ← match configPath args with
    | some path => fileAt path
    | none => pure .missing
  let around : Surroundings := ⟨fun _ => file, ← IO.getEnv "RUST_LOG", 0, 0⟩
  let session := Session.ofArgs Netns.kernel Netns.withEth0 around args
  IO.print session.out
  for line in session.err do
    IO.eprintln line
  return session.code.toUInt32
