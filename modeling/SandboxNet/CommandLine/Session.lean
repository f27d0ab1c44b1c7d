import SandboxNet.CommandLine.Command
import SandboxNet.Kernel.Run
import SandboxNet.Sandbox.Cleanup
import SandboxNet.Settings.Load

/-! # Sessions

What a command line does over a kernel: what it prints, what it logs, how it exits. The texts of
help and of completions are no part of a session.
-/

namespace SandboxNet

open Program Log

/-- What surrounds a session. -/
structure Surroundings where
  files : String → File
  /-- The threshold of the log, if one was set for the user. -/
  logThreshold : Option String
  /-- The user and the group that the session runs for. -/
  uid : UInt32
  gid : UInt32

def unlines (lines : List String) : String :=
  String.join (lines.map (· ++ "\n"))

/-- Carries out a command and answers what it prints. -/
def Command.perform (settings : Settings) (uid gid : UInt32) : Command → Program String
  | .setup mode owner group json => do
      let scheme ← match mode with
        | some mode => done (Scheme.ofName mode)
        | none => done settings.network.scheme
      let strategy : Strategy := ⟨scheme, settings.network.tapQueues⟩
      let descriptor ← strategy.setup (owner.getD uid) (group.getD gid)
      return unlines (if json then [descriptor.pretty] else descriptor.lines)
  | .cleanup tap ignoreMissing => do
      match ← (Cleanup.run tap).attempt with
      | .ok () => return unlines ["Removed '" ++ tap ++ "'"]
      | .error e =>
          if ignoreMissing && e.isNotFound then
            note .warn "Nothing to clean up" [("tap", .shown tap), ("error", .shown e.message)]
            return unlines ["'" ++ tap ++ "' already absent"]
          else fail e
  | .info interface json => do
      let report ← Uplink.describe interface
      return unlines (if json then [report.pretty] else report.lines)
  | .index => do
      return unlines [Text.digits 10 (← TapIndex.next)]
  | .completion _ => return ""

/-- What a session leaves. -/
structure Session (σ : Type) where
  code : UInt8
  out : String
  err : List String
  /-- The run over the kernel, if it came to one. -/
  run : Option (Run σ String)

namespace Session

variable {σ : Type}

def version : String := "0.1.0"

/-- A session that ends before its command. -/
def ended (code : UInt8) (out : String) (err : List String) : Session σ := ⟨code, out, err, none⟩

def report (e : Error) : List String := Text.writtenLines ("Error: " ++ e.message)

/-- The threshold of the log: the user's, or debugging if asked for, or the configured level. -/
def threshold (around : Surroundings) (verbose : Bool) (settings : Settings) : Threshold :=
  match around.logThreshold with
  | some text => Threshold.ofText text
  | none => Threshold.ofText (if verbose then Level.debug.name else settings.logging.level)

/-- The lines of the log that a threshold lets through. -/
def logLines (t : Threshold) (events : List Event) : List String :=
  (events.filter t.admits).flatMap Event.lines

/-- Runs a command line over a kernel. -/
def ofArgs (K : Kernel σ) (s : σ) (around : Surroundings) (args : List String) : Session σ :=
  match CommandLine.parse args with
  | .error .help => ended 0 "" []
  | .error (.version title) => ended 0 (unlines [title ++ " " ++ version]) []
  | .error .misuse => ended 2 "" []
  | .ok invocation =>
      match Settings.loadOrStandard around.files invocation.config with
      | .error e => ended 1 "" (report e)
      | .ok settings =>
          let run := (invocation.command.perform settings around.uid around.gid).run K s
          let log := logLines (threshold around invocation.verbose settings) run.events
          match run.result with
          | .ok out => ⟨0, out, log, some run⟩
          | .error e => ⟨1, "", log ++ report e, some run⟩

end Session

end SandboxNet
