import SandboxNet.File
import SandboxNet.Settings.Basic
import SandboxNet.Toml.Document

/-! # Loading settings

Settings are written in TOML, one section for the network and one for the log. A section is a table,
whose other keys do not matter, or an array with the settings in their order; a date in its place
holds no settings.
-/

namespace SandboxNet

open Toml

/-- A section of a document: what it holds under a key, or as an array at a place. -/
structure Section where
  at? : (place : Nat) → (key : String) → Option Value

namespace Section

/-- The section that a value stands for. -/
def ofValue? : Value → Option Section
  | .table t => some ⟨fun _ key => Table.get? t key⟩
  | .array items => some ⟨fun place _ => items[place]?⟩
  | .tables ts => some ⟨fun place _ => ts[place]?.map .table⟩
  | .dateTime => some ⟨fun _ _ => none⟩
  | _ => none

/-- One setting of a section, or its default. -/
def setting {α : Type} (s : Section) (place : Nat) (key : String) (read : Value → Option α)
    (standard : α) : Option α :=
  match s.at? place key with
  | some value => read value
  | none => some standard

end Section

def stringOf? : Value → Option String
  | .text s => some s
  | _ => none

/-- The count of a value, which 32 bits must hold. -/
def countOf? : Value → Option UInt32
  | .integer n => if 0 ≤ n ∧ n < 0x100000000 then some (UInt32.ofNat n.toNat) else none
  | _ => none

def NetworkSettings.ofSection? (s : Section) : Option NetworkSettings := do
  let mode ← s.setting 0 "mode" stringOf? standard.mode
  let tapQueues ← s.setting 1 "tap_queues" countOf? standard.tapQueues
  return ⟨mode, tapQueues⟩

def LoggingSettings.ofSection? (s : Section) : Option LoggingSettings := do
  let level ← s.setting 0 "level" stringOf? standard.level
  return ⟨level⟩

namespace Settings

/-- The settings of a table, with defaults for missing sections. -/
def ofTable? (t : Table) : Option Settings := do
  let network ← match t.get? "network" with
    | some value => (Section.ofValue? value).bind NetworkSettings.ofSection?
    | none => some .standard
  let logging ← match t.get? "logging" with
    | some value => (Section.ofValue? value).bind LoggingSettings.ofSection?
    | none => some .standard
  return ⟨network, logging⟩

/-- The settings in the file at a path: they must be readable, well formed and valid. -/
def load (path : String) (file : File) : Except Error Settings := do
  let text ← file.read.mapError (.configRead path)
  match (Table.ofDocument? text).bind ofTable? with
  | none => throw .configParse
  | some settings =>
      settings.validate
      return settings

/-- The settings in the file at a path, or the defaults if there is no path. -/
def loadOrStandard (files : String → File) : Option String → Except Error Settings
  | some path => load path (files path)
  | none => .ok standard

end Settings

end SandboxNet
