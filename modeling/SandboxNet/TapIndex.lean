import SandboxNet.Kernel.Program
import SandboxNet.Plan

/-! # The next TAP index

The next index is the number of TAP devices there are. It is a count and not a reservation: two
callers may see the same one.
-/

namespace SandboxNet.TapIndex

open Program Log

/-- The highest index a device can take. -/
def highest : Nat := 255

/-- How many of some names are those of TAP devices. -/
def count (names : List String) : Nat :=
  names.countP fun name => tapStem.toList.isPrefixOf name.toList

def next : Program Nat := do
  let index := count (← ask .linkNames)
  if highest < index then fail (.tapIndexExhausted index)
  else
    note .debug "Computed next TAP index" [("index", .number index)]
    return index

end SandboxNet.TapIndex
