import SandboxNet.Tc.Filter
import SandboxNet.Text.Lines

/-! # Listings of filters

A listing of the filters under one parent has a block of lines for each filter: headers, which start
with `filter`, and body lines. A priority may have several headers, and the filters of one priority
are one filter here. A body line names the device of a redirect after the phrase
`Redirect to device `.
-/

namespace SandboxNet.Tc.Filter

/-- What stands before the device in a body line of a redirect. -/
def redirectPhrase : List Char := "Redirect to device ".toList

/-- The word after the first occurrence of `key`. -/
def valueOf (key : String) (tokens : List String) : Option String :=
  (tokens.dropWhile (· ≠ key)).tail.head?

/-- The priority that a header gives, if it gives a valid one. -/
def priorityOf? (tokens : List String) : Option UInt16 :=
  (valueOf "pref" tokens).bind fun word => (Text.unsigned? 10 0x10000 word.toList).map UInt16.ofNat

/-- The device that a body line redirects to, if it is such a line. -/
def targetOf? (line : List Char) : Option String :=
  (Text.after? redirectPhrase line).map fun rest =>
    String.ofList (rest.takeWhile fun c => c ≠ ')' && !Text.isBlank c)

/-- Reads one more line. The filters read so far come latest first. A header opens a filter unless
its priority is known or not valid; a redirect belongs to the filter opened last. -/
def readLine (parent : Handle) (read : List Filter) (line : List Char) : List Filter :=
  let tokens := Text.tokens line
  if tokens.head? = some "filter" then
    match priorityOf? tokens with
    | none => read
    | some priority =>
        if read.any (·.priority == priority) then read
        else ⟨parent, priority, (valueOf "protocol" tokens).getD "all", none⟩ :: read
  else
    match targetOf? line with
    | none => read
    | some target => read.modifyHead fun f => { f with redirectTo := some target }

/-- The filters of a listing of those under `parent`, in order of their first headers. -/
def ofListing (parent : Handle) (text : List Char) : List Filter :=
  ((Text.lines text).foldl (readLine parent) []).reverse

end SandboxNet.Tc.Filter
