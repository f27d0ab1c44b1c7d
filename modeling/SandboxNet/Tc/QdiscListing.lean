import SandboxNet.Tc.Qdisc
import SandboxNet.Text.Lines

/-! # Listings of queueing disciplines

A listing has one line for each queueing discipline: `qdisc`, its kind, its handle, and either
`root` or `parent` with the parent's handle; the rest of the line is free. Lines of any other shape
are passed over.
-/

namespace SandboxNet.Tc.Qdisc

/-- The parent given by the words after a handle. -/
def parent? : List String → Option Handle
  | [] => none
  | word :: rest =>
      if word = "root" then some Handle.root
      else if word = "parent" then rest.head?.bind Handle.ofText?
      else none

/-- The queueing discipline on one line, given as its words. -/
def ofWords? : List String → Option Qdisc
  | word :: kind :: handle :: rest =>
      if word = "qdisc" then do
        let handle ← Handle.ofText? handle
        let parent ← parent? rest
        return ⟨kind, handle, parent⟩
      else none
  | _ => none

/-- The queueing disciplines of a listing, in its order. -/
def ofListing (text : List Char) : List Qdisc :=
  (Text.lines text).filterMap fun line => ofWords? (Text.tokens line)

end SandboxNet.Tc.Qdisc
