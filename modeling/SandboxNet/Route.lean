import SandboxNet.Ipv4
import SandboxNet.Text.Lines

/-! # IPv4 routes

The kernel lists its routes in a table with a heading line, one route a line, addresses and masks in
hexadecimal.
-/

namespace SandboxNet

structure Route where
  interface : String
  destination : Ipv4Net
  gateway : Option Ipv4
  deriving DecidableEq, Repr

namespace Route

/-- Whether a route matches every address. -/
def isDefault (r : Route) : Bool := r.destination.len.val == 0

/-- The route on one line, given as its fields: the interface, destination and gateway come first
and the mask eighth. A gateway of zero is none. -/
def ofFields? : List (List Char) → Option Route
  | interface :: destination :: gateway :: _ :: _ :: _ :: _ :: mask :: _ => do
      let destination ← Ipv4.ofKernelHex? destination
      let gateway ← Ipv4.ofKernelHex? gateway
      let mask ← Ipv4.ofKernelHex? mask
      let len ← Ipv4Net.lenOfMask? mask
      return {
        interface := String.ofList interface
        destination := ⟨destination, len⟩
        gateway := if gateway = Ipv4.unspecified then none else some gateway }
  | _ => none

/-- The routes of a table, in its order; lines of any other shape are passed over. -/
def ofTable (text : List Char) : List Route :=
  ((Text.lines text).drop 1).filterMap fun line => ofFields? (Text.words line)

end Route

end SandboxNet
