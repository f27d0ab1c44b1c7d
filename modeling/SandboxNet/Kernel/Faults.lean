import SandboxNet.Kernel.Run

/-! # Failing calls

Faults stand in front of a kernel and fail chosen calls before they reach it.
-/

namespace SandboxNet

/-- Fails the call of one kind that comes after `skip` others of that kind. -/
structure Fault where
  kind : CallKind
  skip : Nat
  error : Error
  deriving DecidableEq, Repr

namespace Fault

/-- What the faults make of a call of the given kind: the first fault of that kind fires if it skips
no more calls, and skips one call less otherwise. -/
def intercept (kind : CallKind) : List Fault → Option Error × List Fault
  | [] => (none, [])
  | fault :: rest =>
      if fault.kind = kind then
        match fault.skip with
        | 0 => (some fault.error, rest)
        | skip + 1 => (none, { fault with skip } :: rest)
      else
        let (fired, rest) := intercept kind rest
        (fired, fault :: rest)

end Fault

namespace Kernel

variable {σ : Type}

/-- A kernel behind faults. -/
def behindFaults (K : Kernel σ) : Kernel (List Fault × σ) where
  answer request := fun (faults, s) =>
    match Fault.intercept request.kind faults with
    | (some e, faults) => (.error e, (faults, s))
    | (none, faults) =>
        let (reply, s) := K.answer request s
        (reply, (faults, s))

end Kernel

end SandboxNet
