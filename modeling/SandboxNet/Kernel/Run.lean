import SandboxNet.Kernel.Program

/-! # Running a program

A kernel is a way to answer calls from a state. Running a program over it gives the result, the
state left, the calls made with their replies, and the log.
-/

namespace SandboxNet

/-- A way to answer calls, one after the other, from a state of type `σ`. -/
structure Kernel (σ : Type) where
  answer : (request : Call) → σ → Except Error request.Answer × σ

/-- A call that was made, with the reply it got. -/
structure Exchange where
  request : Call
  reply : Except Error request.Answer

def Exchange.failed (x : Exchange) : Bool :=
  match x.reply with
  | .ok _ => false
  | .error _ => true

/-- What a run leaves. -/
structure Run (σ α : Type) where
  result : Except Error α
  state : σ
  exchanges : List Exchange
  events : List Log.Event

namespace Run

variable {σ α : Type}

def calls (r : Run σ α) : List Call :=
  r.exchanges.map (·.request)

end Run

namespace Program

variable {σ α β : Type}

/-- Runs a program over a kernel. -/
def run (K : Kernel σ) : Program α → σ → Run σ α
  | done result, s => ⟨result, s, [], []⟩
  | call request next, s =>
      let answered := K.answer request s
      let rest := (next answered.1).run K answered.2
      { rest with exchanges := ⟨request, answered.1⟩ :: rest.exchanges }
  | log event next, s =>
      let rest := next.run K s
      { rest with events := event :: rest.events }

end Program

end SandboxNet
