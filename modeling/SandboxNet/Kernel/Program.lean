import SandboxNet.Kernel.Call
import SandboxNet.Log

/-! # Programs over kernel calls

An operation on the network is a finite tree: it ends with a result, or makes a kernel call and goes
on with the reply, or writes a log event and goes on. The tree does not say who answers the calls,
so one operation runs over any kernel, with or without failing calls.

A failed call ends a program unless the call is attempted; `bind_assoc` and the two unit laws make
the trees a lawful monad.
-/

namespace SandboxNet

/-- An operation that ends with an `α` or an error. -/
inductive Program (α : Type) where
  /-- The end, with the result. -/
  | done (result : Except Error α)
  /-- A call, and what follows each reply to it. -/
  | call (request : Call) (next : Except Error request.Answer → Program α)
  /-- A log event, and what follows it. -/
  | log (event : Log.Event) (next : Program α)

namespace Program

variable {α β γ : Type}

/-- Goes on with the value of a program; an error ends both. -/
def bind : Program α → (α → Program β) → Program β
  | done (.ok value), f => f value
  | done (.error e), _ => done (.error e)
  | call request next, f => call request fun reply => (next reply).bind f
  | log event next, f => log event (next.bind f)

instance : Monad Program where
  pure value := done (.ok value)
  bind := bind

/-- Makes a call and fails with it. -/
def ask (request : Call) : Program request.Answer :=
  call request done

def fail (e : Error) : Program α :=
  done (.error e)

def note (level : Log.Level) (message : String) (fields : List (String × Log.Value)) :
    Program Unit :=
  log ⟨level, message, fields⟩ (done (.ok ()))

/-- Hands the outcome of a program on as a value, so that its error ends nothing. -/
def attempt : Program α → Program (Except Error α)
  | done result => done (.ok result)
  | call request next => call request fun reply => (next reply).attempt
  | log event next => log event next.attempt

theorem pure_bind (value : α) (f : α → Program β) : (pure value : Program α) >>= f = f value :=
  rfl

theorem bind_pure (p : Program α) : p >>= pure = p := by
  show p.bind pure = p
  induction p with
  | done result => cases result <;> rfl
  | call request next ih => exact congrArg (call request) (funext ih)
  | log event next ih => exact congrArg (log event) ih

theorem bind_assoc (p : Program α) (f : α → Program β) (g : β → Program γ) :
    p >>= f >>= g = p >>= fun value => f value >>= g := by
  show (p.bind f).bind g = p.bind fun value => (f value).bind g
  induction p with
  | done result => cases result <;> rfl
  | call request next ih => exact congrArg (call request) (funext ih)
  | log event next ih => exact congrArg (log event) ih

end Program

end SandboxNet
