import SandboxNet.Proofs.Kernel.Asking

/-! # Programs that stop at a failing call

Most operations hand the error of a failing call on at once and do nothing after it.
`Program.FailStop` says so of every path of a program, together with the sort of calls that it makes.
-/

namespace SandboxNet.Program

variable {α β : Type} {P : Call → Prop}

/-- Every call that a program can make has `P`, and a call that fails ends it with its error. -/
def FailStop (P : Call → Prop) : Program α → Prop
  | done _ => True
  | call request next =>
      P request ∧ (∀ e, next (.error e) = done (.error e)) ∧ ∀ answer, (next (.ok answer)).FailStop P
  | log _ next => next.FailStop P

namespace FailStop

theorem asks {p : Program α} (h : p.FailStop P) : p.Asks P := by
  induction p with
  | done result => trivial
  | call request next ih =>
      refine ⟨h.1, fun reply => ?_⟩
      cases reply with
      | ok answer => exact ih (.ok answer) (h.2.2 answer)
      | error e =>
          rw [h.2.1 e]
          trivial
  | log event next ih => exact ih h

theorem mono {p : Program α} {P' : Call → Prop} (h : p.FailStop P)
    (weaker : ∀ request, P request → P' request) : p.FailStop P' := by
  induction p with
  | done result => trivial
  | call request next ih =>
      exact ⟨weaker request h.1, h.2.1, fun answer => ih (.ok answer) (h.2.2 answer)⟩
  | log event next ih => exact ih h

theorem bind {p : Program α} {f : α → Program β} (first : p.FailStop P)
    (rest : ∀ value, (f value).FailStop P) : (p >>= f).FailStop P := by
  show (p.bind f).FailStop P
  induction p with
  | done result =>
      cases result with
      | ok value => exact rest value
      | error e => trivial
  | call request next ih =>
      refine ⟨first.1, fun e => ?_, fun answer => ih (.ok answer) (first.2.2 answer)⟩
      show (next (.error e)).bind f = _
      rw [first.2.1 e]
      rfl
  | log event next ih => exact ih first

theorem ask {request : Call} (h : P request) : (Program.ask request).FailStop P :=
  ⟨h, fun _ => rfl, fun _ => trivial⟩

theorem pure (value : α) : (Pure.pure value : Program α).FailStop P := trivial

theorem fail (e : Error) : (Program.fail e : Program α).FailStop P := trivial

theorem note (level : Log.Level) (message : String) (fields : List (String × Log.Value)) :
    (Program.note level message fields).FailStop P := trivial

theorem forM {items : List β} {body : β → Program Unit} (each : ∀ item, (body item).FailStop P) :
    (items.forM body).FailStop P := by
  induction items with
  | nil => trivial
  | cons item rest ih => exact bind (each item) fun _ => ih

end FailStop

end SandboxNet.Program
