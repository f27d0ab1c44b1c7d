import SandboxNet.Kernel.Program

/-! # The calls that a program can make

`Program.Asks` holds when every call on every path of a program is of some sort. `Program.Cautious`
holds of a program that only reads until it asks for a device of one name, and that comes to no
value without that device.
-/

namespace SandboxNet.Program

variable {α β : Type} {P : Call → Prop} {name : String} {Q : α → Prop} {R : β → Prop}

/-- Every call that a program can make has `P`. -/
def Asks (P : Call → Prop) : Program α → Prop
  | done _ => True
  | call request next => P request ∧ ∀ reply, (next reply).Asks P
  | log _ next => next.Asks P

namespace Asks

theorem mono {p : Program α} {P' : Call → Prop} (h : p.Asks P)
    (weaker : ∀ request, P request → P' request) : p.Asks P' := by
  induction p with
  | done result => trivial
  | call request next ih => exact ⟨weaker request h.1, fun reply => ih reply (h.2 reply)⟩
  | log event next ih => exact ih h

theorem bind {p : Program α} {f : α → Program β} (first : p.Asks P) (rest : ∀ value, (f value).Asks P) :
    (p >>= f).Asks P := by
  show (p.bind f).Asks P
  induction p with
  | done result =>
      cases result with
      | ok value => exact rest value
      | error e => trivial
  | call request next ih => exact ⟨first.1, fun reply => ih reply (first.2 reply)⟩
  | log event next ih => exact ih first

theorem attempt {p : Program α} (h : p.Asks P) : p.attempt.Asks P := by
  induction p with
  | done result => trivial
  | call request next ih => exact ⟨h.1, fun reply => ih reply (h.2 reply)⟩
  | log event next ih => exact ih h

theorem ask {request : Call} (h : P request) : (Program.ask request).Asks P :=
  ⟨h, fun _ => trivial⟩

theorem pure (value : α) : (Pure.pure value : Program α).Asks P := trivial

theorem fail (e : Error) : (Program.fail e : Program α).Asks P := trivial

theorem note (level : Log.Level) (message : String) (fields : List (String × Log.Value)) :
    (Program.note level message fields).Asks P := trivial

theorem forM {items : List β} {body : β → Program Unit} (each : ∀ item, (body item).Asks P) :
    (items.forM body).Asks P := by
  induction items with
  | nil => trivial
  | cons item rest ih => exact bind (each item) fun _ => ih

end Asks

/-- A program that only reads until it asks for a device of the given name. Whatever it answers
without having been given that device has `Q`. -/
def Cautious (name : String) (Q : α → Prop) : Program α → Prop
  | done (.ok value) => Q value
  | done (.error _) => True
  | call request next =>
      (request.kind.isChange = false ∧ ∀ reply, (next reply).Cautious name Q) ∨
        ∃ spec, request = .addTap spec ∧ spec.name = name ∧ ∀ e, (next (.error e)).Cautious name Q
  | log _ next => next.Cautious name Q

namespace Cautious

theorem bind {p : Program α} {f : α → Program β} (first : p.Cautious name Q)
    (rest : ∀ value, Q value → (f value).Cautious name R) : (p >>= f).Cautious name R := by
  show (p.bind f).Cautious name R
  induction p with
  | done result =>
      cases result with
      | ok value => exact rest value first
      | error e => trivial
  | call request next ih =>
      rcases first with ⟨reads, later⟩ | ⟨spec, rfl, named, later⟩
      · exact .inl ⟨reads, fun reply => ih reply (later reply)⟩
      · exact .inr ⟨spec, rfl, named, fun e => ih (.error e) (later e)⟩
  | log event next ih => exact ih first

theorem of_asks {p : Program α} (reads : p.Asks fun request => request.kind.isChange = false) :
    p.Cautious name fun _ => True := by
  induction p with
  | done result => cases result <;> trivial
  | call request next ih => exact .inl ⟨reads.1, fun reply => ih reply (reads.2 reply)⟩
  | log event next ih => exact ih reads

theorem ask {request : Call} (reads : request.kind.isChange = false) :
    (Program.ask request).Cautious name fun _ => True :=
  of_asks (Asks.ask reads)

theorem addTap {spec : TapSpec} (named : spec.name = name) :
    (Program.ask (.addTap spec)).Cautious name fun _ => False :=
  .inr ⟨spec, rfl, named, fun _ => trivial⟩

theorem pure {value : α} (h : Q value) : (Pure.pure value : Program α).Cautious name Q := h

theorem fail (e : Error) : (Program.fail e : Program α).Cautious name Q := trivial

end Cautious

end SandboxNet.Program
