import SandboxNet.Kernel.Run

/-! # What holds after every run

An `Answering` says which replies a call may get and which state each of them leaves. A program
always ends in `Q` when every path that the replies can take ends there. The rules below take a
program apart the way it was put together, and `Always.run` gives the result back to the runs of a
kernel.
-/

namespace SandboxNet

/-- The replies that a call may get in a state, each with the state it leaves. -/
abbrev Answering (σ : Type) : Type :=
  (request : Call) → σ → Except Error request.Answer → σ → Prop

theorem Run.answers_of_isOk {σ α : Type} {r : Run σ α} (ok : r.result.isOk = true) :
    ∃ value, r.result = .ok value := by
  cases ended : r.result with
  | ok value => exact ⟨value, rfl⟩
  | error e =>
      rw [ended] at ok
      cases ok

namespace Program

variable {σ τ α β : Type} {A : Answering σ} {s : σ}

/-- Whatever the replies are, a program ends with a result and a state that `Q` allows. -/
def Always (A : Answering σ) : Program α → σ → (Except Error α → σ → Prop) → Prop
  | done result, s, Q => Q result s
  | call request next, s, Q => ∀ reply s', A request s reply s' → (next reply).Always A s' Q
  | log _ next, s, Q => next.Always A s Q

namespace Always

variable {P Q : Except Error α → σ → Prop} {R : Except Error β → σ → Prop}

theorem mono {p : Program α} (h : p.Always A s P) (weaker : ∀ result s', P result s' → Q result s') :
    p.Always A s Q := by
  induction p generalizing s with
  | done result => exact weaker result s h
  | call request next ih => exact fun reply s' answered => ih reply (h reply s' answered)
  | log event next ih => exact ih h

theorem of_forall {p : Program α} (h : ∀ result s', Q result s') : p.Always A s Q := by
  induction p generalizing s with
  | done result => exact h result s
  | call request next ih => exact fun reply _ _ => ih reply
  | log event next ih => exact ih

theorem and {p : Program α} (first : p.Always A s P) (second : p.Always A s Q) :
    p.Always A s fun result s' => P result s' ∧ Q result s' := by
  induction p generalizing s with
  | done result => exact ⟨first, second⟩
  | call request next ih =>
      exact fun reply s' answered => ih reply (first reply s' answered) (second reply s' answered)
  | log event next ih => exact ih first second

theorem bind {p : Program α} {f : α → Program β} (first : p.Always A s P)
    (ok : ∀ value s', P (.ok value) s' → (f value).Always A s' R)
    (error : ∀ e s', P (.error e) s' → R (.error e) s') : (p >>= f).Always A s R := by
  show (p.bind f).Always A s R
  induction p generalizing s with
  | done result =>
      cases result with
      | ok value => exact ok value s first
      | error e => exact error e s first
  | call request next ih => exact fun reply s' answered => ih reply (first reply s' answered)
  | log event next ih => exact ih first

/-- An attempted program goes on whatever it ended with. -/
theorem attempt_bind {p : Program α} {f : Except Error α → Program β} (first : p.Always A s P)
    (next : ∀ outcome s', P outcome s' → (f outcome).Always A s' R) :
    (p.attempt >>= f).Always A s R := by
  show (p.attempt.bind f).Always A s R
  induction p generalizing s with
  | done result => exact next result s first
  | call request _ ih => exact fun reply s' answered => ih reply (first reply s' answered)
  | log _ _ ih => exact ih first

theorem pure {value : α} (h : Q (.ok value) s) : (Pure.pure value : Program α).Always A s Q := h

theorem fail {e : Error} (h : Q (.error e) s) : (Program.fail e : Program α).Always A s Q := h

theorem note {level : Log.Level} {message : String} {fields : List (String × Log.Value)}
    {Q : Except Error Unit → σ → Prop} (h : Q (.ok ()) s) :
    (Program.note level message fields).Always A s Q := h

theorem note_bind {level : Log.Level} {message : String} {fields : List (String × Log.Value)}
    {f : Unit → Program β} (h : (f ()).Always A s R) :
    (Program.note level message fields >>= f).Always A s R := h

/-- A kernel whose states are seen through `view`, and whose replies `A` allows as long as the
states have `I`, runs a program to what it always ends in. -/
theorem run {K : Kernel τ} (view : τ → σ) (I : τ → Prop)
    (allowed : ∀ request t, I t → A request (view t) (K.answer request t).1
      (view (K.answer request t).2) ∧ I (K.answer request t).2)
    {p : Program α} {t : τ} (h : p.Always A (view t) Q) (start : I t) :
    Q (p.run K t).result (view (p.run K t).state) ∧ I (p.run K t).state := by
  induction p generalizing t with
  | done result => exact ⟨h, start⟩
  | call request next ih =>
      obtain ⟨answered, kept⟩ := allowed request t start
      exact ih _ (h _ _ answered) kept
  | log event next ih => exact ih h start

end Always

end Program

end SandboxNet
