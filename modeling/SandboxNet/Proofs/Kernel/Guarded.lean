import SandboxNet.Proofs.Kernel.Always
import SandboxNet.Proofs.Kernel.States

/-! # The states in which calls are made

Some calls are only safe in some states. `Program.moments` lists the calls of a run with the states
they met, and a `Guarded` program makes each call in a state that allows it, whatever it was answered
before.
-/

namespace SandboxNet.Program

variable {σ τ α β : Type} {A : Answering σ} {G : Call → σ → Prop} {s : σ}

/-- The calls of a run, each with the state in which it was made. -/
def moments (K : Kernel σ) : Program α → σ → List (Call × σ)
  | done _, _ => []
  | call request next, s =>
      let answered := K.answer request s
      (request, s) :: (next answered.1).moments K answered.2
  | log _ next, s => next.moments K s

/-- The moments of a run are those of the calls that it makes. -/
theorem calls_eq_moments (K : Kernel σ) (p : Program α) (s : σ) :
    (p.run K s).calls = (p.moments K s).map Prod.fst := by
  induction p generalizing s with
  | done result => rfl
  | call request next ih => exact congrArg (request :: ·) (ih _ _)
  | log event next ih => exact ih s

/-- A program that makes its calls in states that `G` allows. -/
def Guarded (A : Answering σ) (G : Call → σ → Prop) : Program α → σ → Prop
  | done _, _ => True
  | call request next, s =>
      G request s ∧ ∀ reply s', A request s reply s' → (next reply).Guarded A G s'
  | log _ next, s => next.Guarded A G s

namespace Guarded

/-- Calls that keep an invariant are allowed wherever the invariant allows them. -/
theorem of_invariant {P : Call → Prop} {I : σ → Prop} {p : Program α} (asks : p.Asks P)
    (allowed : ∀ request s, P request → I s → G request s)
    (keeps : ∀ request s reply s', P request → I s → A request s reply s' → I s') (start : I s) :
    p.Guarded A G s := by
  induction p generalizing s with
  | done result => trivial
  | call request next ih =>
      refine ⟨allowed request s asks.1 start, fun reply s' answered => ?_⟩
      exact ih reply (asks.2 reply) (keeps request s reply s' asks.1 start answered)
  | log event next ih => exact ih asks start

theorem of_asks {P : Call → Prop} {p : Program α} (asks : p.Asks P)
    (allowed : ∀ request s, P request → G request s) : p.Guarded A G s :=
  of_invariant (I := fun _ => True) asks (fun request s holds _ => allowed request s holds)
    (fun _ _ _ _ _ _ _ => trivial) trivial

theorem bind {p : Program α} {f : α → Program β} {Q : Except Error α → σ → Prop}
    (first : p.Guarded A G s) (ends : p.Always A s Q)
    (rest : ∀ value s', Q (.ok value) s' → (f value).Guarded A G s') : (p >>= f).Guarded A G s := by
  show (p.bind f).Guarded A G s
  induction p generalizing s with
  | done result =>
      cases result with
      | ok value => exact rest value s ends
      | error e => trivial
  | call request next ih =>
      refine ⟨first.1, fun reply s' answered => ?_⟩
      exact ih reply (first.2 reply s' answered) (ends reply s' answered)
  | log event next ih => exact ih first ends

theorem ask_bind {request : Call} {f : request.Answer → Program β} (here : G request s)
    (rest : ∀ answer s', A request s (.ok answer) s' → (f answer).Guarded A G s') :
    (ask request >>= f).Guarded A G s := by
  refine ⟨here, fun reply s' answered => ?_⟩
  cases reply with
  | ok answer => exact rest answer s' answered
  | error e => trivial

theorem attempt_bind {p : Program α} {f : Except Error α → Program β}
    {Q : Except Error α → σ → Prop} (first : p.Guarded A G s) (ends : p.Always A s Q)
    (rest : ∀ outcome s', Q outcome s' → (f outcome).Guarded A G s') :
    (p.attempt >>= f).Guarded A G s := by
  show (p.attempt.bind f).Guarded A G s
  induction p generalizing s with
  | done result => exact rest result s ends
  | call request next ih =>
      refine ⟨first.1, fun reply s' answered => ?_⟩
      exact ih reply (first.2 reply s' answered) (ends reply s' answered)
  | log event next ih => exact ih first ends

/-- What follows a program that leaves nothing to rely on. -/
theorem andThen {p : Program α} {f : α → Program β} (first : p.Guarded A G s)
    (rest : ∀ value s', (f value).Guarded A G s') : (p >>= f).Guarded A G s :=
  bind (Q := fun _ _ => True) first (Always.of_forall fun _ _ => trivial) fun value s' _ =>
    rest value s'

theorem attempt_andThen {p : Program α} {f : Except Error α → Program β} (first : p.Guarded A G s)
    (rest : ∀ outcome s', (f outcome).Guarded A G s') : (p.attempt >>= f).Guarded A G s :=
  attempt_bind (Q := fun _ _ => True) first (Always.of_forall fun _ _ => trivial)
    fun outcome s' _ => rest outcome s'

section

variable {K : Kernel τ} (view : τ → σ) {p : Program α} {t : τ}
  (allowed : ∀ request t, A request (view t) (K.answer request t).1 (view (K.answer request t).2))

include allowed

/-- A guarded program makes its calls in allowed states of any kernel that answers as `A` says. -/
theorem moments (h : p.Guarded A G (view t)) : ∀ x ∈ p.moments K t, G x.1 (view x.2) := by
  induction p generalizing t with
  | done result => nofun
  | call request next ih =>
      exact List.forall_mem_cons.2 ⟨h.1, ih _ (h.2 _ _ (allowed request t))⟩
  | log event next ih => exact ih h

/-- What allowed calls keep holds in all states of a run. -/
theorem states {I : τ → Prop} (keeps : ∀ request t, G request (view t) → I t → I (K.answer request t).2)
    (h : p.Guarded A G (view t)) (start : I t) : ∀ u ∈ p.states K t, I u := by
  induction p generalizing t with
  | done result => exact List.forall_mem_singleton.2 start
  | call request next ih =>
      exact List.forall_mem_cons.2 ⟨start, ih _ (h.2 _ _ (allowed request t)) (keeps request t h.1 start)⟩
  | log event next ih => exact ih h start

end

end Guarded

end SandboxNet.Program
