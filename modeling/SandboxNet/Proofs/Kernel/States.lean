import SandboxNet.Proofs.Kernel.Asking
import SandboxNet.Kernel.Run

/-! # The states of a run

`Program.states` lists every state that a run passes through, those between two of its calls
included. An invariant that each call of a program keeps holds in all of them.
-/

namespace SandboxNet.Program

variable {σ α β : Type} {K : Kernel σ} {s t : σ}

/-- The states that a run passes through: the one before each call, and the last one. -/
def states (K : Kernel σ) : Program α → σ → List σ
  | done _, s => [s]
  | call request next, s =>
      let answered := K.answer request s
      s :: (next answered.1).states K answered.2
  | log _ next, s => next.states K s

theorem state_mem_states (p : Program α) : (p.run K s).state ∈ p.states K s := by
  induction p generalizing s with
  | done result => exact List.mem_singleton_self s
  | call request next ih => exact List.mem_cons_of_mem s (ih _)
  | log event next ih => exact ih

theorem states_attempt (p : Program α) : p.attempt.states K s = p.states K s := by
  induction p generalizing s with
  | done result => rfl
  | call request next ih => exact congrArg (s :: ·) (ih _)
  | log event next ih => exact ih

/-- A run of two programs passes through the states of the first, and then through those of the
second from where the first one left off. -/
theorem mem_states_bind {p : Program α} {f : α → Program β} (h : t ∈ (p >>= f).states K s) :
    t ∈ p.states K s ∨
      ∃ value, (p.run K s).result = .ok value ∧ t ∈ (f value).states K (p.run K s).state := by
  change t ∈ (p.bind f).states K s at h
  induction p generalizing s with
  | done result =>
      cases result with
      | ok value => exact .inr ⟨value, rfl, h⟩
      | error e => exact .inl h
  | call request next ih =>
      rcases List.mem_cons.1 h with rfl | later
      · exact .inl List.mem_cons_self
      · exact (ih _ later).imp_left (List.mem_cons_of_mem s)
  | log event next ih => exact ih h

/-- The step of the invariant is a call, so it holds between two calls as well. -/
theorem states_of_asks {P : Call → Prop} {I : σ → Prop} {p : Program α} (asks : p.Asks P)
    (keeps : ∀ request s, P request → I s → I (K.answer request s).2) (start : I s) :
    ∀ t ∈ p.states K s, I t := by
  induction p generalizing s with
  | done result =>
      intro t member
      exact List.mem_singleton.1 member ▸ start
  | call request next ih =>
      intro t member
      rcases List.mem_cons.1 member with rfl | later
      · exact start
      · exact ih _ (asks.2 _) (keeps request s asks.1 start) t later
  | log event next ih => exact ih asks start

/-- What each call has to do with the state after it, all earlier states of a run have to do with
all later ones. -/
theorem pairwise_states_of_asks {P : Call → Prop} {R : σ → σ → Prop} {p : Program α}
    (asks : p.Asks P) (trans : ∀ s t u, R s t → R t u → R s u)
    (step : ∀ request s, P request → R s (K.answer request s).2) : (p.states K s).Pairwise R := by
  induction p generalizing s with
  | done result => exact List.pairwise_singleton R s
  | call request next ih =>
      refine List.Pairwise.cons (states_of_asks (asks.2 _) ?_ (step request s asks.1)) (ih _ (asks.2 _))
      intro later t holds before
      exact trans s t _ before (step later t holds)
  | log event next ih => exact ih asks

end SandboxNet.Program
