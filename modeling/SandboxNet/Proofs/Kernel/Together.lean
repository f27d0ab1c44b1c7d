import SandboxNet.Kernel.Run

/-! # Two runs side by side

Two programs run `Together` when they end with the same result, in states that are related. The rules
take both programs apart at once, or one of them alone where only that one has something to do.
-/

namespace SandboxNet.Program

variable {σ α β γ : Type} {K : Kernel σ} {s t : σ}

theorem run_bind_of_ok {p : Program α} {f : α → Program β} {value : α}
    (ended : (p.run K s).result = .ok value) :
    ((p >>= f).run K s).result = ((f value).run K (p.run K s).state).result ∧
      ((p >>= f).run K s).state = ((f value).run K (p.run K s).state).state := by
  show ((p.bind f).run K s).result = _ ∧ ((p.bind f).run K s).state = _
  induction p generalizing s with
  | done result =>
      cases ended
      exact ⟨rfl, rfl⟩
  | call request next ih => exact ih _ ended
  | log event next ih => exact ih ended

theorem run_bind_of_error {p : Program α} {f : α → Program β} {e : Error}
    (ended : (p.run K s).result = .error e) :
    ((p >>= f).run K s).result = .error e ∧ ((p >>= f).run K s).state = (p.run K s).state := by
  show ((p.bind f).run K s).result = _ ∧ ((p.bind f).run K s).state = _
  induction p generalizing s with
  | done result =>
      cases ended
      exact ⟨rfl, rfl⟩
  | call request next ih => exact ih _ ended
  | log event next ih => exact ih ended

/-- Nothing is run for a change of the value. -/
theorem run_bind_pure {p : Program α} (f : α → β) :
    ((p >>= fun value => pure (f value)).run K s).result = (p.run K s).result.map f ∧
      ((p >>= fun value => pure (f value)).run K s).state = (p.run K s).state := by
  cases ended : (p.run K s).result with
  | ok value => exact run_bind_of_ok (f := fun value => pure (f value)) ended
  | error e => exact run_bind_of_error ended

/-- Two programs end with the same result, in related states. -/
structure Together (K : Kernel σ) (R : σ → σ → Prop) (p q : Program α) (s t : σ) : Prop where
  result : (p.run K s).result = (q.run K t).result
  state : R (p.run K s).state (q.run K t).state

namespace Together

variable {R S : σ → σ → Prop} {p q : Program α} {f g : α → Program β}

theorem bind (first : Together K S p q s t) (weaker : ∀ s' t', S s' t' → R s' t')
    (next : ∀ value, (p.run K s).result = .ok value →
      Together K R (f value) (g value) (p.run K s).state (q.run K t).state) :
    Together K R (p >>= f) (q >>= g) s t := by
  cases ended : (p.run K s).result with
  | ok value =>
      obtain ⟨resultP, stateP⟩ := run_bind_of_ok (f := f) ended
      obtain ⟨resultQ, stateQ⟩ := run_bind_of_ok (f := g) (first.result.symm.trans ended)
      have later := next value ended
      constructor
      · rw [resultP, resultQ, later.result]
      · rw [stateP, stateQ]
        exact later.state
  | error e =>
      obtain ⟨resultP, stateP⟩ := run_bind_of_error (f := f) ended
      obtain ⟨resultQ, stateQ⟩ := run_bind_of_error (f := g) (first.result.symm.trans ended)
      constructor
      · rw [resultP, resultQ]
      · rw [stateP, stateQ]
        exact weaker _ _ first.state

/-- The first program does something that the second one leaves out. -/
theorem left {p : Program γ} {f : γ → Program α} {value : γ} (ended : (p.run K s).result = .ok value)
    (next : Together K R (f value) q (p.run K s).state t) : Together K R (p >>= f) q s t := by
  obtain ⟨result, state⟩ := run_bind_of_ok (f := f) ended
  constructor
  · rw [result, next.result]
  · rw [state]
    exact next.state

/-- The second program does something that the first one leaves out. -/
theorem right {q : Program γ} {g : γ → Program α} {value : γ} (ended : (q.run K t).result = .ok value)
    (next : Together K R p (g value) s (q.run K t).state) : Together K R p (q >>= g) s t := by
  obtain ⟨result, state⟩ := run_bind_of_ok (f := g) ended
  constructor
  · rw [result, next.result]
  · rw [state]
    exact next.state

theorem note {level level' : Log.Level} {message message' : String}
    {fields fields' : List (String × Log.Value)} {f g : Unit → Program α}
    (next : Together K R (f ()) (g ()) s t) :
    Together K R (Program.note level message fields >>= f)
      (Program.note level' message' fields' >>= g) s t :=
  ⟨next.result, next.state⟩

theorem pure {value other : α} (equal : value = other) (related : R s t) :
    Together K R (Pure.pure value) (Pure.pure other) s t :=
  ⟨congrArg Except.ok equal, related⟩

/-- One program, run twice from one state. -/
theorem same (p : Program α) : Together K Eq p p s s := ⟨rfl, rfl⟩

end Together

end SandboxNet.Program
