import SandboxNet.Proofs.Netns.Answers
import SandboxNet.Proofs.Sandbox.Calls

/-! # Setups that meet a failing call

A setup goes as it would go if no call failed, up to its first failing call. That call is its last
one and its error, and the namespace stays as the calls before it left it.
-/

namespace SandboxNet

open Program

namespace Netns

/-- The namespace after some calls, if each of them is carried out. -/
def carryOut (s : Netns) (requests : List Call) : Except Error Netns :=
  requests.foldlM (fun s request => (s.perform request).map (·.2)) s

theorem carryOut_cons {s s₁ : Netns} {request : Call} {answer : request.Answer}
    (h : s.perform request = .ok (answer, s₁)) (rest : List Call) :
    s.carryOut (request :: rest) = s₁.carryOut rest := by
  rw [carryOut, List.foldlM_cons, h]
  rfl

/-- What becomes of a call behind failing calls. -/
inductive Served (s : Netns) (request : Call) : Except Error request.Answer → Netns → Prop where
  | carried {answer : request.Answer} {s' : Netns} (h : s.perform request = .ok (answer, s')) :
      Served s request (.ok answer) s'
  | failed (e : Error) : Served s request (.error e) s
  | armed (h : s.isArmedFor request = true) (e : Error) : Served s request (.error e) (s.arm none)

theorem served_failing (schedule : Schedule) (request : Call) (t : Nat × Netns) :
    Served t.2 request ((kernel.failing schedule).answer request t).1
      ((kernel.failing schedule).answer request t).2.2 := by
  simp only [Kernel.failing]
  cases schedule t.1 with
  | some e => exact .failed e
  | none =>
      have reply := answered request t.2
      change Served t.2 request (kernel.answer request t.2).1 (kernel.answer request t.2).2
      generalize kernel.answer request t.2 = done at reply ⊢
      cases reply with
      | fired armed => exact .armed armed _
      | carried _ h => exact .carried h
      | refused => exact .failed _

theorem answer_arm_none {s s' : Netns} {request : Call} {answer : request.Answer}
    (h : s.perform request = .ok (answer, s')) :
    kernel.answer request (s.arm none) = (.ok answer, s'.arm none) := by
  have calm : (s.arm none).isArmedFor request = false := unarmed_of_failNext rfl request
  simp only [kernel, calm, Bool.false_eq_true, if_false, perform_arm, h]
  rfl

end Netns

open Netns

/-- How the exchanges, the result and the namespace of a run from `s` stand beside the exchanges and
the result of the run that no call fails: they are the same up to a failing call. -/
inductive Interrupted {α : Type} : (s : Netns) → (made : List Exchange) → (result : Except Error α) →
    (s' : Netns) → (free : List Exchange) → (ended : Except Error α) → Prop where
  | finished {s : Netns} {result : Except Error α} : Interrupted s [] result s [] result
  | failed {s s' : Netns} {request : Call} {e : Error} {reply : Except Error request.Answer}
      {later : List Exchange} {ended : Except Error α}
      (left : s' = s ∨ s.isArmedFor request = true ∧ s' = s.arm none) :
      Interrupted s [⟨request, .error e⟩] (.error e) s' (⟨request, reply⟩ :: later) ended
  | carried {s s₁ s' : Netns} {request : Call} {answer : request.Answer} {made free : List Exchange}
      {result ended : Except Error α} (h : s.perform request = .ok (answer, s₁))
      (rest : Interrupted s₁ made result s' free ended) :
      Interrupted s (⟨request, .ok answer⟩ :: made) result s' (⟨request, .ok answer⟩ :: free) ended

theorem Program.FailStop.interrupted {α : Type} {P : Call → Prop} {p : Program α} (h : p.FailStop P)
    (schedule : Schedule) (t : Nat × Netns) :
    let r := p.run (kernel.failing schedule) t
    let free := p.run kernel (t.2.arm none)
    Interrupted t.2 r.exchanges r.result r.state.2 free.exchanges free.result := by
  induction p generalizing t with
  | done result => exact .finished
  | log event next ih => exact ih h t
  | call request next ih =>
      obtain ⟨position, s⟩ := t
      have served := served_failing schedule request (position, s)
      simp only [run]
      generalize (kernel.failing schedule).answer request (position, s) = answered at served ⊢
      obtain ⟨reply, following, s₁⟩ := answered
      simp only at served
      cases served with
      | carried carried =>
          rw [answer_arm_none carried]
          exact .carried carried (ih _ (h.2.2 _) (following, s₁))
      | failed e =>
          rw [h.2.1 e]
          exact .failed (.inl rfl)
      | armed armed e =>
          rw [h.2.1 e]
          exact .failed (.inr ⟨armed, rfl⟩)

namespace Interrupted

variable {α : Type} {s s' : Netns} {made free : List Exchange} {result ended : Except Error α}

theorem not_failed_of_mem_dropLast (h : Interrupted s made result s' free ended) :
    ∀ x ∈ made.dropLast, x.failed = false := by
  induction h with
  | finished | failed => exact List.forall_mem_nil _
  | @carried _ _ _ _ _ made _ _ _ _ _ ih =>
      cases made with
      | nil => exact List.forall_mem_nil _
      | cons next later => exact List.forall_mem_cons.2 ⟨rfl, ih⟩

theorem calls_prefix (h : Interrupted s made result s' free ended) :
    made.map (·.request) <+: free.map (·.request) := by
  induction h with
  | finished => exact List.prefix_rfl
  | failed => exact List.cons_prefix_cons.2 ⟨rfl, List.nil_prefix⟩
  | carried _ _ ih => exact List.cons_prefix_cons.2 ⟨rfl, ih⟩

/-- The last call decides when it fails, and what the others made is left. -/
theorem of_failed {request : Call} {e : Error} (h : Interrupted s made result s' free ended)
    (last : made.getLast? = some ⟨request, .error e⟩) : result = .error e ∧
      ∃ s₁, s.carryOut (made.map (·.request)).dropLast = .ok s₁ ∧
        (s' = s₁ ∨ s₁.isArmedFor request = true ∧ s' = s₁.arm none) := by
  induction h with
  | finished => cases last
  | failed left =>
      cases last
      exact ⟨rfl, _, rfl, left⟩
  | @carried _ _ _ _ _ made _ _ _ performs _ ih =>
      cases made with
      | nil => cases last
      | cons next later =>
          obtain ⟨ended, s₁, before, left⟩ := ih last
          exact ⟨ended, s₁, (carryOut_cons performs _).trans before, left⟩

theorem eq_of_not_failed (h : Interrupted s made result s' free ended)
    (sound : ∀ x ∈ made, x.failed = false) : made = free ∧ result = ended := by
  induction h with
  | finished => exact ⟨rfl, rfl⟩
  | failed => cases sound _ List.mem_cons_self
  | carried _ _ ih =>
      obtain ⟨same, ended⟩ := ih fun x member => sound x (List.mem_cons_of_mem _ member)
      exact ⟨congrArg _ same, ended⟩

end Interrupted

namespace Strategy

theorem setup_stops (schedule : Schedule) (strategy : Strategy) (uid gid : UInt32) (s : Netns) :
    let r := (strategy.setup uid gid).run (kernel.failing schedule) (0, s)
    let free := (strategy.setup uid gid).run kernel (s.arm none)
    (∀ x ∈ r.exchanges.dropLast, x.failed = false) ∧
      (∀ request e, r.exchanges.getLast? = some ⟨request, .error e⟩ → r.result = .error e ∧
        ∃ s', s.carryOut r.calls.dropLast = .ok s' ∧
          (r.state.2 = s' ∨ s'.isArmedFor request = true ∧ r.state.2 = s'.arm none)) ∧
      r.calls <+: free.calls ∧
      ((∀ x ∈ r.exchanges, x.failed = false) →
        r.exchanges = free.exchanges ∧ r.result = free.result) := by
  intro r free
  have interrupted : Interrupted s r.exchanges r.result r.state.2 free.exchanges free.result :=
    (strategy.failStop_setup uid gid).interrupted schedule (0, s)
  exact ⟨interrupted.not_failed_of_mem_dropLast, fun _ _ => interrupted.of_failed, interrupted.calls_prefix,
    interrupted.eq_of_not_failed⟩

/-- A setup whose last call is to attach the ingress queueing discipline of `eth0`. -/
theorem setup_stops_withEth0 :
    let e : Error := .kernelOperation "add_qdisc" "operation not permitted"
    let schedule : Schedule := fun position => if position = 9 then some e else none
    let r := (setup ⟨.static, 1⟩ 1000 1000).run (kernel.failing schedule) (0, withEth0)
    let request : Call := .addQdisc ⟨2, "eth0", 1500⟩ Tc.Qdisc.ingress
    r.exchanges.getLast? = some ⟨request, .error e⟩ ∧ r.result = .error e ∧
      ∃ s', withEth0.carryOut r.calls.dropLast = .ok s' ∧
        (r.state.2 = s' ∨ s'.isArmedFor request = true ∧ r.state.2 = s'.arm none) := by
  intro e schedule r request
  have last : r.exchanges.getLast? = some ⟨request, .error e⟩ := by rfl
  exact ⟨last, (setup_stops schedule ⟨.static, 1⟩ 1000 1000 withEth0).2.1 request e last⟩

end Strategy

end SandboxNet
