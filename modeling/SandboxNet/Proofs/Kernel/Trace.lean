import SandboxNet.Proofs.Kernel.Always
import SandboxNet.Proofs.Kernel.Asking

/-! # The exchanges of a run

`Program.recording` allows every reply and adds it to the exchanges made so far. What a program
always does under it holds of the exchanges of every run, over any kernel.
-/

namespace SandboxNet.Program

variable {σ α : Type} {past : List Exchange} {K : Kernel σ} {s : σ}

def recording : Answering (List Exchange) := fun request past reply now =>
  now = past ++ [⟨request, reply⟩]

theorem Always.exchanges {p : Program α} {Q : Except Error α → List Exchange → Prop}
    (h : p.Always recording past Q) (K : Kernel σ) (s : σ) :
    Q (p.run K s).result (past ++ (p.run K s).exchanges) := by
  induction p generalizing s past with
  | done result =>
      rw [← List.append_nil past] at h
      exact h
  | call request next ih =>
      have later := ih (K.answer request s).1 (h _ _ rfl) (K.answer request s).2
      rw [List.append_assoc] at later
      exact later
  | log event next ih => exact ih h s

theorem Asks.always {P : Call → Prop} {p : Program α} (asks : p.Asks P) :
    p.Always recording past fun _ now => ∃ made, now = past ++ made ∧ ∀ x ∈ made, P x.request := by
  induction p generalizing past with
  | done result => exact ⟨[], (List.append_nil past).symm, fun _ member => nomatch member⟩
  | call request next ih =>
      rintro reply _ rfl
      refine (ih reply (asks.2 reply)).mono ?_
      rintro _ _ ⟨made, rfl, holds⟩
      exact ⟨_ :: made, List.append_assoc _ _ _, List.forall_mem_cons.2 ⟨asks.1, holds⟩⟩
  | log event next ih => exact ih asks

/-- No exchange is made up: the kernel gave the reply in some state. -/
theorem reply_of_mem_exchanges {p : Program α} {x : Exchange} (member : x ∈ (p.run K s).exchanges) :
    ∃ t, x.reply = (K.answer x.request t).1 := by
  induction p generalizing s with
  | done result => cases member
  | call request next ih =>
      rcases List.mem_cons.1 member with rfl | later
      · exact ⟨s, rfl⟩
      · exact ih _ later
  | log event next ih => exact ih member

end SandboxNet.Program
