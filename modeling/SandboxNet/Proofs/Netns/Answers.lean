import SandboxNet.Netns.Kernel
import SandboxNet.Proofs.Kernel.Always

/-! # Calls that may fail

A namespace carries a call out or refuses it, and a failing call never reaches it. `Netns.Answers`
holds all that at once, so that what a program always does under it, it does under every schedule of
failures and every armed failure. The armed failure itself is left out there: no call looks at it.
-/

namespace SandboxNet

/-- The error of the call at each position of a run, if that one fails. -/
abbrev Schedule : Type := Nat → Option Error

/-- A kernel whose calls fail as scheduled, without reaching it; the state counts the calls made. -/
def Kernel.failing {σ : Type} (K : Kernel σ) (schedule : Schedule) : Kernel (Nat × σ) where
  answer request := fun (position, s) =>
    match schedule position with
    | some e => (.error e, (position + 1, s))
    | none =>
        let (reply, s) := K.answer request s
        (reply, (position + 1, s))

namespace Netns

/-- A namespace with another armed failure. -/
def arm (s : Netns) (failure : Option String) : Netns := { s with failNext := failure }

/-- Whether no call would meet the armed failure. -/
def Unarmed (s : Netns) : Prop := ∀ request, s.isArmedFor request = false

theorem unarmed_of_failNext {s : Netns} (h : s.failNext = none) : s.Unarmed := by
  intro request
  simp [isArmedFor, h]

theorem onLink_arm (s : Netns) (failure : Option String) (link : Link)
    (change : LinkRecord → Except Error LinkRecord) :
    (s.arm failure).onLink link change =
      (s.onLink link change).map fun done => (done.1, done.2.arm failure) := by
  have same : (s.arm failure).resolve link = s.resolve link := rfl
  simp only [onLink, same]
  cases s.resolve link with
  | error e => rfl
  | ok r =>
      show (change r >>= _) = Except.map _ (change r >>= _)
      cases change r <;> rfl

/-- No call looks at the armed failure or changes it. -/
theorem perform_arm (s : Netns) (failure : Option String) (request : Call) :
    (s.arm failure).perform request =
      (s.perform request).map fun done => (done.1, done.2.arm failure) := by
  have found : ∀ link, (s.arm failure).resolve link = s.resolve link := fun _ => rfl
  have held : (s.arm failure).links = s.links := rfl
  have rules : (s.arm failure).nat = s.nat := rfl
  cases request with
  | linkNames | natRuleExists | appendNatRule | ipv4Forwarding | setIpv4Forwarding | routes => rfl
  | setLinkUp | addAddress | addQdisc | delQdisc | delFilter => exact onLink_arm s failure _ _
  | linkByName name | linkAddrs name =>
      simp only [perform, held]
      cases s.links.get? name <;> rfl
  | addTap spec =>
      simp only [perform, Netns.addTap, held]
      split <;> rfl
  | deleteLink link | qdiscs link | filters link =>
      simp only [perform, found]
      cases s.resolve link <;> rfl
  | addFilter link f =>
      simp only [perform, held]
      cases f.redirectTo.filter (!s.links.contains ·) with
      | some target => rfl
      | none => exact onLink_arm s failure _ _
  | deleteNatRule rule =>
      simp only [perform, Netns.deleteNatRule, rules]
      split <;> rfl

theorem failNext_of_perform {s s' : Netns} {request : Call} {answer : request.Answer}
    (h : s.perform request = .ok (answer, s')) : s'.failNext = s.failNext := by
  have again := perform_arm s s.failNext request
  rw [show s.arm s.failNext = s from rfl, h] at again
  exact congrArg (fun done => done.2.failNext) (Except.ok.inj again)

/-- How a namespace answers a call: the armed failure fires, or the call is carried out or refused. -/
inductive Answered (request : Call) (s : Netns) : Except Error request.Answer × Netns → Prop where
  | fired (armed : s.isArmedFor request = true) : Answered request s
      (.error (.kernelOperation request.kind.name "operation not permitted"), s.arm none)
  | carried {answer : request.Answer} {s' : Netns} (calm : s.isArmedFor request = false)
      (h : s.perform request = .ok (answer, s')) : Answered request s (.ok answer, s')
  | refused {e : Error} (calm : s.isArmedFor request = false) (h : s.perform request = .error e) :
      Answered request s (.error e, s)

theorem answered (request : Call) (s : Netns) : Answered request s (kernel.answer request s) := by
  simp only [kernel]
  cases armed : s.isArmedFor request with
  | true => exact .fired armed
  | false =>
      cases h : s.perform request with
      | ok done => exact .carried armed h
      | error e => exact .refused armed h

theorem answer_of_perform {request : Call} {s s' : Netns} {answer : request.Answer}
    (calm : s.isArmedFor request = false) (h : s.perform request = .ok (answer, s')) :
    kernel.answer request s = (.ok answer, s') := by
  simp only [kernel, calm, h]
  rfl

theorem perform_of_answer {request : Call} {s : Netns} {answer : request.Answer}
    (replied : (kernel.answer request s).1 = .ok answer) :
    ∃ s', s.perform request = .ok (answer, s') ∧ (kernel.answer request s).2 = s' := by
  have reply := answered request s
  generalize kernel.answer request s = done at reply replied ⊢
  cases reply with
  | fired | refused => cases replied
  | carried _ h =>
      cases replied
      exact ⟨_, h, rfl⟩

/-- What a namespace may do with a call: carry it out, refuse it, or, where calls are `faulty`, not
see it at all. -/
inductive Answers (faulty : Prop) : Answering Netns where
  | carried {request : Call} {s s' : Netns} {answer : request.Answer}
      (h : s.perform request = .ok (answer, s')) : Answers faulty request s (.ok answer) s'
  | refused {request : Call} {s : Netns} {e : Error}
      (h : s.perform request = .error e) : Answers faulty request s (.error e) s
  | failed {request : Call} {s : Netns} (h : faulty) (e : Error) :
      Answers faulty request s (.error e) s

theorem Answers.arm {faulty : Prop} {request : Call} {s s' : Netns}
    {reply : Except Error request.Answer} (h : Answers faulty request s reply s')
    (failure : Option String) : Answers faulty request (s.arm failure) reply (s'.arm failure) := by
  cases h with
  | carried h => exact .carried (by rw [perform_arm, h]; rfl)
  | refused h => exact .refused (by rw [perform_arm, h]; rfl)
  | failed fails e => exact .failed fails e

theorem answers_kernel {s : Netns} (calm : s.Unarmed) (request : Call) :
    Answers False request s (kernel.answer request s).1 (kernel.answer request s).2 ∧
      (kernel.answer request s).2.Unarmed := by
  have reply := answered request s
  generalize kernel.answer request s = done at reply ⊢
  cases reply with
  | fired armed => simp [calm request] at armed
  | refused _ h => exact ⟨.refused h, calm⟩
  | carried _ h =>
      refine ⟨.carried h, ?_⟩
      intro other
      have kept := calm other
      simpa only [isArmedFor, failNext_of_perform h] using kept

theorem answers_failing (schedule : Schedule) (request : Call) (position : Nat) (s : Netns) :
    let answered := (kernel.failing schedule).answer request (position, s)
    Answers True request (s.arm none) answered.1 (answered.2.2.arm none) := by
  simp only [Kernel.failing]
  cases schedule position with
  | some e => exact .failed trivial e
  | none =>
      have reply := answered request s
      change Answers True request (s.arm none) (kernel.answer request s).1
        ((kernel.answer request s).2.arm none)
      generalize kernel.answer request s = done at reply ⊢
      cases reply with
      | fired => exact .failed trivial _
      | refused _ h => exact .failed trivial _
      | carried _ h => exact .carried (by rw [perform_arm, h]; rfl)

theorem error_of_failing {schedule : Schedule} {request : Call} {t : Nat × Netns} {e : Error}
    (replied : .error e = ((kernel.failing schedule).answer request t).1) :
    schedule t.1 = some e ∨ e = .kernelOperation request.kind.name "operation not permitted" ∨
      t.2.perform request = .error e := by
  simp only [Kernel.failing] at replied
  split at replied
  · next planned =>
      cases replied
      exact .inl planned
  · have reply := answered request t.2
    change .error e = (kernel.answer request t.2).1 at replied
    generalize kernel.answer request t.2 = done at reply replied
    cases reply with
    | carried => cases replied
    | fired =>
        cases replied
        exact .inr (.inl rfl)
    | refused _ h =>
        cases replied
        exact .inr (.inr h)

end Netns

namespace Program.Always

open Netns

variable {α β : Type} {faulty : Prop} {s : Netns}

/-- What a program always does while calls may fail, it does under every schedule of failures,
whatever failure is armed. -/
theorem run_failing {p : Program α} {Q : Except Error α → Netns → Prop}
    (h : p.Always (Answers True) (s.arm none) Q) (schedule : Schedule) (position : Nat) :
    Q (p.run (kernel.failing schedule) (position, s)).result
      ((p.run (kernel.failing schedule) (position, s)).state.2.arm none) :=
  (Always.run (fun t : Nat × Netns => t.2.arm none) (fun _ => True)
    (fun request t _ => ⟨answers_failing schedule request t.1 t.2, trivial⟩) h trivial).1

/-- What a program always does when no call fails that could be carried out, it does in a namespace
without an armed failure. -/
theorem run_unarmed {p : Program α} {Q : Except Error α → Netns → Prop}
    (h : p.Always (Answers False) s Q) (calm : s.Unarmed) :
    Q (p.run kernel s).result (p.run kernel s).state ∧ (p.run kernel s).state.Unarmed :=
  Always.run id Unarmed (fun request _ calm => answers_kernel calm request) h calm

theorem run_calm {p : Program α} {Q : Except Error α → Netns → Prop}
    (h : p.Always (Answers False) (s.arm none) Q) (calm : s.Unarmed) :
    Q (p.run kernel s).result ((p.run kernel s).state.arm none) :=
  (Always.run (fun t : Netns => t.arm none) Unarmed (fun request _ calm =>
    ⟨(answers_kernel calm request).1.arm none, (answers_kernel calm request).2⟩) h calm).1

theorem ask_bind {request : Call} {f : request.Answer → Program β}
    {Q : Except Error β → Netns → Prop}
    (carried : ∀ answer s', s.perform request = .ok (answer, s') →
      (f answer).Always (Answers faulty) s' Q)
    (stopped : ∀ e, s.perform request = .error e ∨ faulty → Q (.error e) s) :
    (ask request >>= f).Always (Answers faulty) s Q := by
  intro reply s' answered
  cases answered with
  | carried h => exact carried _ _ h
  | refused h => exact stopped _ (.inl h)
  | failed h e => exact stopped e (.inr h)

/-- A call that can be carried out. -/
theorem ask_bind_ok {request : Call} {f : request.Answer → Program β} {answer : request.Answer}
    {t : Netns} {Q : Except Error β → Netns → Prop}
    (h : s.perform request = .ok (answer, t)) (failed : faulty → ∀ e, Q (.error e) s)
    (next : (f answer).Always (Answers faulty) t Q) :
    (ask request >>= f).Always (Answers faulty) s Q := by
  apply ask_bind
  · intro other s' carried
    rw [h] at carried
    cases carried
    exact next
  · intro e stopped
    rcases stopped with refused | fails
    · rw [h] at refused
      cases refused
    · exact failed fails e

end Program.Always

end SandboxNet
