import SandboxNet.Host.Kernel
import SandboxNet.Proofs.Text.Search

/-! # Replies to commands

A command is answered by the next reply of its host's script, unless something keeps it from being
started. A program that fails complains, and the complaint tells whether its device is gone, or has no
queueing discipline to hold filters. What is said of a command that was not started tells neither.
-/

namespace SandboxNet.Host

variable {h : Host} {device : String} {command : Command} {reply : Reply} {cause : Obstacle}

/-- What answers a command: the next reply of the script, or why there is none. -/
def nextReply (h : Host) (command : Command) : Except Obstacle Reply :=
  match h.obstacle? command with
  | some cause => .error cause
  | none => .ok (h.replies.headD Reply.silent)

/-- The script decides on commands that can be given to a program that is there. -/
theorem obstacle?_eq_headD (clean : command.hasZeroByte = false) (tools : h.hasTools = true) :
    h.obstacle? command = h.obstacles.headD none := by
  rw [obstacle?, clean, if_neg Bool.false_ne_true, if_pos tools]

theorem obstacle?_eq_none_iff : h.obstacle? command = none ↔
    command.hasZeroByte = false ∧ h.hasTools = true ∧ h.obstacles.headD none = none := by
  unfold obstacle?
  cases command.hasZeroByte <;> cases h.hasTools <;> simp

theorem execute_of_obstacle (met : h.obstacle? command = some cause) :
    h.execute command = (.error cause, h.hindered) := by
  rw [execute, met]

theorem execute_of_clear (clear : h.obstacle? command = none) :
    h.execute command = (.ok (h.replies.headD Reply.silent), h.answered command) := by
  rw [execute, clear]

theorem nextReply_eq_error_iff :
    h.nextReply command = .error cause ↔ h.obstacle? command = some cause := by
  unfold nextReply
  cases h.obstacle? command <;> simp

theorem nextReply_eq_ok_iff : h.nextReply command = .ok reply ↔
    h.obstacle? command = none ∧ h.replies.headD Reply.silent = reply := by
  unfold nextReply
  cases h.obstacle? command <;> simp

/-- What a script has for a command that can be given to a program that is there. -/
def scripted (obstacles : List (Option Obstacle)) (replies : List Reply) : Except Obstacle Reply :=
  match obstacles.headD none with
  | some cause => .error cause
  | none => .ok (replies.headD Reply.silent)

theorem nextReply_eq_scripted (clean : command.hasZeroByte = false) (tools : h.hasTools = true) :
    h.nextReply command = scripted h.obstacles h.replies := by
  rw [nextReply, scripted, obstacle?_eq_headD clean tools]

theorem execute_of_stopped (stopped : h.nextReply command = .error cause) :
    h.execute command = (.error cause, h.hindered) :=
  execute_of_obstacle (nextReply_eq_error_iff.1 stopped)

theorem execute_of_replied (replied : h.nextReply command = .ok reply) :
    h.execute command = (.ok reply, h.answered command) := by
  obtain ⟨clear, rfl⟩ := nextReply_eq_ok_iff.1 replied
  exact execute_of_clear clear

theorem execute_fst (h : Host) (command : Command) : (h.execute command).1 = h.nextReply command := by
  cases answer : h.nextReply command with
  | error cause => rw [execute_of_stopped answer]
  | ok reply => rw [execute_of_replied answer]

namespace Reply

variable {r : Reply}

/-- A complaint that the device is gone. -/
def Gone (r : Reply) : Prop :=
  "Cannot find device".toList <:+: Text.trim (Text.decodeLossy r.err) ∨
    "does not exist".toList <:+: Text.trim (Text.decodeLossy r.err)

/-- A complaint that there is no queueing discipline to hold filters. -/
def LacksQdisc (r : Reply) : Prop :=
  "Cannot find specified qdisc".toList <:+: Text.trim (Text.decodeLossy r.err)

theorem saysGone_iff : saysGone r.complaint = true ↔ r.Gone := by
  rw [saysGone, Bool.or_eq_true, Text.contains_iff, Text.contains_iff]
  rfl

theorem saysNoQdisc_iff : saysNoQdisc r.complaint = true ↔ r.LacksQdisc :=
  Text.contains_iff

instance : Decidable r.Gone := decidable_of_iff _ saysGone_iff

instance : Decidable r.LacksQdisc := decidable_of_iff _ saysNoQdisc_iff

/-- Trimming a complaint takes nothing from the phrases, which start and end with letters. -/
theorem gone_iff : r.Gone ↔ "Cannot find device".toList <:+: Text.decodeLossy r.err ∨
    "does not exist".toList <:+: Text.decodeLossy r.err := by
  rw [Gone, Text.infix_trim ⟨'C', rfl, rfl⟩ ⟨'e', rfl, rfl⟩,
    Text.infix_trim ⟨'d', rfl, rfl⟩ ⟨'t', rfl, rfl⟩]

theorem lacksQdisc_iff :
    r.LacksQdisc ↔ "Cannot find specified qdisc".toList <:+: Text.decodeLossy r.err := by
  rw [LacksQdisc, Text.infix_trim ⟨'C', rfl, rfl⟩ ⟨'c', rfl, rfl⟩]

end Reply

theorem isOk_map {ε α β : Type} (x : Except ε α) (f : α → β) : (x.map f).isOk = x.isOk := by
  cases x <;> rfl

theorem outcome_ok : outcome command (.ok reply) =
    if reply.status = .exited 0 then .ok (Text.decodeLossy reply.out)
    else .error (.kernelOperation (" ".intercalate command)
      (String.ofList (Text.trim (Text.decodeLossy reply.err)))) := by
  by_cases succeeded : reply.status = .exited 0
  · rw [if_pos succeeded]
    exact if_pos (Reply.succeeded_iff.2 succeeded)
  · rw [if_neg succeeded]
    exact if_neg (mt Reply.succeeded_iff.1 succeeded)

theorem outcomeOn_ok : outcomeOn device command (.ok reply) =
    if reply.status = .exited 0 then .ok (Text.decodeLossy reply.out)
    else if reply.Gone then .error (.linkNotFound device)
    else .error (.kernelOperation (" ".intercalate command)
      (String.ofList (Text.trim (Text.decodeLossy reply.err)))) := by
  rw [outcomeOn, outcome_ok]
  by_cases succeeded : reply.status = .exited 0
  · simp only [if_pos succeeded]
  · simp only [if_neg succeeded, String.toList_ofList]
    exact ite_congr (propext Reply.saysGone_iff) (fun _ => rfl) fun _ => rfl

/-- A program that ran on a device and failed, with the error that its complaint stands for. -/
inductive Failed (device : String) (command : Command) (reply : Reply) : Error → Prop where
  | gone (failed : reply.status ≠ .exited 0) (gone : reply.Gone) :
      Failed device command reply (.linkNotFound device)
  | other (failed : reply.status ≠ .exited 0) (present : ¬ reply.Gone) :
      Failed device command reply (.kernelOperation (" ".intercalate command)
        (String.ofList (Text.trim (Text.decodeLossy reply.err))))

theorem Failed.status_ne {e : Error} (failed : Failed device command reply e) :
    reply.status ≠ .exited 0 := by
  cases failed with
  | gone failed | other failed => exact failed

theorem failed_of_outcomeOn {e : Error} (h : outcomeOn device command (.ok reply) = .error e) :
    Failed device command reply e := by
  rw [outcomeOn_ok] at h
  split at h
  · cases h
  next failed =>
  split at h <;> cases h
  · next gone => exact .gone failed gone
  · next present => exact .other failed present

theorem isOk_outcomeOn :
    (outcomeOn device command (.ok reply)).isOk = true ↔ reply.status = .exited 0 := by
  rw [outcomeOn_ok]
  grind [Except.toBool]

theorem filtersOutcome_ok : filtersOutcome device command (.ok reply) =
    if reply.status = .exited 0 then .ok (Text.decodeLossy reply.out)
    else if reply.Gone then .error (.linkNotFound device)
    else if reply.LacksQdisc then .ok []
    else .error (.kernelOperation (" ".intercalate command)
      (String.ofList (Text.trim (Text.decodeLossy reply.err)))) := by
  rw [filtersOutcome, outcomeOn_ok]
  by_cases succeeded : reply.status = .exited 0
  · simp only [if_pos succeeded]
  by_cases gone : reply.Gone
  · simp only [if_neg succeeded, if_pos gone]
  · simp only [if_neg succeeded, if_neg gone, String.toList_ofList]
    exact ite_congr (propext Reply.saysNoQdisc_iff) (fun _ => rfl) fun _ => rfl

theorem isOk_filtersOutcome : (filtersOutcome device command (.ok reply)).isOk = true ↔
    reply.status = .exited 0 ∨ reply.LacksQdisc ∧ ¬ reply.Gone := by
  rw [filtersOutcome_ok]
  grind [Except.toBool]

/-- What is said of a command that was not started does not read like a missing device. -/
theorem outcomeOn_error : outcomeOn device command (.error cause) =
    .error (.kernelOperation (" ".intercalate command) cause.text) := by
  have present : saysGone cause.text.toList = false := by cases cause <;> decide +kernel
  simp only [outcomeOn, outcome, present]
  rfl

/-- Nor does it read like a missing queueing discipline. -/
theorem filtersOutcome_error : filtersOutcome device command (.error cause) =
    .error (.kernelOperation (" ".intercalate command) cause.text) := by
  have held : saysNoQdisc cause.text.toList = false := by cases cause <;> decide +kernel
  simp only [filtersOutcome, outcomeOn_error, held]
  rfl

end SandboxNet.Host
