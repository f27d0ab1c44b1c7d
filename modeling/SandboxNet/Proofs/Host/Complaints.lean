import Mathlib.Data.List.Basic
import SandboxNet.Kernel.Run
import SandboxNet.Proofs.Host.Replies

/-! # What the failure of a tool means

A tool that fails complains, and its complaint tells whether its device is gone. `Judged` holds what a
call on a device may answer to each reply of its tool. Calls about masquerade rules never take a
complaint for a missing device, and what a failing tool prints besides its complaint is not looked at.
-/

namespace SandboxNet.Host

open Program

variable {h : Host} {device : String} {command : Command} {request : Call}

/-- The calls that a tool carries out on a device, with its command. -/
inductive Tooled : Call → String → Command → Prop where
  | deleteLink (link : Link) :
      Tooled (.deleteLink link) link.name ["ip", "link", "delete", "dev", link.name]
  | qdiscs (link : Link) : Tooled (.qdiscs link) link.name ["tc", "qdisc", "show", "dev", link.name]
  | addIngress (link : Link) {q : Tc.Qdisc} (ingress : q.kind = "ingress") :
      Tooled (.addQdisc link q) link.name
        ["tc", "qdisc", "add", "dev", link.name, "handle", "ffff:", "ingress"]
  | addQdisc (link : Link) {q : Tc.Qdisc} (other : q.kind ≠ "ingress") :
      Tooled (.addQdisc link q) link.name (["tc", "qdisc", "add", "dev", link.name] ++
        (if q.parent = ⟨0xffff, 0xffff⟩ then ["root"] else ["parent", q.parent.text]) ++
        ["handle", q.handle.text, q.kind])
  | delIngress (link : Link) {q : Tc.Qdisc} (ingress : q.kind = "ingress") :
      Tooled (.delQdisc link q) link.name ["tc", "qdisc", "del", "dev", link.name, "ingress"]
  | delQdisc (link : Link) {q : Tc.Qdisc} (other : q.kind ≠ "ingress") :
      Tooled (.delQdisc link q) link.name (["tc", "qdisc", "del", "dev", link.name] ++
        (if q.parent = ⟨0xffff, 0xffff⟩ then ["root"] else ["parent", q.parent.text]) ++
        ["handle", q.handle.text])
  | filters (link : Link) (parent : Tc.Handle) : Tooled (.filters link parent) link.name
      ["tc", "filter", "show", "dev", link.name, "parent", parent.text]
  | addFilter (link : Link) {f : Tc.Filter} {target : String} (redirects : f.redirectTo = some target) :
      Tooled (.addFilter link f) link.name
        ["tc", "filter", "add", "dev", link.name, "parent", f.parent.text, "protocol", f.protocol,
          "prio", Text.digits 10 f.priority.toNat, "u32", "match", "u32", "0", "0",
          "action", "mirred", "egress", "redirect", "dev", target]
  | delFilter (link : Link) (f : Tc.Filter) : Tooled (.delFilter link f) link.name
      ["tc", "filter", "del", "dev", link.name, "parent", f.parent.text,
        "prio", Text.digits 10 f.priority.toNat]

/-- What a call answers when its tool, run on a device, gave a reply or could not be started. -/
inductive Judged (device : String) (command : Command) :
    (request : Call) → Except Obstacle Reply → Except Error request.Answer → Prop where
  | unstarted {request : Call} {cause : Obstacle} : Judged device command request (.error cause)
      (.error (.kernelOperation (" ".intercalate command) cause.text))
  | succeeded {request : Call} {reply : Reply} (done : reply.status = .exited 0)
      (answer : request.Answer) : Judged device command request (.ok reply) (.ok answer)
  | gone {request : Call} {reply : Reply} (failed : reply.status ≠ .exited 0) (gone : reply.Gone) :
      Judged device command request (.ok reply) (.error (.linkNotFound device))
  | unfiltered {link : Link} {parent : Tc.Handle} {reply : Reply}
      (failed : reply.status ≠ .exited 0) (present : ¬ reply.Gone) (none : reply.LacksQdisc) :
      Judged device command (.filters link parent) (.ok reply) (.ok [])
  | failed {request : Call} {reply : Reply} (failed : reply.status ≠ .exited 0)
      (present : ¬ reply.Gone) (other : request.kind = .filters → ¬ reply.LacksQdisc) :
      Judged device command request (.ok reply) (.error (.kernelOperation (" ".intercalate command)
        (String.ofList (Text.trim (Text.decodeLossy reply.err)))))

theorem judged_outcomeOn (other : request.kind ≠ .filters) (read : List Char → request.Answer) :
    Judged device command request (h.nextReply command)
      ((outcomeOn device command (h.execute command).1).map read) := by
  rw [execute_fst]
  cases h.nextReply command with
  | error cause =>
      rw [outcomeOn_error]
      exact .unstarted
  | ok reply =>
      rw [outcomeOn_ok]
      split
      · next succeeded => exact .succeeded succeeded _
      next failed =>
      split
      · next gone => exact .gone failed gone
      · next present => exact .failed failed present fun kind => absurd kind other

theorem judged_filtersOutcome (link : Link) (parent : Tc.Handle) (read : List Char → List Tc.Filter)
    (nothing : read [] = []) : Judged device command (.filters link parent) (h.nextReply command)
      ((filtersOutcome device command (h.execute command).1).map read) := by
  rw [execute_fst]
  cases h.nextReply command with
  | error cause =>
      rw [filtersOutcome_error]
      exact .unstarted
  | ok reply =>
      rw [filtersOutcome_ok]
      split
      · next succeeded => exact .succeeded succeeded _
      next failed =>
      split
      · next gone => exact .gone failed gone
      next present =>
      split
      · next none =>
          show Judged _ _ (.filters link parent) _ (.ok (read []))
          rw [nothing]
          exact .unfiltered failed present none
      · next other => exact .failed failed present fun _ => other

section

variable {q : Tc.Qdisc}

theorem place_eq (q : Tc.Qdisc) : Command.place q =
    if q.parent = ⟨0xffff, 0xffff⟩ then ["root"] else ["parent", q.parent.text] :=
  rfl

theorem addQdisc_of_ingress (ingress : q.kind = "ingress") (link : String) : Command.addQdisc link q =
    ["tc", "qdisc", "add", "dev", link, "handle", "ffff:", "ingress"] := by
  simp [Command.addQdisc, Tc.Qdisc.isIngress, ingress]

theorem addQdisc_of_other (other : q.kind ≠ "ingress") (link : String) : Command.addQdisc link q =
    ["tc", "qdisc", "add", "dev", link] ++
      (if q.parent = ⟨0xffff, 0xffff⟩ then ["root"] else ["parent", q.parent.text]) ++
      ["handle", q.handle.text, q.kind] := by
  simp [Command.addQdisc, place_eq, Tc.Qdisc.isIngress, other]

theorem delQdisc_of_ingress (ingress : q.kind = "ingress") (link : String) :
    Command.delQdisc link q = ["tc", "qdisc", "del", "dev", link, "ingress"] := by
  simp [Command.delQdisc, Tc.Qdisc.isIngress, ingress]

theorem delQdisc_of_other (other : q.kind ≠ "ingress") (link : String) : Command.delQdisc link q =
    ["tc", "qdisc", "del", "dev", link] ++
      (if q.parent = ⟨0xffff, 0xffff⟩ then ["root"] else ["parent", q.parent.text]) ++
      ["handle", q.handle.text] := by
  simp [Command.delQdisc, place_eq, Tc.Qdisc.isIngress, other]

end

theorem judged (tooled : Tooled request device command) :
    Judged device command request (h.nextReply command) (kernel.answer request h).1 := by
  cases tooled with
  | filters link parent => exact judged_filtersOutcome link parent _ rfl
  | addFilter link redirects =>
      simp only [kernel, redirects]
      exact judged_outcomeOn (by simp [Call.kind]) _
  | addIngress link ingress =>
      rw [← addQdisc_of_ingress ingress]
      exact judged_outcomeOn (by simp [Call.kind]) _
  | addQdisc link other =>
      rw [← addQdisc_of_other other]
      exact judged_outcomeOn (by simp [Call.kind]) _
  | delIngress link ingress =>
      rw [← delQdisc_of_ingress ingress]
      exact judged_outcomeOn (by simp [Call.kind]) _
  | delQdisc link other =>
      rw [← delQdisc_of_other other]
      exact judged_outcomeOn (by simp [Call.kind]) _
  | deleteLink | qdiscs | delFilter =>
      exact judged_outcomeOn (by simp [Call.kind]) _

/-- The calls about a masquerade rule. -/
inductive OnRule (rule : NatRule) : Call → Prop where
  | natRuleExists : OnRule rule (.natRuleExists rule)
  | appendNatRule : OnRule rule (.appendNatRule rule)
  | deleteNatRule : OnRule rule (.deleteNatRule rule)

theorem kernelOperation_of_outcome {e : Error} {reply : Except Obstacle Reply}
    (failed : outcome command reply = .error e) : ∃ op message, e = .kernelOperation op message := by
  unfold outcome at failed
  split at failed
  · cases failed
    exact ⟨_, _, rfl⟩
  · split at failed <;> cases failed
    exact ⟨_, _, rfl⟩

theorem kernelOperation_of_checkOutcome {e : Error} {reply : Except Obstacle Reply}
    (failed : checkOutcome reply = .error e) : ∃ op message, e = .kernelOperation op message := by
  unfold checkOutcome at failed
  split at failed
  · cases failed
    exact ⟨_, _, rfl⟩
  · split at failed <;> cases failed
    exact ⟨_, _, rfl⟩

theorem error_of_map {ε α β : Type} {x : Except ε α} {f : α → β} {e : ε} (h : x.map f = .error e) :
    x = .error e := by
  cases x <;> cases h
  rfl

theorem kernelOperation_of_rule {rule : NatRule} {e : Error} (onRule : OnRule rule request)
    (failed : (kernel.answer request h).1 = .error e) :
    ∃ op message, e = .kernelOperation op message := by
  cases onRule with
  | natRuleExists =>
      simp only [kernel] at failed
      exact kernelOperation_of_checkOutcome failed
  | appendNatRule | deleteNatRule =>
      simp only [kernel, changeRule] at failed
      exact kernelOperation_of_outcome (error_of_map failed)

/-- A reply without what a failing program printed. -/
def Reply.muted (r : Reply) : Reply := if r.status = .exited 0 then r else { r with out := [] }

/-- A host whose tools print nothing when they fail, besides their complaints. -/
def muted (h : Host) : Host := { h with replies := h.replies.map Reply.muted }

theorem headD_map_muted (replies : List Reply) :
    (replies.map Reply.muted).headD Reply.silent = (replies.headD Reply.silent).muted := by
  cases replies <;> rfl

theorem muted_answered (h : Host) (command : Command) :
    h.muted.answered command = (h.answered command).muted := by
  simp [answered, hindered, muted]

theorem execute_muted (h : Host) (command : Command) : h.muted.execute command =
    ((h.execute command).1.map Reply.muted, (h.execute command).2.muted) := by
  cases met : h.obstacle? command with
  | some cause =>
      have met' : h.muted.obstacle? command = some cause := met
      rw [execute_of_obstacle met, execute_of_obstacle met']
      rfl
  | none =>
      have met' : h.muted.obstacle? command = none := met
      rw [execute_of_clear met, execute_of_clear met', muted_answered]
      exact congrArg (Except.ok ·, _) (headD_map_muted h.replies)

section

variable {reply : Except Obstacle Reply}

theorem outcome_muted : outcome command (reply.map Reply.muted) = outcome command reply := by
  cases reply with
  | error cause => rfl
  | ok r =>
      show outcome command (.ok (if r.status = .exited 0 then r else _)) = _
      split
      · rfl
      · next failed => rw [outcome_ok, outcome_ok, if_neg failed, if_neg failed]

theorem checkOutcome_muted : checkOutcome (reply.map Reply.muted) = checkOutcome reply := by
  cases reply with
  | error cause => rfl
  | ok r =>
      show checkOutcome (.ok (if r.status = .exited 0 then r else _)) = _
      split <;> rfl

theorem outcomeOn_muted : outcomeOn device command (reply.map Reply.muted) =
    outcomeOn device command reply := by
  rw [outcomeOn, outcomeOn, outcome_muted]

theorem filtersOutcome_muted : filtersOutcome device command (reply.map Reply.muted) =
    filtersOutcome device command reply := by
  rw [filtersOutcome, filtersOutcome, outcomeOn_muted]

end

theorem answer_muted (request : Call) (h : Host) : kernel.answer request h.muted =
    ((kernel.answer request h).1, (kernel.answer request h).2.muted) := by
  cases request with
  | deleteLink | qdiscs | addQdisc | delQdisc | delFilter =>
      simp only [kernel, change, execute_muted, outcomeOn_muted]
  | filters => simp only [kernel, execute_muted, filtersOutcome_muted]
  | natRuleExists => simp only [kernel, execute_muted, checkOutcome_muted]
  | appendNatRule | deleteNatRule => simp only [kernel, changeRule, execute_muted, outcome_muted]
  | addFilter link f =>
      simp only [kernel, change]
      split
      · rw [execute_muted, outcomeOn_muted]
      · rfl
  | setIpv4Forwarding on =>
      simp only [kernel, muted]
      split <;> rfl
  | linkByName | addTap | linkAddrs =>
      simp only [kernel, interface?, muted]
      split <;> rfl
  | linkNames | setLinkUp | addAddress | ipv4Forwarding | routes => rfl

theorem run_muted {α : Type} (p : Program α) (h : Host) : p.run kernel h.muted =
    { p.run kernel h with state := (p.run kernel h).state.muted } := by
  induction p generalizing h with
  | done result => rfl
  | call request next ih =>
      simp only [run, answer_muted, ih]
  | log event next ih => simp only [run, ih]

/-- A call on a device answers what its tool's reply is judged to mean. A call about a rule never finds
that something is missing, and no run depends on what a failing tool prints. -/
theorem failures_classified :
    (∀ (h : Host) (request : Call) (device : String) (command : Command),
      Tooled request device command →
        Judged device command request (h.nextReply command) (kernel.answer request h).1) ∧
    (∀ (h : Host) (rule : NatRule) (request : Call) (e : Error), OnRule rule request →
      (kernel.answer request h).1 = .error e →
        (∃ op message, e = .kernelOperation op message) ∧ e.isNotFound = false) ∧
    ∀ (α : Type) (p : Program α) (h : Host), p.run kernel h.muted =
      { p.run kernel h with state := (p.run kernel h).state.muted } := by
  refine ⟨fun _ _ _ _ tooled => judged tooled, ?_, fun _ p h => run_muted p h⟩
  intro h rule request e onRule failed
  obtain ⟨op, message, rfl⟩ := kernelOperation_of_rule onRule failed
  exact ⟨⟨op, message, rfl⟩, rfl⟩

/-- One complaint about a missing device and a missing queueing discipline, to a listing of filters and
to the appending of a rule. -/
theorem failures_classified_precedence :
    let link : Link := ⟨2, "eth0", 1500⟩
    let rule := NatRule.masquerade "eth0" ⟨⟨172, 16, 1, 0⟩, ⟨24, by decide⟩⟩
    let reply : Reply := ⟨.exited 2, [],
      "Device \"eth0\" does not exist.\nError: Cannot find specified qdisc.\n".toUTF8.toList⟩
    let h : Host := { running with replies := [reply] }
    let listing := ["tc", "filter", "show", "dev", "eth0", "parent", "ffff:"]
    let failure := Error.kernelOperation
      "iptables -t nat -A POSTROUTING -s 172.16.1.0/24 -o eth0 -j MASQUERADE"
      "Device \"eth0\" does not exist.\nError: Cannot find specified qdisc."
    Tooled (.filters link Tc.Handle.ingress) "eth0" listing ∧ h.nextReply listing = .ok reply ∧
      Judged "eth0" listing (.filters link Tc.Handle.ingress) (.ok reply)
        (kernel.answer (.filters link Tc.Handle.ingress) h).1 ∧
      (kernel.answer (.filters link Tc.Handle.ingress) h).1 = .error (.linkNotFound "eth0") ∧
      OnRule rule (.appendNatRule rule) ∧
      (kernel.answer (.appendNatRule rule) h).1 = .error failure ∧ failure.isNotFound = false := by
  intro link rule reply h listing failure
  have tooled : Tooled (.filters link Tc.Handle.ingress) "eth0" listing := .filters link _
  have answered : h.nextReply listing = .ok reply := by decide +kernel
  have judged := failures_classified.1 h _ _ _ tooled
  rw [answered] at judged
  have found : (kernel.answer (.filters link Tc.Handle.ingress) h).1 = .error (.linkNotFound "eth0") := by
    decide +kernel
  have refused : (kernel.answer (.appendNatRule rule) h).1 = .error failure := by decide +kernel
  exact ⟨tooled, answered, judged, found, .appendNatRule, refused,
    (failures_classified.2.1 h rule _ failure .appendNatRule refused).2⟩

end SandboxNet.Host
