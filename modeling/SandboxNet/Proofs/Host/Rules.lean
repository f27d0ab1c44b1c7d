import SandboxNet.Masquerade
import SandboxNet.Proofs.Host.Replies
import SandboxNet.Proofs.Ipv4

/-! # Masquerade rules on a host

A rule is checked for before it is appended or deleted, with the same arguments. The status of the
check decides on the command after it: zero means that the rule is there, one that it is not, and
anything else is a failure. Forwarding is turned on after the rule, where it is read to be off.
-/

namespace SandboxNet

/-- Two networks have one rule only if they are the same beyond the host bits. -/
theorem NatRule.spec_masquerade_eq_iff {interface : String} {net other : Ipv4Net} :
    (NatRule.masquerade interface other).spec = (NatRule.masquerade interface net).spec ↔
      other.network = net.network := by
  constructor
  · intro same
    have source : other.network.text = net.network.text := by
      simpa [NatRule.spec, NatRule.masquerade] using same
    exact Ipv4Net.text_injective source
  · intro same
    rw [NatRule.masquerade, NatRule.masquerade, same]

namespace Program

variable {σ β : Type} {K : Kernel σ} {s t : σ} {request : Call}

/-- A call that succeeds comes before what follows its value. -/
theorem run_ask_bind_of_ok {value : request.Answer} {f : request.Answer → Program β}
    (answered : K.answer request s = (.ok value, t)) : (ask request >>= f).run K s =
      { (f value).run K t with exchanges := ⟨request, .ok value⟩ :: ((f value).run K t).exchanges } := by
  show (call request fun reply => (done reply).bind f).run K s = _
  rw [run, answered]
  rfl

/-- A call that fails is the last one. -/
theorem run_ask_bind_of_error {e : Error} {f : request.Answer → Program β}
    (answered : K.answer request s = (.error e, t)) :
    (ask request >>= f).run K s = ⟨.error e, t, [⟨request, .error e⟩], []⟩ := by
  show (call request fun reply => (done reply).bind f).run K s = _
  rw [run, answered]
  rfl

end Program

namespace Host

open Program Masquerade

/-- How forwarding is turned on: the calls for it, the switch after them, and the result. -/
inductive Forwarded (path : String) : File → List Call → File → Except Error Unit → Prop where
  | unreadable {file : File} {cause : String} (unread : file.read = .error cause) :
      Forwarded path file [.ipv4Forwarding] file (.error (.kernelOperation ("read " ++ path) cause))
  | alreadyOn {file : File} {text : String} (read : file.read = .ok text)
      (on : Text.trimmed text = "1") : Forwarded path file [.ipv4Forwarding] file (.ok ())
  | turnedOn {content : List UInt8} {text : String} (read : (File.bytes content).read = .ok text)
      (off : Text.trimmed text ≠ "1") :
      Forwarded path (.bytes content) [.ipv4Forwarding, .setIpv4Forwarding true]
        (.bytes "1".toUTF8.toList) (.ok ())
  | unwritable {content : List UInt8} {cause text : String}
      (read : (File.readOnly content cause).read = .ok text) (off : Text.trimmed text ≠ "1") :
      Forwarded path (.readOnly content cause) [.ipv4Forwarding, .setIpv4Forwarding true]
        (.readOnly content cause) (.error (.kernelOperation ("write " ++ path) cause))

/-- How a command that changes a rule goes: whether it runs, and the result. -/
inductive Changed (command : Command) :
    Except Obstacle Reply → List Command → Except Error Unit → Prop where
  | unstarted {cause : Obstacle} : Changed command (.error cause) []
      (.error (.kernelOperation (" ".intercalate command) cause.text))
  | failed {reply : Reply} (failed : reply.status ≠ .exited 0) : Changed command (.ok reply) [command]
      (.error (.kernelOperation (" ".intercalate command)
        (String.ofList (Text.trim (Text.decodeLossy reply.err)))))
  | succeeded {reply : Reply} (succeeded : reply.status = .exited 0) :
      Changed command (.ok reply) [command] (.ok ())

/-- How the installing of a rule goes, by the reply to its check and what answers the command after it:
the commands that run, the calls, the switch for forwarding after them, and the result. -/
inductive Installed (line : String → Command) (rule : NatRule) (path : String) (switch : File)
    (first : Reply) (next : Except Obstacle Reply) :
    List Command → List Call → File → Except Error Unit → Prop where
  | present {calls : List Call} {switch' : File} {result : Except Error Unit}
      (there : first.status = .exited 0) (forwarded : Forwarded path switch calls switch' result) :
      Installed line rule path switch first next [line "-C"] (.natRuleExists rule :: calls) switch' result
  | appended {made : List Command} {calls : List Call} {switch' : File} {result : Except Error Unit}
      (absent : first.status = .exited 1) (changed : Changed (line "-A") next made (.ok ()))
      (forwarded : Forwarded path switch calls switch' result) :
      Installed line rule path switch first next (line "-C" :: made)
        (.natRuleExists rule :: .appendNatRule rule :: calls) switch' result
  | refused {made : List Command} {e : Error} (absent : first.status = .exited 1)
      (changed : Changed (line "-A") next made (.error e)) :
      Installed line rule path switch first next (line "-C" :: made)
        [.natRuleExists rule, .appendNatRule rule] switch (.error e)
  | unchecked (notThere : first.status ≠ .exited 0) (notAbsent : first.status ≠ .exited 1) :
      Installed line rule path switch first next [line "-C"] [.natRuleExists rule] switch
        (.error (.kernelOperation "iptables -C" (String.ofList (Text.trim (Text.decodeLossy first.err)))))

/-- How the removal of a rule goes, in the same way. -/
inductive Removed (line : String → Command) (rule : NatRule) (first : Reply)
    (next : Except Obstacle Reply) : List Command → List Call → Except Error Bool → Prop where
  | present {made : List Command} {result : Except Error Unit} (there : first.status = .exited 0)
      (changed : Changed (line "-D") next made result) :
      Removed line rule first next (line "-C" :: made) [.natRuleExists rule, .deleteNatRule rule]
        (result.map fun _ => true)
  | absent (absent : first.status = .exited 1) :
      Removed line rule first next [line "-C"] [.natRuleExists rule] (.ok false)
  | unchecked (notThere : first.status ≠ .exited 0) (notAbsent : first.status ≠ .exited 1) :
      Removed line rule first next [line "-C"] [.natRuleExists rule]
        (.error (.kernelOperation "iptables -C" (String.ofList (Text.trim (Text.decodeLossy first.err)))))

variable {h : Host} {rule : NatRule} {first reply : Reply}

theorem checkOutcome_ok : checkOutcome (.ok reply) =
    if reply.status = .exited 0 then .ok true
    else if reply.status = .exited 1 then .ok false
    else .error (.kernelOperation "iptables -C"
      (String.ofList (Text.trim (Text.decodeLossy reply.err)))) := by
  obtain ⟨status, out, err⟩ := reply
  rcases status with (_ | _ | code) | _ <;> rfl

theorem forwarded_run (h : Host) :
    let r := enableForwarding.run kernel h
    Forwarded h.forwardPath h.forwardSwitch r.calls r.state.forwardSwitch r.result ∧
      r.state.ran = h.ran := by
  rw [enableForwarding]
  cases read : h.forwardSwitch.read with
  | error cause =>
      have asked : kernel.answer .ipv4Forwarding h =
          (.error (.kernelOperation ("read " ++ h.forwardPath) cause), h) := by
        simp only [kernel, readAt, read]
        rfl
      rw [run_ask_bind_of_error asked]
      exact ⟨.unreadable read, rfl⟩
  | ok text =>
      have asked : kernel.answer .ipv4Forwarding h = (.ok (Text.trimmed text == "1"), h) := by
        simp only [kernel, readAt, read]
        rfl
      rw [run_ask_bind_of_ok asked]
      cases on : Text.trimmed text == "1" with
      | true => exact ⟨.alreadyOn read (beq_iff_eq.1 on), rfl⟩
      | false =>
          have off : Text.trimmed text ≠ "1" := beq_eq_false_iff_ne.1 on
          simp only [Bool.false_eq_true, if_false]
          -- the file is there, and it may be written or not
          obtain ⟨content, file | ⟨cause, file⟩, -⟩ := File.read_eq_ok_iff.1 read
          · have written : kernel.answer (.setIpv4Forwarding true) h =
                (.ok (), { h with forwardSwitch := File.ofText "1" }) := by
              simp only [kernel, file, File.write, if_true]
            rw [run_ask_bind_of_ok written, file]
            exact ⟨.turnedOn (file ▸ read) off, rfl⟩
          · have refused : kernel.answer (.setIpv4Forwarding true) h =
                (.error (.kernelOperation ("write " ++ h.forwardPath) cause), h) := by
              simp only [kernel, file, File.write]
            rw [run_ask_bind_of_error refused]
            show Forwarded _ h.forwardSwitch _ h.forwardSwitch _ ∧ _
            rw [file]
            exact ⟨.unwritable (file ▸ read) off, rfl⟩

theorem changed_run (h : Host) (command : Command) :
    let r := h.changeRule command
    ∃ made, Changed command (h.nextReply command) made r.1 ∧ r.2.ran = h.ran ++ made ∧
      r.2.forwardSwitch = h.forwardSwitch ∧ r.2.forwardPath = h.forwardPath := by
  intro r
  cases replied : h.nextReply command with
  | error cause =>
      have stopped :
          r = (.error (.kernelOperation (" ".intercalate command) cause.text), h.hindered) := by
        show h.changeRule command = _
        rw [changeRule, execute_of_stopped replied]
        rfl
      rw [stopped]
      exact ⟨[], .unstarted, (List.append_nil _).symm, rfl, rfl⟩
  | ok reply =>
      have ran : r = ((outcome command (.ok reply)).map fun _ => (), h.answered command) := by
        show h.changeRule command = _
        rw [changeRule, execute_of_replied replied]
      rw [ran, outcome_ok]
      refine ⟨[command], ?_, rfl, rfl, rfl⟩
      split
      · next succeeded => exact .succeeded succeeded
      · next failed => exact .failed failed

theorem answer_appendNatRule (rule : NatRule) (h : Host) :
    kernel.answer (.appendNatRule rule) h = h.changeRule (Command.natRule "-A" rule) :=
  rfl

theorem answer_deleteNatRule (rule : NatRule) (h : Host) :
    kernel.answer (.deleteNatRule rule) h = h.changeRule (Command.natRule "-D" rule) :=
  rfl

theorem answer_check (replied : h.nextReply (Command.natRule "-C" rule) = .ok first) :
    kernel.answer (.natRuleExists rule) h =
      (checkOutcome (.ok first), h.answered (Command.natRule "-C" rule)) := by
  simp only [kernel, execute_of_replied replied]

/-- A check that cannot be started is all there is to an installing and to a removal. -/
theorem answer_check_of_stopped {cause : Obstacle}
    (stopped : h.nextReply (Command.natRule "-C" rule) = .error cause) :
    kernel.answer (.natRuleExists rule) h =
      (.error (.kernelOperation "iptables -C" cause.text), h.hindered) := by
  simp only [kernel, execute_of_stopped stopped]
  rfl

/-- A change of a rule after its check has the rest of the script. -/
theorem change_after_check (action : String) (plain : action.toList.contains '\x00' = false)
    (replied : h.nextReply (Command.natRule "-C" rule) = .ok first) :
    let checked := h.answered (Command.natRule "-C" rule)
    let command := Command.natRule action rule
    ∃ made result t, checked.changeRule command = (result, t) ∧
      Changed command (scripted h.obstacles.tail h.replies.tail) made result ∧
      t.ran = h.ran ++ Command.natRule "-C" rule :: made ∧
      t.forwardSwitch = h.forwardSwitch ∧ t.forwardPath = h.forwardPath := by
  intro checked command
  obtain ⟨clean, tools, -⟩ := obstacle?_eq_none_iff.1 (nextReply_eq_ok_iff.1 replied).1
  have same : command.hasZeroByte = (Command.natRule "-C" rule).hasZeroByte := by
    simp only [command, Command.hasZeroByte, Command.natRule, List.any_append, List.any_cons, plain]
    rfl
  obtain ⟨made, changed, ran, switch, path⟩ := changed_run checked command
  have next : checked.nextReply command = scripted h.obstacles.tail h.replies.tail :=
    nextReply_eq_scripted (same.trans clean) tools
  rw [next] at changed
  exact ⟨made, _, _, rfl, changed, ran.trans (List.append_assoc _ _ _), switch, path⟩

section

variable {interface : String} {net : Ipv4Net}
  (replied : h.nextReply (Command.natRule "-C" (NatRule.masquerade interface net)) = .ok first)

include replied

theorem installed_run :
    let rule := NatRule.masquerade interface net
    let r := (install interface net).run kernel h
    ∃ made, r.state.ran = h.ran ++ made ∧
      Installed (Command.natRule · rule) rule h.forwardPath h.forwardSwitch first
        (scripted h.obstacles.tail h.replies.tail) made r.calls r.state.forwardSwitch r.result := by
  rw [install]
  generalize NatRule.masquerade interface net = rule at replied ⊢
  have checked := answer_check replied
  rw [checkOutcome_ok] at checked
  by_cases present : first.status = .exited 0
  · rw [if_pos present] at checked
    rw [run_ask_bind_of_ok checked]
    obtain ⟨forwarded, ran⟩ := forwarded_run (h.answered (Command.natRule "-C" rule))
    exact ⟨_, ran, .present present forwarded⟩
  rw [if_neg present] at checked
  by_cases absent : first.status = .exited 1
  · rw [if_pos absent] at checked
    rw [run_ask_bind_of_ok checked]
    simp only [Bool.false_eq_true, if_false]
    obtain ⟨made, result, t, answer, changed, ran, switch, path⟩ :=
      change_after_check "-A" (by decide) replied
    have appended := (answer_appendNatRule rule _).trans answer
    cases result with
    | ok value =>
        rw [run_ask_bind_of_ok appended]
        obtain ⟨forwarded, rest⟩ := forwarded_run t
        rw [switch, path] at forwarded
        exact ⟨_, rest.trans ran, .appended absent changed forwarded⟩
    | error e =>
        rw [run_ask_bind_of_error appended]
        refine ⟨_, ran, ?_⟩
        rw [switch]
        exact .refused absent changed
  · rw [if_neg absent] at checked
    rw [run_ask_bind_of_error checked]
    exact ⟨_, rfl, .unchecked present absent⟩

theorem removed_run :
    let rule := NatRule.masquerade interface net
    let r := (remove interface net).run kernel h
    ∃ made, r.state.ran = h.ran ++ made ∧ r.state.forwardSwitch = h.forwardSwitch ∧
      Removed (Command.natRule · rule) rule first (scripted h.obstacles.tail h.replies.tail) made
        r.calls r.result := by
  rw [remove]
  generalize NatRule.masquerade interface net = rule at replied ⊢
  have checked := answer_check replied
  rw [checkOutcome_ok] at checked
  by_cases present : first.status = .exited 0
  · rw [if_pos present] at checked
    rw [run_ask_bind_of_ok checked]
    simp only [if_true]
    obtain ⟨made, result, t, answer, changed, ran, switch, -⟩ :=
      change_after_check "-D" (by decide) replied
    have deleted := (answer_deleteNatRule rule _).trans answer
    have removed : Removed (Command.natRule · rule) rule first _ _ _ (result.map fun _ => true) :=
      .present present changed
    cases result with
    | ok value =>
        rw [run_ask_bind_of_ok deleted]
        exact ⟨_, ran, switch, removed⟩
    | error e =>
        rw [run_ask_bind_of_error deleted]
        exact ⟨_, ran, switch, removed⟩
  rw [if_neg present] at checked
  by_cases absent : first.status = .exited 1
  · rw [if_pos absent] at checked
    rw [run_ask_bind_of_ok checked]
    exact ⟨_, rfl, rfl, .absent absent⟩
  · rw [if_neg absent] at checked
    rw [run_ask_bind_of_error checked]
    exact ⟨_, rfl, rfl, .unchecked present absent⟩

end

/-- The rule of a network is checked for first, and what the check answers decides on the command that
changes it and on the forwarding of packets. -/
theorem rule_checked_first (h : Host) (interface : String) (net : Ipv4Net) :
    let line (action : String) : Command := ["iptables", "-t", "nat", action, "POSTROUTING",
      "-s", net.network.text, "-o", interface, "-j", "MASQUERADE"]
    let rule := NatRule.masquerade interface net
    let path := h.procRoot ++ "/sys/net/ipv4/ip_forward"
    let installed := (install interface net).run kernel h
    let removed := (remove interface net).run kernel h
    (match h.nextReply (line "-C") with
      | .error cause =>
          let e := Error.kernelOperation "iptables -C" cause.text
          let left := { h with obstacles := h.obstacles.tail }
          installed = ⟨.error e, left, [⟨.natRuleExists rule, .error e⟩], []⟩ ∧
            removed = ⟨.error e, left, [⟨.natRuleExists rule, .error e⟩], []⟩
      | .ok first =>
          let next := scripted h.obstacles.tail h.replies.tail
          (∃ made, installed.state.ran = h.ran ++ made ∧
            Installed line rule path h.forwardSwitch first next made installed.calls
              installed.state.forwardSwitch installed.result) ∧
          ∃ made, removed.state.ran = h.ran ++ made ∧ removed.state.forwardSwitch = h.forwardSwitch ∧
            Removed line rule first next made removed.calls removed.result) ∧
    ∀ other : Ipv4Net, (NatRule.masquerade interface other).spec = rule.spec ↔
      other.network = net.network := by
  intro line rule path installed removed
  refine ⟨?_, fun other => NatRule.spec_masquerade_eq_iff⟩
  cases replied : h.nextReply (line "-C") with
  | error cause =>
      have checked : h.nextReply (Command.natRule "-C" rule) = .error cause := replied
      have stopped := answer_check_of_stopped checked
      constructor
      · show (install interface net).run kernel h = _
        rw [install, run_ask_bind_of_error stopped]
        rfl
      · show (remove interface net).run kernel h = _
        rw [remove, run_ask_bind_of_error stopped]
        rfl
  | ok first => exact ⟨installed_run replied, removed_run replied⟩

end Host

end SandboxNet
