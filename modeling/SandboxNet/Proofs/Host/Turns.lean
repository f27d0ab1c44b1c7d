import SandboxNet.Proofs.Host.Replies
import SandboxNet.Proofs.Kernel.Always
import SandboxNet.Proofs.Kernel.FailStop

/-! # The commands that a host runs

A run over a host takes one reply from its script for each command that is started. These commands,
dealt their replies, are the turns of the run, and a call about traffic control that is served adds one
turn or none.
-/

namespace SandboxNet.Host

open Program

/-- A command that was run, with what its program answered. -/
structure Turn where
  command : Command
  reply : Reply

namespace Turn

/-- Some commands with the replies of a script, in their order. -/
def deal : List Command → List Reply → List Turn
  | [], _ => []
  | command :: rest, replies => ⟨command, replies.headD Reply.silent⟩ :: deal rest replies.tail

theorem map_command_deal (commands : List Command) (replies : List Reply) :
    (deal commands replies).map (·.command) = commands := by
  induction commands generalizing replies with
  | nil => rfl
  | cons command rest ih => simp [deal, ih]

theorem deal_append_singleton (commands : List Command) (command : Command) (replies : List Reply) :
    deal (commands ++ [command]) replies =
      deal commands replies ++ [⟨command, (replies.drop commands.length).headD Reply.silent⟩] := by
  induction commands generalizing replies with
  | nil => rfl
  | cons first rest ih => simp [deal, ih]

/-- A listing of filters on a link that has no queueing discipline to hold any. -/
structure Unfiltered (t : Turn) : Prop where
  listing : ["tc", "filter", "show"] <+: t.command
  noQdisc : "Cannot find specified qdisc".toList <:+: Text.decodeLossy t.reply.err
  present : ¬ "Cannot find device".toList <:+: Text.decodeLossy t.reply.err
  existing : ¬ "does not exist".toList <:+: Text.decodeLossy t.reply.err

/-- A turn that a run goes on after. -/
def Settled (t : Turn) : Prop := t.reply.status = .exited 0 ∨ t.Unfiltered

theorem settled_iff_of_not_listing {t : Turn} (other : ¬ ["tc", "filter", "show"] <+: t.command) :
    t.Settled ↔ t.reply.status = .exited 0 :=
  or_iff_left fun unfiltered => other unfiltered.listing

theorem settled_iff_of_listing {t : Turn} (listing : ["tc", "filter", "show"] <+: t.command) :
    t.Settled ↔ t.reply.status = .exited 0 ∨ t.reply.LacksQdisc ∧ ¬ t.reply.Gone := by
  rw [Settled, Reply.lacksQdisc_iff, Reply.gone_iff, not_or]
  exact or_congr_right
    ⟨fun h => ⟨h.noQdisc, h.present, h.existing⟩, fun h => ⟨listing, h.1, h.2.1, h.2.2⟩⟩

end Turn

/-- The commands run since a host was `start`, with the replies from the script it had then. -/
def turnsSince (start h : Host) : List Turn :=
  Turn.deal (h.ran.drop start.ran.length) start.replies

/-- A host that came out of `start` by running commands. -/
def Follows (start h : Host) : Prop :=
  ∃ commands, h.ran = start.ran ++ commands ∧ h.replies = start.replies.drop commands.length

variable {start h : Host} {command : Command}

theorem Follows.refl (h : Host) : Follows h h := ⟨[], by simp, rfl⟩

theorem turnsSince_self (h : Host) : turnsSince h h = [] := by simp [turnsSince, Turn.deal]

theorem Follows.ran_eq (follows : Follows start h) :
    h.ran = start.ran ++ (turnsSince start h).map (·.command) := by
  obtain ⟨commands, ran, -⟩ := follows
  simp [turnsSince, Turn.map_command_deal, ran]

theorem Follows.hindered (follows : Follows start h) : Follows start h.hindered := follows

theorem turnsSince_hindered (start h : Host) : turnsSince start h.hindered = turnsSince start h := rfl

theorem Follows.answered (follows : Follows start h) (command : Command) :
    Follows start (h.answered command) := by
  obtain ⟨commands, ran, replies⟩ := follows
  refine ⟨commands ++ [command], ?_, ?_⟩
  · simp [ran]
  · simp [replies]

theorem turnsSince_answered (follows : Follows start h) (command : Command) :
    turnsSince start (h.answered command) =
      turnsSince start h ++ [⟨command, h.replies.headD Reply.silent⟩] := by
  obtain ⟨commands, ran, replies⟩ := follows
  simp [turnsSince, ran, replies, Turn.deal_append_singleton]

/-- What it takes to run a command: it is not started, or it is run with the next reply. -/
theorem execute_cases (follows : Follows start h) (command : Command) :
    (∃ cause, h.execute command = (.error cause, h.hindered)) ∨
      ∃ reply, h.execute command = (.ok reply, h.answered command) ∧
        turnsSince start (h.answered command) = turnsSince start h ++ [⟨command, reply⟩] := by
  cases met : h.obstacle? command with
  | some cause => exact .inl ⟨cause, execute_of_obstacle met⟩
  | none => exact .inr ⟨_, execute_of_clear met, turnsSince_answered follows command⟩

theorem Follows.execute (follows : Follows start h) (command : Command) :
    Follows start (h.execute command).2 := by
  obtain ⟨cause, ran⟩ | ⟨reply, ran, -⟩ := execute_cases follows command
  · rw [ran]
    exact follows.hindered
  · rw [ran]
    exact follows.answered command

/-- Whatever a call is, a host that serves it runs commands by its script. -/
theorem Follows.answer (follows : Follows start h) (request : Call) :
    Follows start (kernel.answer request h).2 := by
  cases request with
  | deleteLink | qdiscs | addQdisc | delQdisc | filters | delFilter | natRuleExists | appendNatRule
  | deleteNatRule =>
      simp only [kernel, change, changeRule]
      exact follows.execute _
  | addFilter link f =>
      cases target : f.redirectTo with
      | some target =>
          simp only [kernel, change, target]
          exact follows.execute _
      | none => simpa only [kernel, target] using follows
  | setIpv4Forwarding on =>
      simp only [kernel]
      split <;> exact follows
  | linkByName | addTap | linkAddrs =>
      simp only [kernel]
      split <;> exact follows
  | linkNames | setLinkUp | addAddress | ipv4Forwarding | routes => exact follows

/-- A listing of filters settles its turn by being read. -/
theorem settled_iff_filtersOutcome {device : String} {reply : Reply}
    (listing : ["tc", "filter", "show"] <+: command) :
    Turn.Settled ⟨command, reply⟩ ↔ (filtersOutcome device command (.ok reply)).isOk = true := by
  rw [Turn.settled_iff_of_listing listing, isOk_filtersOutcome]

/-- The command that carries a call about traffic control out. -/
def commandOf? : Call → Option Command
  | .qdiscs link => some (Command.showQdiscs link.name)
  | .addQdisc link q => some (Command.addQdisc link.name q)
  | .delQdisc link q => some (Command.delQdisc link.name q)
  | .filters link parent => some (Command.showFilters link.name parent)
  | .addFilter link f => f.redirectTo.map (Command.addFilter link.name f)
  | .delFilter link f => some (Command.delFilter link.name f)
  | _ => none

/-- How a call about traffic control is served: its command is run, and settles the turn exactly if
the call succeeds, or it cannot be started. Nothing is said of other calls. -/
inductive Served (request : Call) (past : List Turn) :
    Except Error request.Answer → List Turn → Prop where
  | ran {command : Command} {reply : Reply} {answer : Except Error request.Answer}
      (carries : commandOf? request = some command)
      (agrees : answer.isOk = true ↔ Turn.Settled ⟨command, reply⟩) :
      Served request past answer (past ++ [⟨command, reply⟩])
  | unstarted {e : Error} : Served request past (.error e) past
  | other {answer : Except Error request.Answer} {now : List Turn}
      (absent : commandOf? request = none) : Served request past answer now

theorem served_execute {request : Call} (follows : Follows start h)
    (carries : commandOf? request = some command)
    (interpret : Except Obstacle Reply → Except Error request.Answer)
    (stopped : ∀ cause, ∃ e, interpret (.error cause) = .error e)
    (agrees : ∀ reply, (interpret (.ok reply)).isOk = true ↔ Turn.Settled ⟨command, reply⟩) :
    Served request (turnsSince start h) (interpret (h.execute command).1)
      (turnsSince start (h.execute command).2) := by
  obtain ⟨cause, ran⟩ | ⟨reply, ran, turns⟩ := execute_cases follows command
  · obtain ⟨e, failed⟩ := stopped cause
    simp only [ran, failed, turnsSince_hindered]
    exact .unstarted
  · simp only [ran, turns]
    exact .ran carries (agrees reply)

/-- A command whose reply is read for a device settles its turn only by succeeding. -/
theorem served_outcomeOn {request : Call} {device : String} {read : List Char → request.Answer}
    (follows : Follows start h) (carries : commandOf? request = some command)
    (other : ¬ ["tc", "filter", "show"] <+: command) :
    Served request (turnsSince start h)
      ((outcomeOn device command (h.execute command).1).map read)
      (turnsSince start (h.execute command).2) := by
  refine served_execute follows carries (fun reply => (outcomeOn device command reply).map read)
    (fun cause => ?_) fun reply => ?_
  · rw [outcomeOn_error]
    exact ⟨_, rfl⟩
  · rw [isOk_map, isOk_outcomeOn, Turn.settled_iff_of_not_listing other]

/-- A listing of filters is read even where there is no queueing discipline to hold any. -/
theorem served_filters (follows : Follows start h) (link : Link) (parent : Tc.Handle) :
    let command := Command.showFilters link.name parent
    Served (.filters link parent) (turnsSince start h)
      ((filtersOutcome link.name command (h.execute command).1).map (Tc.Filter.ofListing parent))
      (turnsSince start (h.execute command).2) := by
  intro command
  have listing : ["tc", "filter", "show"] <+: command := by simp [command, Command.showFilters]
  have carries : commandOf? (.filters link parent) = some command := rfl
  refine served_execute follows carries (fun reply =>
    (filtersOutcome link.name command reply).map (Tc.Filter.ofListing parent))
    (fun cause => ?_) fun reply => ?_
  · rw [filtersOutcome_error]
    exact ⟨_, rfl⟩
  · rw [isOk_map, settled_iff_filtersOutcome listing]

/-- A host serves calls the way that `Served` says. -/
theorem served (follows : Follows start h) (request : Call) :
    Served request (turnsSince start h) (kernel.answer request h).1
      (turnsSince start (kernel.answer request h).2) := by
  cases request with
  | qdiscs link =>
      exact served_outcomeOn follows rfl (by simp [Command.showQdiscs])
  | addQdisc link q =>
      exact served_outcomeOn follows rfl (by simp [Command.addQdisc])
  | delQdisc link q =>
      exact served_outcomeOn follows rfl (by simp [Command.delQdisc])
  | filters link parent => exact served_filters follows link parent
  | addFilter link f =>
      cases target : f.redirectTo with
      | some target =>
          simp only [kernel, change, target]
          exact served_outcomeOn follows (by simp [commandOf?, target]) (by simp [Command.addFilter])
      | none => exact .other (by simp [commandOf?, target])
  | delFilter link f =>
      exact served_outcomeOn follows rfl (by simp [Command.delFilter])
  | _ => exact .other rfl

end SandboxNet.Host
