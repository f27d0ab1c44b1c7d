import SandboxNet.Proofs.Host.Turns
import SandboxNet.Proofs.Sandbox.Calls

/-! # Joining two links on a host

Whatever the tools of a host answer, a join clears both links, and then runs four commands in a fixed
order up to the first that fails. A filter is so attached only behind the queueing discipline that
holds it, and a join that is not finished is not reported as done.
-/

namespace SandboxNet.Host

open Program Duplex

/-- The turns of a program that ends at the first one that is not settled. -/
inductive Stopped {α : Type} : List Turn → Except Error α → Prop where
  | ended {result : Except Error α} : Stopped [] result
  | unsettled {t : Turn} {e : Error} : Stopped [t] (.error e)
  | settled {t : Turn} {made : List Turn} {result : Except Error α} (settled : t.Settled)
      (later : Stopped made result) : Stopped (t :: made) result

namespace Stopped

variable {α : Type} {made : List Turn} {result : Except Error α}

theorem of_mem_dropLast (stopped : Stopped made result) : ∀ t ∈ made.dropLast, t.Settled := by
  induction stopped with
  | ended => simp
  | unsettled => simp
  | @settled t made result settled _ ih =>
      cases made with
      | nil => simp
      | cons => simpa using ⟨settled, ih⟩

theorem of_ok {value : α} (stopped : Stopped made (.ok value)) : ∀ t ∈ made, t.Settled := by
  generalize answer : Except.ok value = result at stopped
  induction stopped with
  | ended => simp
  | unsettled => cases answer
  | settled settled _ ih => simpa using ⟨settled, ih answer⟩

theorem prepend {earlier : List Turn} (settled : ∀ t ∈ earlier, t.Settled)
    (stopped : Stopped made result) : Stopped (earlier ++ made) result := by
  induction earlier with
  | nil => exact stopped
  | cons t earlier ih =>
      obtain ⟨first, others⟩ := List.forall_mem_cons.1 settled
      exact .settled first (ih others)

end Stopped

/-- A program that stops at a failing call, over a host. -/
theorem always_stopped {α : Type} {P : Call → Prop} {p : Program α} (stops : p.FailStop P)
    (carried : ∀ request, P request → (commandOf? request).isSome) (past : List Turn) :
    p.Always Served past fun result now => ∃ made, now = past ++ made ∧ Stopped made result ∧
      ∀ t ∈ made, ∃ request, P request ∧ commandOf? request = some t.command := by
  induction p generalizing past with
  | done result => exact ⟨[], by simp, .ended, by simp⟩
  | log event next ih => exact ih stops past
  | call request next ih =>
      obtain ⟨allowed, fails, goesOn⟩ := stops
      -- the turn is settled exactly if the call succeeds, and a failing call ends the program
      rintro answer now (⟨carries, agrees⟩ | _ | absent)
      · cases answer with
        | error e =>
            rw [fails e]
            exact ⟨[_], rfl, .unsettled, by simpa using ⟨request, allowed, carries⟩⟩
        | ok answer =>
            refine (ih (.ok answer) (goesOn answer) _).mono ?_
            rintro result _ ⟨made, rfl, stopped, carriers⟩
            refine ⟨_ :: made, by simp, .settled (agrees.1 rfl) stopped, ?_⟩
            simpa using ⟨⟨request, allowed, carries⟩, carriers⟩
      · rw [fails]
        exact ⟨[], by simp, .ended, by simp⟩
      · have present := carried request allowed
        simp [absent] at present

/-- Some commands run in their order, up to the first that does not succeed. -/
inductive InTurn : List Command → List Turn → Except Error Unit → Prop where
  | finished : InTurn [] [] (.ok ())
  | unstarted {command : Command} {rest : List Command} {e : Error} :
      InTurn (command :: rest) [] (.error e)
  | failed {command : Command} {rest : List Command} {reply : Reply} {e : Error}
      (failed : reply.status ≠ .exited 0) : InTurn (command :: rest) [⟨command, reply⟩] (.error e)
  | next {command : Command} {rest : List Command} {reply : Reply} {made : List Turn}
      {result : Except Error Unit} (succeeded : reply.status = .exited 0)
      (later : InTurn rest made result) : InTurn (command :: rest) (⟨command, reply⟩ :: made) result

namespace InTurn

variable {commands later : List Command} {made : List Turn} {result : Except Error Unit}

theorem append {more : List Turn} (first : InTurn commands made (.ok ()))
    (second : InTurn later more result) : InTurn (commands ++ later) (made ++ more) result := by
  generalize answer : Except.ok () = outcome at first
  induction first with
  | finished => exact second
  | unstarted | failed => cases answer
  | next succeeded _ ih => exact .next succeeded (ih answer)

theorem append_of_error {e : Error} (first : InTurn commands made (.error e)) :
    InTurn (commands ++ later) made (.error e) := by
  generalize answer : Except.error e = outcome at first ⊢
  induction first with
  | finished => cases answer
  | unstarted => exact .unstarted
  | failed h => exact .failed h
  | next succeeded _ ih => exact .next succeeded (ih answer)

/-- In front of any turn there are successful ones, with the commands in front of its command. -/
theorem before {before after : List Turn} {t : Turn}
    (inTurn : InTurn commands (before ++ t :: after) result) :
    (∀ u ∈ before, u.reply.status = .exited 0) ∧
      ∃ rest, commands = before.map (·.command) ++ t.command :: rest := by
  generalize all : before ++ t :: after = made at inTurn
  induction inTurn generalizing before with
  | finished | unstarted => simp at all
  | @failed command rest reply e failed => 
      obtain ⟨rfl, rfl, rfl⟩ : before = [] ∧ t = ⟨command, reply⟩ ∧ after = [] := by
        simpa [List.append_eq_cons_iff] using all
      simp
  | @next command rest reply made result succeeded later ih =>
      cases before with
      | nil =>
          cases all
          simp
      | cons u before =>
          cases all
          obtain ⟨earlier, rest, rfl⟩ := ih rfl
          exact ⟨by simpa using ⟨succeeded, earlier⟩, rest, rfl⟩

theorem stopped (inTurn : InTurn commands made result) : Stopped made result := by
  induction inTurn with
  | finished | unstarted => exact .ended
  | failed => exact .unsettled
  | next succeeded _ ih => exact .settled (.inl succeeded) ih

theorem result_eq_ok_iff (inTurn : InTurn commands made result) :
    result = .ok () ↔ made.map (·.command) = commands ∧ ∀ t ∈ made, t.reply.status = .exited 0 := by
  induction inTurn with
  | finished => simp
  | unstarted => simp
  | failed failed => simp [failed]
  | next succeeded _ ih => simp [ih, succeeded]

end InTurn

/-- A program that runs some commands in their order, up to the first that does not succeed. -/
def Performs (commands : List Command) (p : Program Unit) : Prop :=
  ∀ past, p.Always Served past fun result now => ∃ made, now = past ++ made ∧
    InTurn commands made result

theorem Performs.andThen {commands later : List Command} {p q : Program Unit}
    (first : Performs commands p) (second : Performs later q) :
    Performs (commands ++ later) (p >>= fun _ => q) := by
  intro past
  refine Always.bind (first past) ?_ ?_
  · rintro _ _ ⟨made, rfl, inTurn⟩
    refine (second _).mono ?_
    rintro result _ ⟨more, rfl, after⟩
    exact ⟨made ++ more, by simp, inTurn.append after⟩
  · rintro e _ ⟨made, rfl, inTurn⟩
    exact ⟨made, rfl, inTurn.append_of_error⟩

/-- A call for its effect, with a line in the log. -/
theorem performs_ask {request : Call} {command : Command} {level : Log.Level} {message : String}
    {fields : List (String × Log.Value)} (carries : commandOf? request = some command)
    (other : ¬ ["tc", "filter", "show"] <+: command) :
    Performs [command] (ask request >>= fun _ => note level message fields) := by
  rintro past answer now (⟨ran, agrees⟩ | _ | absent)
  · cases carries.symm.trans ran
    rw [Turn.settled_iff_of_not_listing other] at agrees
    cases answer with
    | error e => exact ⟨[_], rfl, .failed (by simpa [Except.toBool] using agrees)⟩
    | ok answer => exact ⟨[_], rfl, .next (agrees.1 rfl) .finished⟩
  · exact ⟨[], by simp, .unstarted⟩
  · simp [carries] at absent

theorem performs_addIngress (link : Link) :
    Performs [Command.addQdisc link.name Tc.Qdisc.ingress] (addIngress (some link)) :=
  performs_ask rfl (by simp [Command.addQdisc])

theorem performs_addRedirect (source target : Link) :
    Performs [Command.addFilter source.name (Tc.Filter.redirect target.name) target.name]
      (addRedirect (some source) (some target)) :=
  performs_ask rfl (by simp [Command.addFilter])

variable {physical tap : Link}

/-- A call that takes something off a link, or lists what can be taken off. -/
def Clearing : Call → Prop
  | .filters _ _ | .delFilter _ _ | .qdiscs _ | .delQdisc _ _ => True
  | _ => False

/-- The first half of a join. -/
def clear (physical tap : Link) : Program Unit := do
  deleteFilters (some physical)
  deleteQdiscs (some physical)
  deleteFilters (some tap)
  deleteQdiscs (some tap)

/-- The second half of a join. -/
def attach (physical tap : Link) : Program Unit := do
  addIngress (some physical)
  addIngress (some tap)
  addRedirect (some physical) (some tap)
  addRedirect (some tap) (some physical)

theorem install_eq (physical tap : Link) :
    install physical tap = clear physical tap >>= fun _ => attach physical tap := by
  simp only [clear, bind_assoc]
  rfl

theorem failStop_clear (physical tap : Link) : (clear physical tap).FailStop Clearing := by
  have filters : ∀ link, (deleteFilters (some link)).FailStop Clearing := fun link =>
    failStop_deleteFilters_of (fun _ _ => trivial) fun _ _ _ => trivial
  have qdiscs : ∀ link, (deleteQdiscs (some link)).FailStop Clearing := fun link =>
    failStop_deleteQdiscs_of (fun _ _ => trivial) fun _ _ _ => trivial
  refine FailStop.bind (filters physical) fun _ => FailStop.bind (qdiscs physical) fun _ => ?_
  exact FailStop.bind (filters tap) fun _ => qdiscs tap

/-- The commands of the second half of a join. -/
def attachments (physical tap : Link) : List Command :=
  [Command.addQdisc physical.name Tc.Qdisc.ingress, Command.addQdisc tap.name Tc.Qdisc.ingress,
    Command.addFilter physical.name (Tc.Filter.redirect tap.name) tap.name,
    Command.addFilter tap.name (Tc.Filter.redirect physical.name) physical.name]

theorem performs_attach (physical tap : Link) :
    Performs (attachments physical tap) (attach physical tap) :=
  (performs_addIngress physical).andThen <| (performs_addIngress tap).andThen <|
    (performs_addRedirect physical tap).andThen (performs_addRedirect tap physical)

/-- A command that attaches a filter. -/
def Turn.addsFilter (t : Turn) : Bool := ["tc", "filter", "add"].isPrefixOf t.command

theorem Clearing.isSome_commandOf? {request : Call} (clearing : Clearing request) :
    (commandOf? request).isSome := by
  cases request <;> first | rfl | exact clearing.elim

theorem addsFilter_of_clearing {request : Call} {t : Turn} (clearing : Clearing request)
    (carries : commandOf? request = some t.command) : t.addsFilter = false := by
  cases request with
  | filters | delFilter | qdiscs | delQdisc =>
      obtain ⟨command, reply⟩ := t
      cases carries
      rfl
  | _ => exact clearing.elim

theorem always_clear (physical tap : Link) (past : List Turn) :
    (clear physical tap).Always Served past fun result now => ∃ made, now = past ++ made ∧
      Stopped made result ∧ ∀ t ∈ made, t.addsFilter = false := by
  refine (always_stopped (failStop_clear physical tap)
    (fun _ clearing => clearing.isSome_commandOf?) past).mono ?_
  rintro result _ ⟨made, rfl, stopped, carriers⟩
  refine ⟨made, rfl, stopped, fun t member => ?_⟩
  obtain ⟨request, clearing, carries⟩ := carriers t member
  exact addsFilter_of_clearing clearing carries

/-- The turns of a join: those that clear the links, and those that attach to them. -/
inductive Joining (physical tap : Link) : List Turn → Except Error Unit → Prop where
  | uncleared {cleared : List Turn} {e : Error} (clears : ∀ t ∈ cleared, t.addsFilter = false)
      (stopped : Stopped cleared (.error e : Except Error Unit)) :
      Joining physical tap cleared (.error e)
  | cleared {cleared attached : List Turn} {result : Except Error Unit}
      (clears : ∀ t ∈ cleared, t.addsFilter = false) (settled : ∀ t ∈ cleared, t.Settled)
      (inTurn : InTurn (attachments physical tap) attached result) :
      Joining physical tap (cleared ++ attached) result

theorem always_joining (physical tap : Link) (past : List Turn) :
    (install physical tap).Always Served past fun result now => ∃ turns, now = past ++ turns ∧
      Joining physical tap turns result := by
  rw [install_eq]
  refine Always.bind (always_clear physical tap past) ?_ ?_
  · rintro _ _ ⟨cleared, rfl, stopped, clears⟩
    refine (performs_attach physical tap _).mono ?_
    rintro result _ ⟨attached, rfl, inTurn⟩
    exact ⟨cleared ++ attached, by simp, .cleared clears stopped.of_ok inTurn⟩
  · rintro e _ ⟨cleared, rfl, stopped, clears⟩
    exact ⟨cleared, rfl, .uncleared clears stopped⟩

namespace Joining

variable {before after : List Turn} {t : Turn} {turns : List Turn} {result : Except Error Unit}

theorem stopped (joining : Joining physical tap turns result) : Stopped turns result := by
  cases joining with
  | uncleared _ stopped => exact stopped
  | cleared _ settled inTurn => exact inTurn.stopped.prepend settled

/-- A filter is attached in the second half only. -/
theorem of_addsFilter (joining : Joining physical tap (before ++ t :: after) result)
    (adds : t.addsFilter = true) : ∃ cleared earlier, before = cleared ++ earlier ∧
      (∀ u ∈ cleared, u.addsFilter = false) ∧
      InTurn (attachments physical tap) (earlier ++ t :: after) result := by
  generalize all : before ++ t :: after = turns at joining
  cases joining with
  | uncleared clears =>
      have quiet := clears t (by simp [← all])
      simp [adds] at quiet
  | @cleared cleared attached _ clears _ inTurn =>
      obtain ⟨earlier, rfl, rfl⟩ : ∃ earlier, before = cleared ++ earlier ∧
          attached = earlier ++ t :: after := by
        obtain ⟨more, rfl, rest⟩ | ⟨earlier, rfl, rest⟩ := List.append_eq_append_iff.1 all
        · cases more with
          | nil => exact ⟨[], by simp, by simpa using rest.symm⟩
          | cons u more =>
              obtain ⟨rfl, -⟩ : t = u ∧ after = more ++ attached := by simpa using rest
              have quiet := clears t (by simp)
              simp [adds] at quiet
        · exact ⟨earlier, rfl, rest⟩
      exact ⟨cleared, earlier, rfl, clears, inTurn⟩

end Joining

/-- What stands in front of a filter among the commands that attach. -/
theorem attachments_before {earlier rest : List Command} {command : Command}
    (split : attachments physical tap = earlier ++ command :: rest)
    (adds : ["tc", "filter", "add"] <+: command) :
    earlier = (attachments physical tap).take 2 ∧
        command = Command.addFilter physical.name (Tc.Filter.redirect tap.name) tap.name ∨
      earlier = (attachments physical tap).take 3 ∧ rest = [] ∧
        command = Command.addFilter tap.name (Tc.Filter.redirect physical.name) physical.name := by
  have noQdisc : ∀ link, ¬ ["tc", "filter", "add"] <+: Command.addQdisc link Tc.Qdisc.ingress := by
    simp [Command.addQdisc]
  unfold attachments at split ⊢
  rcases earlier with _ | ⟨q, _ | ⟨q', _ | ⟨f, _ | ⟨f', more⟩⟩⟩⟩ <;>
    simp only [List.nil_append, List.cons_append, List.cons.injEq] at split
  · obtain ⟨rfl, -⟩ := split
    exact absurd adds (noQdisc _)
  · obtain ⟨-, rfl, -⟩ := split
    exact absurd adds (noQdisc _)
  · obtain ⟨rfl, rfl, rfl, -⟩ := split
    exact .inl ⟨rfl, rfl⟩
  · obtain ⟨rfl, rfl, rfl, rfl, rfl⟩ := split
    exact .inr ⟨rfl, rfl, rfl⟩
  · simp at split

theorem addsFilter_eq_true {t : Turn} : t.addsFilter = true ↔ ["tc", "filter", "add"] <+: t.command :=
  List.isPrefixOf_iff_prefix

namespace Joining

variable {before after : List Turn} {t : Turn} {turns : List Turn} {result : Except Error Unit}

/-- A filter is attached to a link behind the queueing discipline that holds it. -/
theorem qdisc_of_filter {device : String}
    (joining : Joining physical tap (before ++ t :: after) result)
    (adds : ["tc", "filter", "add", "dev", device] <+: t.command) :
    ∃ earlier u between, before = earlier ++ u :: between ∧
      u.command = ["tc", "qdisc", "add", "dev", device, "handle", "ffff:", "ingress"] ∧
      u.reply.status = .exited 0 ∧
      ∀ v ∈ between, ¬ ["tc", "qdisc", "del", "dev", device] <+: v.command := by
  have addsSome : ["tc", "filter", "add"] <+: t.command :=
    List.IsPrefix.trans (by simp) adds
  obtain ⟨cleared, made, rfl, -, inTurn⟩ := joining.of_addsFilter (addsFilter_eq_true.2 addsSome)
  obtain ⟨succeeded, rest, split⟩ := inTurn.before
  obtain ⟨commands, command⟩ | ⟨commands, rfl, command⟩ := attachments_before split addsSome
  · simp only [attachments, List.take, List.map_eq_cons_iff, List.map_eq_nil_iff] at commands
    obtain ⟨q, _, rfl, isIngress, q', _, rfl, isOther, rfl⟩ := commands
    obtain rfl : device = physical.name := by simpa [command, Command.addFilter] using adds
    refine ⟨cleared, q, [q'], rfl, isIngress, succeeded q (by simp), ?_⟩
    simp [isOther, Command.addQdisc]
  · simp only [attachments, List.take, List.map_eq_cons_iff, List.map_eq_nil_iff] at commands
    obtain ⟨q, _, rfl, -, q', _, rfl, isIngress, f, _, rfl, isOther, rfl⟩ := commands
    obtain rfl : device = tap.name := by simpa [command, Command.addFilter] using adds
    refine ⟨cleared ++ [q], q', [f], by simp, isIngress, succeeded q' (by simp), ?_⟩
    simp [isOther, Command.addFilter]

theorem countP_addsFilter (turns : List Turn) : turns.countP Turn.addsFilter =
    (turns.map (·.command)).countP ["tc", "filter", "add"].isPrefixOf := by
  rw [List.countP_map]
  rfl

theorem ok_iff (joining : Joining physical tap turns result) :
    result = .ok () ↔ ∃ before last, turns = before ++ [last] ∧ last.addsFilter = true ∧
      before.countP Turn.addsFilter = 1 ∧ last.reply.status = .exited 0 := by
  constructor
  · intro ended
    cases joining with
    | uncleared => cases ended
    | @cleared cleared attached _ clears _ inTurn =>
        obtain ⟨commands, succeeded⟩ := inTurn.result_eq_ok_iff.1 ended
        obtain ⟨made, _, rfl, three, fourth⟩ := List.map_eq_append_iff.1
          (commands.trans (List.take_append_drop 3 (attachments physical tap)).symm)
        obtain ⟨last, rfl, isLast⟩ := List.map_eq_singleton_iff.1 fourth
        have adds : last.addsFilter = true := by simp [Turn.addsFilter, isLast, Command.addFilter]
        have quiet : cleared.countP Turn.addsFilter = 0 := List.countP_eq_zero.2 (by simpa using clears)
        refine ⟨cleared ++ made, last, by simp, adds, ?_, succeeded last (by simp)⟩
        rw [List.countP_append, quiet, countP_addsFilter, three]
        rfl
  · rintro ⟨before, last, rfl, adds, second, succeeded⟩
    obtain ⟨cleared, made, rfl, clears, inTurn⟩ := joining.of_addsFilter adds
    obtain ⟨allSucceeded, rest, split⟩ := inTurn.before
    obtain ⟨commands, -⟩ | ⟨commands, rfl, -⟩ :=
      attachments_before split (addsFilter_eq_true.1 adds)
    · have quiet : cleared.countP Turn.addsFilter = 0 := List.countP_eq_zero.2 (by simpa using clears)
      rw [List.countP_append, quiet, countP_addsFilter, commands] at second
      cases second
    · rw [inTurn.result_eq_ok_iff]
      refine ⟨by simp [split], ?_⟩
      simpa [or_imp, forall_and] using ⟨allSucceeded, succeeded⟩

end Joining

theorem install_over_host (physical tap : Link) (start : Host) :
    let r := (install physical tap).run kernel start
    let turns := turnsSince start r.state
    r.state.ran = start.ran ++ turns.map (·.command) ∧
      (∀ before t after device, turns = before ++ t :: after →
        ["tc", "filter", "add", "dev", device] <+: t.command →
        ∃ earlier u between, before = earlier ++ u :: between ∧
          u.command = ["tc", "qdisc", "add", "dev", device, "handle", "ffff:", "ingress"] ∧
          u.reply.status = .exited 0 ∧
          ∀ v ∈ between, ¬ ["tc", "qdisc", "del", "dev", device] <+: v.command) ∧
      (∀ t ∈ turns.dropLast, t.Settled) ∧
      (r.result = .ok () ↔ ∃ before last, turns = before ++ [last] ∧ last.addsFilter = true ∧
        before.countP Turn.addsFilter = 1 ∧ last.reply.status = .exited 0) := by
  intro r turns
  have always := always_joining physical tap (turnsSince start start)
  obtain ⟨⟨made, added, joining⟩, follows⟩ := always.run (turnsSince start) (Follows start)
    (fun request h follows => ⟨served follows request, follows.answer request⟩) (Follows.refl start)
  rw [turnsSince_self, List.nil_append] at added
  subst added
  have joined : Joining physical tap turns r.result := joining
  refine ⟨follows.ran_eq, ?_, joined.stopped.of_mem_dropLast, joined.ok_iff⟩
  intro before t after device split adds
  rw [split] at joined
  exact joined.qdisc_of_filter adds

end SandboxNet.Host
