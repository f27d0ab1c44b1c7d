import SandboxNet.Proofs.Host.Turns
import SandboxNet.Proofs.Kernel.Together
import SandboxNet.Proofs.Tc.Attribution
import SandboxNet.Proofs.Text.Numeral
import SandboxNet.Duplex

/-! # Deleting filters on a host

A removal of filters lists them first, and then deletes the selected ones by their priorities, each
once, in the order of their first headers. It goes on only after a command that succeeded, and ends
with the error of the first one that did not. A listing that finds no queueing discipline is the one
exception: it counts as an empty listing.
-/

namespace SandboxNet.Host

open Program Duplex

variable {start h : Host} {link : Link} {command : Command}

/-- Lists the ingress filters of a link. -/
def Command.showIngress (link : String) : Command :=
  ["tc", "filter", "show", "dev", link, "parent", "ffff:"]

/-- Deletes the ingress filters of one priority. -/
def Command.delPriority (link : String) (p : UInt16) : Command :=
  ["tc", "filter", "del", "dev", link, "parent", "ffff:", "prio", Text.digits 10 p.toNat]

/-- The listing that a program printed. One that failed printed none. -/
def Reply.listing (r : Reply) : List Char :=
  if r.status = .exited 0 then Text.decodeLossy r.out else []

theorem delPriority_injective (link : String) : Function.Injective (Command.delPriority link) := by
  intro p p' same
  have printed : Text.digits 10 p.toNat = Text.digits 10 p'.toNat := by
    simpa [Command.delPriority] using same
  exact UInt16.toNat_inj.1 (Text.digits_injective (by decide) (by decide) printed)

theorem delFilter_eq {f : Tc.Filter} (parent : f.parent = Tc.Handle.ingress) (link : String) :
    Command.delFilter link f = Command.delPriority link f.priority := by
  rw [Command.delFilter, parent]
  rfl

/-- A deletion has no argument that cannot be given to a program but one that the listing has. -/
theorem hasZeroByte_delPriority (link : String) (p : UInt16) :
    (Command.delPriority link p).hasZeroByte = (Command.showIngress link).hasZeroByte := by
  have plain : (Text.digits 10 p.toNat).toList.contains '\x00' = false := by
    apply Bool.eq_false_iff.2
    intro zero
    exact Text.ne_of_mem_digits (by decide) (by decide) (List.contains_iff_mem.1 zero) (by decide) rfl
  simp only [Command.hasZeroByte, Command.delPriority, List.any_cons, plain]
  rfl

/-- Some commands on a device run in their order, up to the first that something is in the way of or
that fails, with its error. -/
inductive RunsThrough (device : String) :
    List (Option Obstacle) → List Command → List Turn → Except Error Unit → Prop where
  | finished {obstacles : List (Option Obstacle)} : RunsThrough device obstacles [] [] (.ok ())
  | unstarted {obstacles : List (Option Obstacle)} {command : Command} {rest : List Command}
      {cause : Obstacle} (met : obstacles.headD none = some cause) :
      RunsThrough device obstacles (command :: rest) []
        (.error (.kernelOperation (" ".intercalate command) cause.text))
  | failed {obstacles : List (Option Obstacle)} {command : Command} {rest : List Command}
      {reply : Reply} {e : Error} (clear : obstacles.headD none = none)
      (failed : Failed device command reply e) :
      RunsThrough device obstacles (command :: rest) [⟨command, reply⟩] (.error e)
  | next {obstacles : List (Option Obstacle)} {command : Command} {rest : List Command}
      {reply : Reply} {made : List Turn} {result : Except Error Unit}
      (clear : obstacles.headD none = none) (succeeded : reply.status = .exited 0)
      (later : RunsThrough device obstacles.tail rest made result) :
      RunsThrough device obstacles (command :: rest) (⟨command, reply⟩ :: made) result

/-- Deletes a filter, with a line in the log. -/
def deletion (link : Link) (message : String) (fields : List (String × Log.Value)) (f : Tc.Filter) :
    Program Unit := do
  ask (.delFilter link f)
  note .debug message fields

/-- Lists the ingress filters of a link, deletes those that are wanted, and answers a value. -/
def removal {α : Type} (link : Link) (wanted : Tc.Filter → Bool) (message : String)
    (fields : Tc.Filter → List (String × Log.Value)) (value : List Tc.Filter → α) : Program α := do
  let fs ← ask (.filters link Tc.Handle.ingress)
  (fs.filter wanted).forM fun f => deletion link message (fields f) f
  return value fs

theorem deleteFilters_eq (link : Link) : deleteFilters (some link) =
    removal link (fun _ => true) "Deleted filter"
      (fun f => [("link", .shown link.name), ("priority", .number f.priority.toNat)]) fun _ => () := by
  simp only [removal, List.filter_true, bind_pure]
  rfl

theorem deleteRedirectsTo_eq (link : Link) (target : String) : deleteRedirectsTo link target =
    removal link (·.redirectsTo target) "Deleted redirect filter"
      (fun f => [("link", .shown link.name), ("to", .quoted target),
        ("priority", .number f.priority.toNat)])
      fun fs => fs.length - (fs.filter (·.redirectsTo target)).length :=
  rfl

theorem run_deletion (link : Link) (h : Host) (message : String) (fields : List (String × Log.Value))
    (f : Tc.Filter) :
    ((deletion link message fields f).run kernel h).result = (kernel.answer (.delFilter link f) h).1 ∧
      ((deletion link message fields f).run kernel h).state =
        (kernel.answer (.delFilter link f) h).2 := by
  cases replied : (kernel.answer (.delFilter link f) h).1 with
  | ok answer => exact run_bind_of_ok (p := ask (.delFilter link f)) (K := kernel) (s := h) replied
  | error e => exact run_bind_of_error (p := ask (.delFilter link f)) (K := kernel) (s := h) replied

theorem answer_delFilter (link : Link) (f : Tc.Filter) (h : Host) :
    kernel.answer (.delFilter link f) h =
      ((outcomeOn link.name (Command.delFilter link.name f)
        (h.execute (Command.delFilter link.name f)).1).map fun _ => (),
        (h.execute (Command.delFilter link.name f)).2) :=
  rfl

/-- A loop of deletions, on a host that has the tools for them. -/
theorem run_deletions {fs : List Tc.Filter} {message : String}
    {fields : Tc.Filter → List (String × Log.Value)} (tools : h.hasTools = true)
    (clean : ∀ f ∈ fs, (Command.delFilter link.name f).hasZeroByte = false)
    (follows : Follows start h) :
    let r := (fs.forM fun f => deletion link message (fields f) f).run kernel h
    ∃ made, RunsThrough link.name h.obstacles (fs.map (Command.delFilter link.name)) made r.result ∧
      Follows start r.state ∧ turnsSince start r.state = turnsSince start h ++ made := by
  induction fs generalizing h with
  | nil => exact ⟨[], .finished, follows, (List.append_nil _).symm⟩
  | cons f fs ih =>
      let command := Command.delFilter link.name f
      let others := fs.forM fun f => deletion link message (fields f) f
      obtain ⟨result, state⟩ := run_deletion link h message (fields f) f
      rw [answer_delFilter] at result state
      have unrolled : ((f :: fs).forM fun f => deletion link message (fields f) f) =
        deletion link message (fields f) f >>= fun _ => others := rfl
      rw [unrolled]
      have way := obstacle?_eq_headD (clean f List.mem_cons_self) tools
      cases met : h.obstacles.headD none with
      | some cause =>
          rw [execute_of_obstacle (way.trans met), outcomeOn_error] at result
          rw [execute_of_obstacle (way.trans met)] at state
          obtain ⟨ended, left⟩ := run_bind_of_error (f := fun _ => others) result
          simp only [ended, left, state]
          exact ⟨[], .unstarted met, follows.hindered, (List.append_nil _).symm⟩
      | none =>
          let reply := h.replies.headD Reply.silent
          rw [execute_of_clear (way.trans met)] at result state
          have onward := follows.answered command
          have turns := turnsSince_answered follows command
          cases replied : outcomeOn link.name command (.ok reply) with
          | error e =>
              rw [show outcomeOn link.name command (.ok reply) = _ from replied] at result
              obtain ⟨ended, left⟩ := run_bind_of_error (f := fun _ => others) result
              simp only [ended, left, state]
              exact ⟨_, .failed met (failed_of_outcomeOn replied), onward, turns⟩
          | ok out =>
              rw [show outcomeOn link.name command (.ok reply) = _ from replied] at result
              obtain ⟨ended, left⟩ := run_bind_of_ok (f := fun _ => others) result
              rw [state] at ended left
              simp only [ended, left]
              have succeeded : reply.status = .exited 0 := by
                rw [← isOk_outcomeOn, replied]
                rfl
              obtain ⟨made, later, after, moreTurns⟩ := ih (h := h.answered command) tools
                (fun f member => clean f (List.mem_cons_of_mem _ member)) onward
              refine ⟨⟨command, reply⟩ :: made, .next met succeeded later, after, ?_⟩
              rw [moreTurns, turns, List.append_assoc]
              rfl

/-- Nothing is in the way of a first command, nor of those after it. -/
theorem clear_take {obstacles : List (Option Obstacle)} {n : Nat} (clear : obstacles.headD none = none)
    (others : ∀ o ∈ obstacles.tail.take n, o = none) : ∀ o ∈ obstacles.take (n + 1), o = none := by
  cases obstacles with
  | nil => simp
  | cons o obstacles => simpa using ⟨clear, others⟩

namespace RunsThrough

variable {device : String} {obstacles : List (Option Obstacle)} {commands : List Command}
  {made : List Turn} {result : Except Error Unit}

theorem isPrefix (h : RunsThrough device obstacles commands made result) :
    made.map (·.command) <+: commands := by
  induction h with
  | finished | unstarted => exact List.nil_prefix
  | failed => exact ⟨_, rfl⟩
  | next _ _ _ ih => exact List.cons_prefix_cons.2 ⟨rfl, ih⟩

theorem goesOn (h : RunsThrough device obstacles commands made result) :
    ∀ t ∈ made.dropLast, t.reply.status = .exited 0 := by
  induction h with
  | finished | unstarted | failed => exact nofun
  | @next obstacles command rest reply made result _ succeeded later ih =>
      cases made with
      | nil => exact nofun
      | cons t made => exact List.forall_mem_cons.2 ⟨succeeded, ih⟩

/-- Nothing is in the way of the commands that run. -/
theorem clear (h : RunsThrough device obstacles commands made result) :
    ∀ o ∈ obstacles.take made.length, o = none := by
  induction h with
  | finished | unstarted => simp
  | failed clear => exact clear_take clear (by simp)
  | next clear _ _ ih => exact clear_take clear ih

/-- It comes to its end, or its last command is the one that failed, or something is in the way of the
command after it. -/
theorem ended (h : RunsThrough device obstacles commands made result) :
    (result = .ok () ∧ made.map (·.command) = commands ∧ ∀ t ∈ made, t.reply.status = .exited 0) ∨
      (∃ last e, made.getLast? = some last ∧ result = .error e ∧
        Failed device last.command last.reply e) ∨
      ∃ next cause, made.map (·.command) ++ [next] <+: commands ∧
        (∀ t ∈ made, t.reply.status = .exited 0) ∧ obstacles[made.length]? = some (some cause) ∧
        result = .error (.kernelOperation (" ".intercalate next) cause.text) := by
  induction h with
  | finished => exact .inl ⟨rfl, rfl, nofun⟩
  | @unstarted obstacles command rest cause met =>
      refine .inr (.inr ⟨command, cause, ⟨rest, rfl⟩, nofun, ?_, rfl⟩)
      cases obstacles with
      | nil => cases met
      | cons o obstacles => exact congrArg some met
  | failed _ failed => exact .inr (.inl ⟨_, _, rfl, rfl, failed⟩)
  | @next obstacles command rest reply made result clear succeeded later ih =>
      obtain ⟨ok, all, others⟩ | ⟨last, e, isLast, failed, error⟩ |
        ⟨next, cause, after, others, met, failed⟩ := ih
      · exact .inl ⟨ok, congrArg (command :: ·) all, List.forall_mem_cons.2 ⟨succeeded, others⟩⟩
      · refine .inr (.inl ⟨last, e, ?_, failed, error⟩)
        rw [List.getLast?_cons, isLast]
        rfl
      · refine .inr (.inr ⟨next, cause, List.cons_prefix_cons.2 ⟨rfl, after⟩,
          List.forall_mem_cons.2 ⟨succeeded, others⟩, ?_, failed⟩)
        rwa [List.getElem?_tail] at met

end RunsThrough

/-- How a removal of the filters of some priorities ends, which answers `value` when it is done. -/
structure Removal {α : Type} (link : String) (obstacles : List (Option Obstacle)) (listing : Reply)
    (selected : List UInt16) (value : α) (turns : List Turn) (result : Except Error α) : Prop where
  /-- The filters are listed first. -/
  listed : turns.head? = some ⟨Command.showIngress link, listing⟩
  /-- The deletions come in the order of the selected priorities. -/
  inOrder : turns.map (·.command) <+:
    Command.showIngress link :: selected.map (Command.delPriority link)
  /-- No command is run twice. -/
  once : (turns.map (·.command)).Nodup
  /-- Each command but the first is run because the one before it succeeded. -/
  goesOn : ∀ t ∈ turns.dropLast, t.reply.status = .exited 0
  /-- Nothing is in the way of the commands that run. -/
  clear : ∀ o ∈ obstacles.take turns.length, o = none
  /-- The last command is the last deletion, or its failure is the result, or what is in the way of the
  deletion after it. -/
  ended : ∀ last ∈ turns.getLast?,
    (last.Settled ∧ result = .ok value ∧ turns.map (·.command) =
        Command.showIngress link :: selected.map (Command.delPriority link)) ∨
      (¬ last.Settled ∧ ∃ e, result = .error e ∧ Failed link last.command last.reply e) ∨
      last.reply.status = .exited 0 ∧ ∃ next cause, turns.map (·.command) ++ [next] <+:
          Command.showIngress link :: selected.map (Command.delPriority link) ∧
        obstacles[turns.length]? = some (some cause) ∧
        result = .error (.kernelOperation (" ".intercalate next) cause.text)

theorem settled_iff_of_delPriority {device : String} {p : UInt16} {reply : Reply} :
    Turn.Settled ⟨Command.delPriority device p, reply⟩ ↔ reply.status = .exited 0 :=
  Turn.settled_iff_of_not_listing (by simp [Command.delPriority])

theorem nodup_commands (device : String) {selected : List UInt16} (distinct : selected.Nodup) :
    (Command.showIngress device :: selected.map (Command.delPriority device)).Nodup := by
  refine List.nodup_cons.2 ⟨?_, distinct.map (delPriority_injective device)⟩
  intro member
  obtain ⟨p, -, same⟩ := List.mem_map.1 member
  simp [Command.delPriority, Command.showIngress] at same

section

variable {α : Type} {value : α} {device : String} {obstacles : List (Option Obstacle)}
  {listing : Reply} {selected : List UInt16} {made : List Turn} {outcome : Except Error Unit}

/-- A listing that failed, and that does not count as an empty one. -/
theorem Removal.unlisted {e : Error} (clear : obstacles.headD none = none)
    (unsettled : ¬ Turn.Settled ⟨Command.showIngress device, listing⟩)
    (failed : Failed device (Command.showIngress device) listing e) :
    Removal device obstacles listing selected value [⟨Command.showIngress device, listing⟩]
      (.error e) where
  listed := rfl
  inOrder := List.cons_prefix_cons.2 ⟨rfl, List.nil_prefix⟩
  once := List.nodup_singleton _
  goesOn := nofun
  clear := clear_take clear (by simp)
  ended := by
    rintro _ ⟨⟩
    exact .inr (.inl ⟨unsettled, e, rfl, failed⟩)

/-- A listing that was read, and the deletions after it. -/
theorem Removal.of_runsThrough (clear : obstacles.headD none = none)
    (settled : Turn.Settled ⟨Command.showIngress device, listing⟩)
    (distinct : selected.Nodup) (read : selected ≠ [] → listing.status = .exited 0)
    (through : RunsThrough device obstacles.tail (selected.map (Command.delPriority device)) made
      outcome) :
    Removal device obstacles listing selected value (⟨Command.showIngress device, listing⟩ :: made)
      (outcome.map fun _ => value) where
  listed := rfl
  inOrder := List.cons_prefix_cons.2 ⟨rfl, through.isPrefix⟩
  once := (nodup_commands device distinct).sublist (through.isPrefix.sublist.cons_cons _)
  goesOn := by
    cases made with
    | nil => exact nofun
    | cons t made =>
        have some : selected ≠ [] := by
          rintro rfl
          cases through
        exact List.forall_mem_cons.2 ⟨read some, through.goesOn⟩
  clear := clear_take clear through.clear
  ended := by
    intro last isLast
    rw [List.getLast?_cons] at isLast
    -- the last command is the listing if nothing was deleted, else the last deletion
    have holds {P : Turn → Prop} (first : P ⟨Command.showIngress device, listing⟩)
        (others : ∀ t ∈ made, P t) : P last := by
      cases final : made.getLast? with
      | none =>
          rw [final] at isLast
          cases isLast
          exact first
      | some t =>
          rw [final] at isLast
          obtain rfl : t = last := Option.some.inj isLast
          exact others t (List.mem_of_getLast? final)
    obtain ⟨rfl, all, succeeded⟩ | ⟨final, e, isFinal, rfl, failed⟩ |
      ⟨next, cause, after, succeeded, met, rfl⟩ := through.ended
    · exact .inl ⟨holds settled fun t member => .inl (succeeded t member), rfl,
        congrArg (Command.showIngress device :: ·) all⟩
    · rw [isFinal] at isLast
      obtain rfl : final = last := Option.some.inj isLast
      refine .inr (.inl ⟨?_, e, rfl, failed⟩)
      obtain ⟨p, -, same⟩ := List.mem_map.1 (through.isPrefix.subset
        (List.mem_map_of_mem (List.mem_of_getLast? isFinal)))
      obtain ⟨command, reply⟩ := final
      cases same
      exact mt settled_iff_of_delPriority.1 failed.status_ne
    · have some : selected ≠ [] := by
        rintro rfl
        simp at after
      have lastSucceeded : last.reply.status = .exited 0 :=
        holds (P := fun t => t.reply.status = .exited 0) (read some) succeeded
      refine .inr (.inr ⟨lastSucceeded, next, cause, List.cons_prefix_cons.2 ⟨rfl, after⟩, ?_, rfl⟩)
      rwa [List.getElem?_tail] at met

end

section

variable {listing : Reply} {f : Tc.Filter} {text : List Char}

theorem parent_of_mem_ofListing (member : f ∈ Tc.Filter.ofListing Tc.Handle.ingress text) :
    f.parent = Tc.Handle.ingress := by
  obtain ⟨p, -, rfl⟩ := Tc.Filter.mem_ofListing.1 member
  rfl

theorem map_priority_ofListing (text : List Char) :
    (Tc.Filter.ofListing Tc.Handle.ingress text).map (·.priority) =
      Tc.Filter.priorities (Text.lines text) := by
  rw [Tc.Filter.ofListing_eq, List.map_map]
  exact List.map_id _

theorem nodup_selected (text : List Char) (wanted : Tc.Filter → Bool) :
    (((Tc.Filter.ofListing Tc.Handle.ingress text).filter wanted).map (·.priority)).Nodup := by
  have distinct := Tc.Filter.nodup_priorities (Text.lines text)
  rw [← map_priority_ofListing] at distinct
  exact distinct.sublist (List.filter_sublist.map _)

/-- Nothing is selected from the listing of a program that failed. -/
theorem succeeded_of_selected (wanted : Tc.Filter → Bool)
    (some : ((Tc.Filter.ofListing Tc.Handle.ingress listing.listing).filter wanted).map
      (·.priority) ≠ []) : listing.status = .exited 0 := by
  by_contra failed
  have empty : listing.listing = [] := if_neg failed
  rw [empty] at some
  exact some rfl

/-- A failed listing that is not read fails like any other command. -/
theorem outcomeOn_of_filtersOutcome_error {device : String} {e : Error}
    (failed : filtersOutcome device command (.ok listing) = .error e) :
    outcomeOn device command (.ok listing) = .error e := by
  rw [filtersOutcome_ok] at failed
  rw [outcomeOn_ok]
  grind

theorem listing_of_filtersOutcome_ok {device : String}
    (read : filtersOutcome device command (.ok listing) = .ok text) : text = listing.listing := by
  rw [filtersOutcome_ok] at read
  rw [Reply.listing]
  grind

/-- What a host answers to a listing of ingress filters. -/
theorem answer_filters (link : Link) (h : Host) :
    kernel.answer (.filters link Tc.Handle.ingress) h =
      ((filtersOutcome link.name (Command.showIngress link.name)
        (h.execute (Command.showIngress link.name)).1).map (Tc.Filter.ofListing Tc.Handle.ingress),
        (h.execute (Command.showIngress link.name)).2) :=
  rfl

end

/-- The deletions of the filters selected from a listing, by their priorities. -/
theorem run_selected {wanted : Tc.Filter → Bool} {message : String}
    {fields : Tc.Filter → List (String × Log.Value)} (text : List Char) (tools : h.hasTools = true)
    (clean : (Command.showIngress link.name).hasZeroByte = false) (follows : Follows start h) :
    let selected := (Tc.Filter.ofListing Tc.Handle.ingress text).filter wanted
    let r := (selected.forM fun f => deletion link message (fields f) f).run kernel h
    ∃ made, RunsThrough link.name h.obstacles
        ((selected.map (·.priority)).map (Command.delPriority link.name)) made r.result ∧
      Follows start r.state ∧ turnsSince start r.state = turnsSince start h ++ made := by
  intro selected r
  have deletions : ∀ f ∈ selected, Command.delFilter link.name f =
      Command.delPriority link.name f.priority := fun f member =>
    delFilter_eq (parent_of_mem_ofListing (List.mem_filter.1 member).1) link.name
  have commands : (selected.map (·.priority)).map (Command.delPriority link.name) =
      selected.map (Command.delFilter link.name) := by
    rw [List.map_map]
    exact (List.map_congr_left deletions).symm
  have cleanAll : ∀ f ∈ selected, (Command.delFilter link.name f).hasZeroByte = false := by
    intro f member
    rw [deletions f member, hasZeroByte_delPriority, clean]
  rw [commands]
  exact run_deletions tools cleanAll follows

/-- How a removal of wanted filters ends, where their listing can be started. -/
theorem removal_run {α : Type} {wanted : Tc.Filter → Bool} {message : String}
    {fields : Tc.Filter → List (String × Log.Value)} {value : List Tc.Filter → α} {listing : Reply}
    (replied : h.nextReply (Command.showIngress link.name) = .ok listing) :
    let fs := Tc.Filter.ofListing Tc.Handle.ingress listing.listing
    let r := (removal link wanted message fields value).run kernel h
    Follows h r.state ∧ Removal link.name h.obstacles listing ((fs.filter wanted).map (·.priority))
      (value fs) (turnsSince h r.state) r.result := by
  intro fs r
  let command := Command.showIngress link.name
  let loop (fs : List Tc.Filter) : Program α :=
    ((fs.filter wanted).forM fun f => deletion link message (fields f) f) >>= fun _ => pure (value fs)
  have shows : ["tc", "filter", "show"] <+: command := ⟨_, rfl⟩
  obtain ⟨started, next⟩ := nextReply_eq_ok_iff.1 replied
  obtain ⟨clean, tools, clear⟩ := obstacle?_eq_none_iff.1 started
  have answered := answer_filters link h
  rw [execute_of_replied replied] at answered
  have onward := (Follows.refl h).answered command
  have turns : turnsSince h (h.answered command) = [⟨command, listing⟩] := by
    rw [turnsSince_answered (Follows.refl h), turnsSince_self, next]
    rfl
  have state : ((ask (.filters link Tc.Handle.ingress)).run kernel h).state = h.answered command :=
    congrArg Prod.snd answered
  have result : ((ask (.filters link Tc.Handle.ingress)).run kernel h).result =
      (filtersOutcome link.name command (.ok listing)).map
        (Tc.Filter.ofListing Tc.Handle.ingress) := congrArg Prod.fst answered
  cases outcome : filtersOutcome link.name command (.ok listing) with
  | error e =>
      rw [outcome] at result
      obtain ⟨ended, left⟩ := run_bind_of_error (f := loop) result
      have unsettled : ¬ Turn.Settled ⟨command, listing⟩ := by
        rw [settled_iff_filtersOutcome shows, outcome]
        exact nofun
      rw [show r.result = _ from ended, show r.state = _ from left, state, turns]
      exact ⟨onward, .unlisted clear unsettled
        (failed_of_outcomeOn (outcomeOn_of_filtersOutcome_error outcome))⟩
  | ok text =>
      have settled : Turn.Settled ⟨command, listing⟩ := by
        rw [settled_iff_filtersOutcome shows, outcome]
        rfl
      obtain rfl := listing_of_filtersOutcome_ok outcome
      rw [outcome] at result
      obtain ⟨ended, left⟩ := run_bind_of_ok (f := loop) result
      obtain ⟨finished, remains⟩ := run_bind_pure
        (p := (fs.filter wanted).forM fun f => deletion link message (fields f) f) (K := kernel)
        (s := h.answered command) fun _ => value fs
      rw [state] at ended left
      obtain ⟨made, through, after, moreTurns⟩ :=
        run_selected (h := h.answered command) listing.listing tools clean onward
      rw [show r.result = _ from ended.trans finished, show r.state = _ from left.trans remains,
        moreTurns, turns]
      exact ⟨after,
        .of_runsThrough clear settled (nodup_selected _ _) (succeeded_of_selected _) through⟩

/-- A removal of the ingress filters of a link, of all of them or of the redirects to a device, lists
them once and deletes what it selects one priority after the other. -/
theorem filters_removed_once (h : Host) (link : Link) (target : String) :
    let listing : Command := ["tc", "filter", "show", "dev", link.name, "parent", "ffff:"]
    let every := (deleteFilters (some link)).run kernel h
    let redirects := (deleteRedirectsTo link target).run kernel h
    match h.nextReply listing with
    | .error cause =>
        let e := Error.kernelOperation (" ".intercalate listing) cause.text
        let left := { h with obstacles := h.obstacles.tail }
        every.state = left ∧ every.result = .error e ∧
          redirects.state = left ∧ redirects.result = .error e
    | .ok reply =>
        let text := if reply.status = .exited 0 then Text.decodeLossy reply.out else []
        let fs := Tc.Filter.ofListing Tc.Handle.ingress text
        let known := Tc.Filter.priorities (Text.lines text)
        let selected := (fs.filter (·.redirectsTo target)).map (·.priority)
        let turns := turnsSince h every.state
        let turns' := turnsSince h redirects.state
        every.state.ran = h.ran ++ turns.map (·.command) ∧
          Removal link.name h.obstacles reply known () turns every.result ∧
        redirects.state.ran = h.ran ++ turns'.map (·.command) ∧
          Removal link.name h.obstacles reply selected (known.length - selected.length) turns'
            redirects.result := by
  intro listing every redirects
  cases replied : h.nextReply listing with
  | error cause =>
      have stopped := answer_filters link h
      rw [show h.execute (Command.showIngress link.name) = _ from execute_of_stopped replied,
        filtersOutcome_error] at stopped
      have failed : ((ask (.filters link Tc.Handle.ingress)).run kernel h).result =
        .error (.kernelOperation (" ".intercalate listing) cause.text) := congrArg Prod.fst stopped
      have same : ((ask (.filters link Tc.Handle.ingress)).run kernel h).state = h.hindered :=
        congrArg Prod.snd stopped
      obtain ⟨ended, left⟩ := run_bind_of_error failed
      obtain ⟨ended', left'⟩ := run_bind_of_error failed
      exact ⟨left.trans same, ended, left'.trans same, ended'⟩
  | ok reply =>
      let fs := Tc.Filter.ofListing Tc.Handle.ingress reply.listing
      have priorities : fs.map (·.priority) = Tc.Filter.priorities (Text.lines reply.listing) :=
        map_priority_ofListing _
      have count : (Tc.Filter.priorities (Text.lines reply.listing)).length = fs.length := by
        rw [← priorities, List.length_map]
      have listed : every = _ := congrArg (Program.run kernel · h) (deleteFilters_eq link)
      have listed' : redirects = _ :=
        congrArg (Program.run kernel · h) (deleteRedirectsTo_eq link target)
      obtain ⟨follows, removed⟩ := removal_run replied
      obtain ⟨follows', removed'⟩ := removal_run replied
      rw [← listed] at follows removed
      rw [← listed'] at follows' removed'
      rw [List.filter_true, priorities] at removed
      have printed : (if reply.status = .exited 0 then Text.decodeLossy reply.out else []) =
        reply.listing := rfl
      simp only [printed, count, List.length_map]
      exact ⟨follows.ran_eq, removed, follows'.ran_eq, removed'⟩

/-- The only command of a removal fails, for want of a queueing discipline, and no error is returned. -/
theorem unlisted_without_error :
    let link : Link := ⟨2, "eth0", 1500⟩
    let reply : Reply := ⟨.exited 2, [], "Error: Cannot find specified qdisc.".toUTF8.toList⟩
    let h : Host := { running with replies := [reply] }
    let listing : Command := ["tc", "filter", "show", "dev", "eth0", "parent", "ffff:"]
    let r := (deleteRedirectsTo link "tap0_urunc").run kernel h
    h.nextReply listing = .ok reply ∧ reply.status ≠ .exited 0 ∧ r.state.ran = [listing] ∧
      ¬ ∃ e, r.result = .error e := by
  intro link reply h listing r
  have removed : h.nextReply listing = .ok reply ∧ reply.status ≠ .exited 0 ∧
      r.state.ran = [listing] ∧ r.result = .ok 0 := by
    decide +kernel
  obtain ⟨replied, failed, ran, result⟩ := removed
  refine ⟨replied, failed, ran, ?_⟩
  rw [result]
  exact nofun

end SandboxNet.Host
