import Mathlib.Data.List.Basic
import SandboxNet.Proofs.Netns.Steps
import SandboxNet.Proofs.Sandbox.Calls
import SandboxNet.Proofs.Sandbox.Setup
import SandboxNet.Proofs.Sandbox.SetupCalls

/-! # Setups that run at the same time

Nothing is reserved between the look at the names in use and the creation of the device, so any
number of setups may get that far. The creation picks one of them: before it every setup only reads,
and after it every other one fails.
-/

namespace SandboxNet

open Program Netns

/-- A setup under way: the calls that it made, and what is left of it. -/
structure Party where
  order : Order
  exchanges : List Exchange
  rest : Program Descriptor

namespace Party

/-- A party before its first call. -/
def start (order : Order) : Party := ⟨order, [], order.program⟩

/-- What a party does when it is its turn: the next call, or the next log event. -/
def turn (party : Party) (s : Netns) : Party × Netns :=
  match party.rest with
  | .done _ => (party, s)
  | .log _ next => ({ party with rest := next }, s)
  | .call request next =>
      let answered := kernel.answer request s
      ({ party with
          exchanges := party.exchanges ++ [⟨request, answered.1⟩]
          rest := next answered.1 }, answered.2)

/-- The result of a party that is done. -/
def result? (party : Party) : Option (Except Error Descriptor) :=
  match party.rest with
  | .done result => some result
  | _ => none

theorem result?_eq_some_iff {party : Party} {result : Except Error Descriptor} :
    party.result? = some result ↔ party.rest = .done result := by
  unfold result?
  cases party.rest <;> simp

/-- A party that changed nothing so far, and that has failed if it is done. -/
structure Idle (party : Party) : Prop where
  unchanged : ∀ x ∈ party.exchanges, x.request.kind.isChange = true → x.failed = true
  failed : ∀ result, party.rest = .done result → ∃ e, result = .error e

/-- A party that has no device and does nothing without one. -/
structure Waiting (party : Party) : Prop where
  unchanged : ∀ x ∈ party.exchanges, x.request.kind.isChange = true → x.failed = true
  cautious : party.rest.Cautious AddressPlan.fixed.tapName fun _ => False

/-- A party that does in `s` what it would have done alone from `s₀`. -/
structure OnCourse (s₀ s : Netns) (party : Party) : Prop where
  result : (party.rest.run kernel s).result = (party.order.program.run kernel s₀).result
  state : (party.rest.run kernel s).state = (party.order.program.run kernel s₀).state
  exchanges : party.exchanges ++ (party.rest.run kernel s).exchanges =
    (party.order.program.run kernel s₀).exchanges

variable {s s₀ : Netns} {party : Party}

theorem Waiting.idle (waiting : Waiting party) : Idle party := by
  refine ⟨waiting.unchanged, ?_⟩
  intro result ended
  have cautious := waiting.cautious
  rw [ended] at cautious
  cases result with
  | ok info => exact absurd cautious id
  | error e => exact ⟨e, rfl⟩

theorem onCourse_start (order : Order) : OnCourse s₀ s₀ (start order) where
  result := rfl
  state := rfl
  exchanges := List.nil_append _

theorem onCourse_turn (course : OnCourse s₀ s party) :
    OnCourse s₀ (party.turn s).2 (party.turn s).1 := by
  obtain ⟨order, exchanges, rest⟩ := party
  cases rest with
  | done result => exact course
  | log event next => exact ⟨course.result, course.state, course.exchanges⟩
  | call request next =>
      refine ⟨course.result, course.state, ?_⟩
      exact (List.append_assoc _ _ _).trans course.exchanges

theorem order_turn : (party.turn s).1.order = party.order := by
  obtain ⟨order, exchanges, rest⟩ := party
  cases rest <;> rfl

theorem asks_turn {P : Call → Prop} (asks : party.rest.Asks P) : (party.turn s).1.rest.Asks P := by
  obtain ⟨order, exchanges, rest⟩ := party
  cases rest with
  | done result => exact asks
  | log event next => exact asks
  | call request next => exact asks.2 _

theorem unarmed_turn (calm : s.Unarmed) : (party.turn s).2.Unarmed := by
  obtain ⟨order, exchanges, rest⟩ := party
  cases rest with
  | done result => exact calm
  | log event next => exact calm
  | call request next => exact (answers_kernel calm request).2

theorem contains_turn {name : String} (spares : party.rest.Asks Call.Sparing) (calm : s.Unarmed)
    (present : s.links.contains name = true) : (party.turn s).2.links.contains name = true := by
  obtain ⟨order, exchanges, rest⟩ := party
  cases rest with
  | done result => exact present
  | log event next => exact present
  | call request next =>
      obtain ⟨answers, _⟩ := answers_kernel calm request
      show (kernel.answer request s).2.links.contains name = true
      generalize (kernel.answer request s).1 = reply at answers
      generalize (kernel.answer request s).2 = s' at answers ⊢
      cases answers with
      | carried h => exact contains_of_perform spares.1 present h
      | refused h => exact present
      | failed fails => exact absurd fails id

/-- A waiting party waits on, or it is given its device. -/
theorem waiting_turn (waiting : Waiting party) (calm : s.Unarmed) :
    ((party.turn s).2 = s ∧ Waiting (party.turn s).1) ∨
      (s.links.contains AddressPlan.fixed.tapName = false ∧
        (party.turn s).2.links.contains AddressPlan.fixed.tapName = true) := by
  obtain ⟨order, exchanges, rest⟩ := party
  cases rest with
  | done result => exact .inl ⟨rfl, waiting⟩
  | log event next => exact .inl ⟨rfl, waiting.unchanged, waiting.cautious⟩
  | call request next =>
      obtain ⟨answers, _⟩ := answers_kernel calm request
      simp only [turn]
      generalize (kernel.answer request s).1 = reply at answers ⊢
      generalize (kernel.answer request s).2 = s' at answers ⊢
      rcases waiting.cautious with ⟨reads, later⟩ | ⟨spec, rfl, named, later⟩
      · have same : s' = s := by
          cases answers with
          | carried h => exact eq_of_perform reads h
          | refused h => rfl
          | failed fails => rfl
        refine .inl ⟨same, ?_, later reply⟩
        intro x member change
        rcases List.mem_append.1 member with earlier | last
        · exact waiting.unchanged x earlier change
        · rw [List.mem_singleton.1 last] at change
          exact absurd (reads.symm.trans change) Bool.false_ne_true
      · cases answers with
        | failed fails => exact absurd fails id
        | carried h =>
            obtain ⟨free, rfl⟩ := addTap_ok h
            rw [named] at free ⊢
            exact .inr ⟨free, NameMap.contains_eq_true.2 ⟨s.device spec, NameMap.get?_insert_self _ _ _⟩⟩
        | refused h =>
            refine .inl ⟨rfl, ?_, later _⟩
            intro x member change
            rcases List.mem_append.1 member with earlier | last
            · exact waiting.unchanged x earlier change
            · rw [List.mem_singleton.1 last]
              rfl

end Party

/-- Setups that take turns on one namespace. -/
structure Race where
  state : Netns
  parties : List Party

namespace Race

open Party

/-- A race before the first turn. -/
def start (orders : List Order) (s : Netns) : Race := ⟨s, orders.map Party.start⟩

/-- One turn of the party at a position. -/
def step (race : Race) (position : Nat) : Race :=
  match race.parties[position]? with
  | none => race
  | some party =>
      let moved := party.turn race.state
      ⟨moved.2, race.parties.set position moved.1⟩

/-- A race after some turns, each given to the party at a position. -/
def play (race : Race) (turns : List Nat) : Race := turns.foldl step race

/-- How far a race that started in `s₀` has come: either nobody has the device yet, or one party
has it and all others wait for nothing. -/
inductive Phase (s₀ : Netns) (race : Race) : Prop where
  | level (untouched : race.state = s₀)
      (all : ∀ party ∈ race.parties,
        Waiting party ∧ OnCourse s₀ s₀ party ∧ party.rest.Asks Call.Sparing)
  | decided {winner : Nat} {party : Party} (held : race.parties[winner]? = some party)
      (present : race.state.links.contains AddressPlan.fixed.tapName = true)
      (course : OnCourse s₀ race.state party) (spares : party.rest.Asks Call.Sparing)
      (others : ∀ loser other, loser ≠ winner → race.parties[loser]? = some other → Waiting other)

variable {s₀ : Netns} {race : Race}

theorem unarmed_step (calm : race.state.Unarmed) (position : Nat) : (race.step position).state.Unarmed := by
  rw [step]
  split
  · exact calm
  · exact unarmed_turn calm

theorem phase_step (calm : race.state.Unarmed) (phase : Phase s₀ race) (position : Nat) :
    Phase s₀ (race.step position) := by
  rw [step]
  split
  · exact phase
  next party turns =>
  have inside : position < race.parties.length := (List.getElem?_eq_some_iff.1 turns).1
  have own : (race.parties.set position (party.turn race.state).1)[position]? =
      some (party.turn race.state).1 := List.getElem?_set_self inside
  have others : ∀ other, other ≠ position →
      (race.parties.set position (party.turn race.state).1)[other]? = race.parties[other]? :=
    fun other different => List.getElem?_set_ne different.symm
  cases phase with
  | level untouched all =>
      obtain ⟨waiting, course, spares⟩ := all party (List.mem_of_getElem? turns)
      have course : OnCourse s₀ race.state party := untouched ▸ course
      have course' := onCourse_turn course
      rcases waiting_turn waiting calm with ⟨same, waiting'⟩ | ⟨_, present⟩
      · have state : (party.turn race.state).2 = s₀ := same.trans untouched
        rw [state] at course'
        refine .level state ?_
        intro other member
        rcases List.mem_or_eq_of_mem_set member with old | new
        · exact all other old
        · rw [new]
          exact ⟨waiting', course', asks_turn spares⟩
      · refine .decided own present course' (asks_turn spares) ?_
        intro loser other different held
        rw [others loser different] at held
        exact (all other (List.mem_of_getElem? held)).1
  | @decided winner champion held present course spares waiting =>
      by_cases same : position = winner
      · subst same
        obtain rfl : party = champion := Option.some.inj (turns.symm.trans held)
        refine .decided own (contains_turn spares calm present) (onCourse_turn course)
          (asks_turn spares) ?_
        intro loser other different found
        rw [others loser different] at found
        exact waiting loser other different found
      -- The device is there, so a party that waits can only wait on.
      · rcases waiting_turn (waiting position party same turns) calm with ⟨kept, waiting'⟩ | ⟨free, _⟩
        · have held' := (others winner (Ne.symm same)).trans held
          have present' : (party.turn race.state).2.links.contains AddressPlan.fixed.tapName = true := by
            rw [kept]
            exact present
          have course' : OnCourse s₀ (party.turn race.state).2 champion := by
            rw [kept]
            exact course
          refine .decided held' present' course' spares ?_
          intro loser other different found
          by_cases mover : loser = position
          · subst mover
            obtain rfl : other = (party.turn race.state).1 := Option.some.inj (found.symm.trans own)
            exact waiting'
          · rw [others loser mover] at found
            exact waiting loser other different found
        · rw [present] at free
          cases free

theorem phase_start (orders : List Order) : Phase s₀ (start orders s₀) := by
  refine .level rfl ?_
  intro party member
  obtain ⟨order, _, rfl⟩ := List.mem_map.1 member
  refine ⟨⟨fun x member => absurd member List.not_mem_nil, ?_⟩, onCourse_start order, ?_⟩
  · exact Strategy.cautious_setup order.strategy
  · exact (Strategy.asks_setup order.strategy _ _).mono fun _ => Call.Creating.sparing

theorem phase_play (calm : race.state.Unarmed) (phase : Phase s₀ race) (turns : List Nat) :
    Phase s₀ (race.play turns) := by
  induction turns generalizing race with
  | nil => exact phase
  | cons position rest ih => exact ih (unarmed_step calm position) (phase_step calm phase position)

theorem orders_step (race : Race) (position : Nat) :
    (race.step position).parties.map (·.order) = race.parties.map (·.order) := by
  rw [step]
  split
  · rfl
  next party turns =>
  apply List.ext_getElem?
  intro other
  show ((race.parties.set position (party.turn race.state).1).map (·.order))[other]? = _
  rw [List.getElem?_map, List.getElem?_map]
  by_cases same : other = position
  · subst same
    rw [List.getElem?_set_self (List.getElem?_eq_some_iff.1 turns).1, turns]
    exact congrArg some order_turn
  · rw [List.getElem?_set_ne (Ne.symm same)]

theorem orders_play (race : Race) (turns : List Nat) :
    (race.play turns).parties.map (·.order) = race.parties.map (·.order) := by
  induction turns generalizing race with
  | nil => rfl
  | cons position rest ih => exact (ih (race.step position)).trans (orders_step race position)

theorem one_winner (orders : List Order) (turns : List Nat) {s : Netns} (calm : s.Unarmed) :
    let race := (start orders s).play turns
    race.parties.map (·.order) = orders ∧
      ((race.state = s ∧ ∀ party ∈ race.parties, Idle party) ∨
        ∃ (winner : Nat) (party : Party), race.parties[winner]? = some party ∧
          (∀ loser other, loser ≠ winner → race.parties[loser]? = some other → Idle other) ∧
          ∀ result, party.rest = .done result →
            let alone := party.order.program.run kernel s
            alone.result = result ∧ alone.state = race.state ∧ alone.exchanges = party.exchanges) := by
  intro race
  refine ⟨(orders_play _ turns).trans (List.map_map.trans (List.map_id _)), ?_⟩
  have phase : Phase s race := phase_play calm (phase_start orders) turns
  cases phase with
  | level untouched all => exact .inl ⟨untouched, fun party member => (all party member).1.idle⟩
  | @decided winner party held _ course _ others =>
      refine .inr ⟨winner, party, held, ?_, ?_⟩
      · intro loser other different found
        exact (others loser other different found).idle
      · intro result ended
        have result_eq := course.result
        have state_eq := course.state
        have exchanges_eq := course.exchanges
        rw [ended] at result_eq state_eq exchanges_eq
        exact ⟨result_eq.symm, state_eq.symm, exchanges_eq.symm.trans (List.append_nil _)⟩

/-- A static and a dynamic setup that both find no device: the dynamic one creates it and comes to its
end, with what it would have left and answered alone. -/
theorem one_winner_withEth0 :
    let orders : List Order := [⟨⟨.static, 1⟩, 1000, 1000⟩, ⟨⟨.dynamic, 2⟩, 0, 0⟩]
    let turns := [0, 1, 1, 0, 1, 1, 1, 0, 0] ++ List.replicate 20 1
    let race := (start orders withEth0).play turns
    let taken := Error.kernelOperation "add tap" "file exists"
    let info : Descriptor := ⟨"tap0_urunc",
      ⟨"172.16.1.2", "172.16.1.1", "255.255.255.0", "eth0", "02:42:ac:11:00:02"⟩⟩
    withEth0.Unarmed ∧ race.parties.map (·.order) = orders ∧
      race.parties.map Party.result? = [some (.error taken), some (.ok info)] ∧
      ∃ loser winner, race.parties = [loser, winner] ∧ Idle loser ∧
        let alone := winner.order.program.run kernel withEth0
        alone.result = .ok info ∧ alone.state = race.state ∧ alone.exchanges = winner.exchanges := by
  intro orders turns race taken info
  have calm : withEth0.Unarmed := unarmed_of_failNext rfl
  have results : race.parties.map Party.result? = [some (.error taken), some (.ok info)] := by
    decide +kernel
  obtain ⟨loser, _, parties, -, others⟩ := List.map_eq_cons_iff.1 results
  obtain ⟨winner, rfl, answer⟩ := List.map_eq_singleton_iff.1 others
  have ended : winner.rest = .done (.ok info) := result?_eq_some_iff.1 answer
  have held : race.parties[1]? = some winner := by rw [parties]; rfl
  have notIdle : ¬ Idle winner := by
    intro idle
    obtain ⟨e, failed⟩ := idle.failed _ ended
    cases failed
  obtain ⟨same, ⟨-, idle⟩ | ⟨position, party, found, rest, told⟩⟩ := one_winner orders turns calm
  · exact absurd (idle winner (List.mem_of_getElem? held)) notIdle
  obtain rfl : position = 1 := Decidable.byContradiction fun different =>
    notIdle (rest 1 winner (Ne.symm different) held)
  obtain rfl : winner = party := Option.some.inj (held.symm.trans found)
  have idle : Idle loser := rest 0 loser (by decide) (by rw [show _ = _ from parties]; rfl)
  exact ⟨calm, same, results, loser, winner, parties, idle, told _ ended⟩

end Race

end SandboxNet
