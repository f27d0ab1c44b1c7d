import SandboxNet.Proofs.Netns.Answers
import SandboxNet.Proofs.Netns.Steps

/-! # Stale handles

A link is handed out with its index, and only a link that is stored under its name with that index
can be acted on. Indices are given out in increasing order, so once the device is gone no other one
ever answers to the same handle, whatever is created under its name. A namespace counts its links in
a word; the order holds as long as that word does not run over.
-/

namespace SandboxNet.Netns

variable {s s' : Netns} {l : Link} {n : Nat}

/-- Something that happens to a namespace. -/
inductive Event where
  | call (request : Call)
  | insert (name : String) (mtu : UInt32) (addrs : LinkAddrs)
  /-- The next change of some name is made to fail. -/
  | arm (failure : String)

namespace Event

def next (s : Netns) : Event → Netns
  | call request => (kernel.answer request s).2
  | insert name mtu addrs => s.insertLink name mtu addrs
  | arm failure => s.arm (some failure)

/-- How many links an event creates. -/
def creates (s : Netns) : Event → Nat
  | call (.addTap spec) => if (kernel.answer (.addTap spec) s).1.isOk then 1 else 0
  | insert _ _ _ => 1
  | _ => 0

end Event

/-- What a namespace is after some events. -/
def after (s : Netns) (events : List Event) : Netns := events.foldl Event.next s

/-- How many links some events create. -/
def created (s : Netns) : List Event → Nat
  | [] => 0
  | event :: rest => event.creates s + created (event.next s) rest

theorem after_cons (s : Netns) (event : Event) (later : List Event) :
    s.after (event :: later) = (event.next s).after later := rfl

theorem after_append (s : Netns) (first later : List Event) :
    s.after (first ++ later) = (s.after first).after later :=
  List.foldl_append

theorem created_append (s : Netns) (first later : List Event) :
    s.created (first ++ later) = s.created first + (s.after first).created later := by
  induction first generalizing s with
  | nil => simp [created, after]
  | cons event first ih =>
      have rest := ih (event.next s)
      simp only [List.cons_append, created, rest]
      exact (Nat.add_assoc _ _ _).symm

/-- The calls of a run are what happens to its namespace. -/
theorem after_calls {α : Type} (p : Program α) (s : Netns) :
    s.after ((p.run kernel s).calls.map .call) = (p.run kernel s).state := by
  induction p generalizing s with
  | done result => rfl
  | call request next ih => exact ih _ _
  | log event next ih => exact ih s

/-- What happens to the links in one event: one more under the next index, or fewer, each with the
index it had. -/
inductive Turnover (s : Netns) : Nat → Netns → Prop where
  | creates {s' : Netns} {name : String} {r : LinkRecord} (index : r.link.index = s.nextIndex + 1)
      (nextIndex : s'.nextIndex = s.nextIndex + 1) (links : s'.links = s.links.insert name r) :
      Turnover s 1 s'
  | keeps {s' : Netns} (nextIndex : s'.nextIndex = s.nextIndex)
      (older : ∀ name r', s'.links.get? name = some r' →
        ∃ r, s.links.get? name = some r ∧ r'.link.index = r.link.index) : Turnover s 0 s'

theorem LinkStep.link {r r' : LinkRecord} {request : Call} (h : LinkStep s l r request r') :
    r'.link = r.link := by rw [h.rest]

theorem Turnover.refl (s : Netns) : Turnover s 0 s := .keeps rfl fun _ r held => ⟨r, held, rfl⟩

theorem turnover_arm (s : Netns) (failure : Option String) : Turnover s 0 (s.arm failure) :=
  .keeps rfl fun _ r held => ⟨r, held, rfl⟩

theorem Step.turnover {request : Call} (h : Step s request s') (notAdd : request.kind ≠ .addTap) :
    Turnover s 0 s' := by
  cases h with
  | read => exact .refl s
  | appendNatRule | deleteNatRule | setIpv4Forwarding =>
      exact .keeps rfl fun _ r held => ⟨r, held, rfl⟩
  | addTap => exact absurd rfl notAdd
  | @onLink _ link r r' found h =>
      refine .keeps rfl fun name stored held => ?_
      rw [put_links, NameMap.get?_insert] at held
      split at held
      · next same =>
          cases held
          exact ⟨r, same ▸ get?_of_record? found, by rw [h.link]⟩
      · exact ⟨stored, held, rfl⟩
  | @deleteLink link r found =>
      refine .keeps rfl fun name stored held => ?_
      rw [NameMap.get?_erase] at held
      split at held
      · cases held
      · exact ⟨stored, held, rfl⟩

theorem turnover_addTap (s : Netns) (spec : TapSpec) :
    Turnover s ((Event.call (.addTap spec)).creates s) (kernel.answer (.addTap spec) s).2 := by
  have reply := answered (.addTap spec) s
  simp only [Event.creates]
  generalize kernel.answer (.addTap spec) s = done at reply ⊢
  cases reply with
  | fired => exact turnover_arm s none
  | refused => exact .refl s
  | carried _ h =>
      obtain ⟨-, rfl⟩ := addTap_ok h
      exact .creates rfl rfl rfl

theorem turnover (s : Netns) (event : Event) : Turnover s (event.creates s) (event.next s) := by
  cases event with
  | arm failure => exact turnover_arm s failure
  | insert name mtu addrs => exact .creates rfl rfl rfl
  | call request =>
      by_cases add : request.kind = .addTap
      · obtain ⟨spec, rfl⟩ : ∃ spec, request = .addTap spec := by cases request <;> simp_all [Call.kind]
        exact turnover_addTap s spec
      · have quiet : (Event.call request).creates s = 0 := by
          cases request <;> first | rfl | exact absurd rfl add
        rw [quiet]
        obtain step | ⟨failure, armed⟩ := step_or_failed request s
        · exact step.turnover add
        · simp only [Event.next, armed]
          exact turnover_arm s failure

/-- What each turnover keeps of a namespace and of the number of its links so far, whole runs keep, as
long as the links can be counted. -/
theorem after_of_turnover {P : Nat → Netns → Prop}
    (keeps : ∀ {n k s s'}, P n s → Turnover s k s' → n + k < 0x100000000 → P (n + k) s')
    (start : P n s) (events : List Event) (few : n + s.created events < 0x100000000) :
    P (n + s.created events) (s.after events) := by
  induction events generalizing n s with
  | nil => exact start
  | cons event rest ih =>
      simp only [created, ← Nat.add_assoc] at few ⊢
      exact ih (keeps start (turnover s event) (by omega)) few

/-- A namespace that has had `n` links: the last index given is `n`, and no link has a later one. -/
structure Numbered (n : Nat) (s : Netns) : Prop where
  nextIndex : s.nextIndex.toNat = n
  index_le : ∀ name r, s.links.get? name = some r → r.link.index.toNat ≤ n

theorem Numbered.fresh (numbered : Numbered n s) (few : n + 1 < 0x100000000) :
    (s.nextIndex + 1).toNat = n + 1 := by
  have room : s.nextIndex.toNat + 1 < 0x100000000 := by rwa [numbered.nextIndex]
  rw [toNat_succ room, numbered.nextIndex]

theorem Numbered.step {k : Nat} (numbered : Numbered n s) (turnover : Turnover s k s')
    (few : n + k < 0x100000000) : Numbered (n + k) s' := by
  cases turnover with
  | @creates _ name r index nextIndex links =>
      have fresh := numbered.fresh few
      constructor
      · rw [nextIndex, fresh]
      · intro other stored held
        rw [links, NameMap.get?_insert] at held
        split at held
        · cases held
          rw [index]
          omega
        · have old := numbered.index_le other stored held
          omega
  | keeps nextIndex older =>
      constructor
      · rw [nextIndex, numbered.nextIndex, Nat.add_zero]
      · intro name stored held
        obtain ⟨r, before, index⟩ := older name stored held
        rw [index]
        exact numbered.index_le name r before

/-- A namespace that had a device for a handle and has it no more. -/
structure Stale (l : Link) (n : Nat) (s : Netns) : Prop extends Numbered n s where
  handed : l.index.toNat ≤ n
  gone : ∀ r, s.links.get? l.name = some r → r.link.index ≠ l.index

theorem Stale.step {k : Nat} (stale : Stale l n s) (turnover : Turnover s k s')
    (few : n + k < 0x100000000) : Stale l (n + k) s' := by
  have numbered := stale.toNumbered.step turnover few
  have handed := stale.handed
  refine ⟨numbered, by omega, fun r held => ?_⟩
  cases turnover with
  | @creates _ name new index nextIndex links =>
      rw [links, NameMap.get?_insert] at held
      split at held
      · cases held
        -- the new device has an index that no handle was given before
        have fresh := stale.fresh few
        rw [index]
        intro same
        rw [same] at fresh
        omega
      · exact stale.gone r held
  | keeps _ older =>
      obtain ⟨before, stored, index⟩ := older l.name r held
      rw [index]
      exact stale.gone before stored

theorem Stale.record?_eq_none (stale : Stale l n s) : s.record? l = none := by
  rw [record?, Option.filter_eq_none_iff]
  intro r held
  simpa using stale.gone r held

theorem perform_of_gone {op : Call} (gone : s.record? l = none) (about : op.link? = some l) :
    ∃ name, s.perform op = .error (.linkNotFound name) := by
  have missing : s.resolve l = .error (.linkNotFound l.name) := by simp [resolve, gone]
  cases op with
  | addFilter link f =>
      cases about
      simp only [perform]
      split
      · exact ⟨_, rfl⟩
      · exact ⟨l.name, by simp [onLink, missing, bind, Except.bind]⟩
  | setLinkUp | addAddress | deleteLink | qdiscs | addQdisc | delQdisc | filters | delFilter =>
      cases about
      exact ⟨l.name, by simp [perform, onLink, missing, bind, Except.bind]⟩
  | _ => cases about

/-- What a call on a handle without a device does: the armed failure fires, or the link is missing. -/
theorem answer_of_gone {op : Call} (gone : s.record? l = none) (about : op.link? = some l) :
    ∃ name, kernel.answer op s =
      if s.isArmedFor op then
        (.error (.kernelOperation op.kind.name "operation not permitted"), s.arm none)
      else (.error (.linkNotFound name), s) := by
  obtain ⟨name, missing⟩ := perform_of_gone gone about
  exact ⟨name, by simp only [kernel, missing]; rfl⟩

/-- A call that answered a link. -/
inductive Hands (s : Netns) (l : Link) : Call → Prop where
  | found {name : String} (h : (kernel.answer (.linkByName name) s).1 = .ok l) :
      Hands s l (.linkByName name)
  | made {spec : TapSpec} (h : (kernel.answer (.addTap spec) s).1 = .ok l) :
      Hands s l (.addTap spec)

/-- An event that takes the device of a name away: it is deleted, or another one put in its place. -/
inductive Removes (s : Netns) (name : String) : Event → Prop where
  | deleted {link : Link} (same : link.name = name)
      (h : (kernel.answer (.deleteLink link) s).1 = .ok ()) :
      Removes s name (.call (.deleteLink link))
  | replaced {mtu : UInt32} {addrs : LinkAddrs} : Removes s name (.insert name mtu addrs)

/-- A link is handed out with an index that has been given by then. -/
theorem Hands.index_le {request : Call} (handed : Hands s l request) (numbered : Numbered n s)
    (few : n + (Event.call request).creates s < 0x100000000) :
    l.index.toNat ≤ n + (Event.call request).creates s := by
  cases handed with
  | @found name answered =>
      obtain ⟨s', carried, -⟩ := perform_of_answer answered
      cases held : s.links.get? name with
      | none => simp [perform, held] at carried
      | some r =>
          simp only [perform, held] at carried
          cases carried
          exact numbered.index_le name r held
  | @made spec answered =>
      have once : (Event.call (.addTap spec)).creates s = 1 := by
        simp [Event.creates, answered, Except.isOk, Except.toBool]
      obtain ⟨s', carried, -⟩ := perform_of_answer answered
      simp only [perform, addTap] at carried
      split at carried <;> cases carried
      rw [once] at few ⊢
      exact Nat.le_of_eq (numbered.fresh few)

theorem Removes.stale {event : Event} (removed : Removes s l.name event) (numbered : Numbered n s)
    (handed : l.index.toNat ≤ n) (few : n + event.creates s < 0x100000000) :
    Stale l (n + event.creates s) (event.next s) := by
  refine ⟨numbered.step (turnover s event) few, by omega, fun r held => ?_⟩
  cases removed with
  | @deleted link same answered =>
      obtain ⟨s', carried, left⟩ := perform_of_answer answered
      cases found : s.record? link with
      | none => simp [perform, resolve, found, bind, Except.bind] at carried
      | some record =>
          simp only [perform, resolve_of_record? found] at carried
          cases carried
          simp only [Event.next, left, same, NameMap.get?_erase_self] at held
          cases held
  | @replaced mtu addrs =>
      have fresh := numbered.fresh few
      simp only [Event.next, insertLink, NameMap.get?_insert_self] at held
      cases held
      intro (same : s.nextIndex + 1 = l.index)
      rw [← same, fresh] at handed
      omega

theorem numbered_empty : Numbered 0 empty :=
  ⟨rfl, fun name r held => by simp [empty, NameMap.empty, NameMap.get?] at held⟩

theorem numbered_loopback : Numbered 1 loopback :=
  numbered_empty.step (turnover empty (.insert "lo" 65536 _)) (by decide)

theorem numbered_withEth0 : Numbered 2 withEth0 := by
  have both := numbered_loopback.step (turnover loopback (.insert "eth0" 1500
    ⟨some ⟨#v[0x02, 0x42, 0xac, 0x11, 0x00, 0x02]⟩, some ⟨172, 17, 0, 2⟩, some ⟨255, 255, 0, 0⟩⟩))
    (by decide)
  exact ⟨both.nextIndex, both.index_le⟩

theorem numbered_of_start {start : Netns} (known : start ∈ [empty, loopback, withEth0]) :
    Numbered start.links.entries.length start := by
  simp only [List.mem_cons, List.not_mem_nil, or_false] at known
  obtain rfl | rfl | rfl := known
  · exact numbered_empty
  · exact numbered_loopback
  · exact numbered_withEth0

theorem stale_handle {start : Netns} (known : start ∈ [empty, loopback, withEth0])
    {before meanwhile later : List Event} {request : Call} {removal : Event} {l : Link}
    (few : start.links.entries.length +
      start.created (before ++ .call request :: meanwhile ++ removal :: later) < 0x100000000)
    (handed : Hands (start.after before) l request)
    (removed : Removes (start.after (before ++ .call request :: meanwhile)) l.name removal) :
    let s := start.after (before ++ .call request :: meanwhile ++ removal :: later)
    ∀ op : Call, op.link? = some l → ∃ name, kernel.answer op s =
      if s.isArmedFor op then
        (.error (.kernelOperation op.kind.name "operation not permitted"), s.arm none)
      else (.error (.linkNotFound name), s) := by
  intro s op about
  simp only [created_append, created, after_append, after_cons] at few removed
  have numbered := after_of_turnover Numbered.step (numbered_of_start known) before (by omega)
  have index_le := handed.index_le numbered (by omega)
  have present := numbered.step (turnover _ (.call request)) (by omega)
  have present := after_of_turnover Numbered.step present meanwhile (by omega)
  have stale := removed.stale present (by omega) (by omega)
  have stale := after_of_turnover Stale.step stale later (by omega)
  have gone : s.record? l = none := by
    simp only [s, after_append, after_cons]
    exact stale.record?_eq_none
  exact answer_of_gone gone about

/-- A device that is deleted and made again does not answer to its old handle. -/
theorem stale_handle_recreated :
    let l : Link := ⟨3, "tap0", 1500⟩
    let create : Call := .addTap ⟨"tap0", 1, none, 1000, 1000⟩
    let deletion : Event := .call (.deleteLink l)
    let s := withEth0.after ([] ++ .call create :: [] ++ deletion :: [.call create])
    withEth0.links.entries.length +
        withEth0.created ([] ++ .call create :: [] ++ deletion :: [.call create]) < 0x100000000 ∧
      Hands (withEth0.after []) l create ∧
      Removes (withEth0.after ([] ++ .call create :: [])) l.name deletion ∧
      (s.links.get? "tap0").map (·.link) = some ⟨4, "tap0", 1500⟩ ∧
      ∀ op : Call, op.link? = some l → ∃ name, kernel.answer op s =
        if s.isArmedFor op then
          (.error (.kernelOperation op.kind.name "operation not permitted"), s.arm none)
        else (.error (.linkNotFound name), s) := by
  intro l create deletion s
  have few : withEth0.links.entries.length +
      withEth0.created ([] ++ .call create :: [] ++ deletion :: [.call create]) < 0x100000000 := by
    decide
  have handed : Hands (withEth0.after []) l create := .made rfl
  have removed : Removes (withEth0.after ([] ++ .call create :: [])) l.name deletion :=
    .deleted rfl rfl
  exact ⟨few, handed, removed, by decide, stale_handle (by simp) few handed removed⟩

end SandboxNet.Netns
