import SandboxNet.Proofs.Sandbox.Reclaim

/-! # Rounds of setup and cleanup

The first round clears the physical link of whatever hung off its ingress point. From then on a round
gives back exactly what it took, so that no number of rounds wears the namespace out.
-/

namespace SandboxNet

open Program LinkRecord Netns Tc

namespace LinkRecord

variable {e e' : LinkRecord} {tap : String}

/-- A link without what hangs below its ingress point. -/
def swept (e : LinkRecord) : LinkRecord :=
  { e with qdiscs := Qdisc.sweep [Handle.ingress.major] e.qdiscs }

/-- A link that a round leaves as it is. -/
structure Settled (e : LinkRecord) : Prop where
  ingressFilters : e.ingressFilters = []
  removable : e.removable = []
  free : ∀ q ∈ e.qdiscs, q.handle ≠ Handle.ingress
  clear : ∀ q ∈ e.qdiscs, q.hangsBelow Handle.ingress.major = false

theorem Settled.swept (settled : Settled e) : e.swept = e := by
  have same : Qdisc.sweep [Handle.ingress.major] e.qdiscs = e.qdiscs := by
    apply Qdisc.sweep_eq_self
    intro q member major visited
    rw [List.mem_singleton.1 visited]
    exact settled.clear q member
  rw [LinkRecord.swept, same]

theorem shorn_swept (e : LinkRecord) : Shorn e e.swept :=
  ⟨rfl, Qdisc.sweep_sublist _ _, List.Sublist.refl _, rfl⟩

/-- The redirect of a device comes off again. -/
theorem dropFilter_joined (clear : e.ingressFilters = [])
    (h : Edits False dropFilter ((e.joined tap).redirects tap) (e.joined tap) (.ok ()) e') :
    e' = e.withIngress := by
  have listed : (e.joined tap).redirects tap = [Filter.redirect tap] := by
    rw [redirects, ingressFilters_joined, clear]
    simp
  rw [listed] at h
  rw [filters_of_edits h]
  have others : e.filters.filter (!meets [Filter.redirect tap] ·) = e.filters := by
    apply List.filter_eq_self.2
    intro f member
    have parent : f.parent ≠ Handle.ingress := by
      simpa using List.filter_eq_nil_iff.1 clear f member
    simp [meets, parent]
  have own : [Filter.redirect tap].filter (!meets [Filter.redirect tap] ·) = [] := by
    simp [meets]
  have left : (e.joined tap).filters.filter (!meets [Filter.redirect tap] ·) = e.filters := by
    show (e.filters ++ [Filter.redirect tap]).filter _ = _
    rw [List.filter_append, others, own, List.append_nil]
  rw [left]
  rfl

/-- The ingress queueing discipline comes off again, and what hangs below it goes along. -/
theorem dropQdisc_withIngress {result : Except Error Unit} (clear : e.ingressFilters = [])
    (free : ∀ q ∈ e.qdiscs, q.handle ≠ Handle.ingress)
    (unique : ∀ q ∈ e.qdiscs, q.isIngress = true → q = Qdisc.ingress)
    (h : Edits False dropQdisc (e.withIngress.qdiscs.filter (·.isIngress)) e.withIngress result e') :
    e' = e.swept := by
  have held : Qdisc.ingress ∈ e.withIngress.qdiscs := List.mem_append_right _ List.mem_cons_self
  have none : e.qdiscs.filter (·.isIngress) = [] :=
    List.filter_eq_nil_iff.2 fun q member kind => free q member (unique q member kind ▸ rfl)
  have listed : e.withIngress.qdiscs.filter (·.isIngress) = [Qdisc.ingress] := by
    show (e.qdiscs ++ [Qdisc.ingress]).filter _ = _
    rw [List.filter_append, none]
    rfl
  have others : e.withIngress.qdiscs.filter (· ≠ Qdisc.ingress) = e.qdiscs := by
    show (e.qdiscs ++ [Qdisc.ingress]).filter _ = _
    rw [List.filter_append, List.filter_eq_self.2, List.filter_cons_of_neg (by simp)]
    · exact List.append_nil _
    · intro q member
      have different : q ≠ Qdisc.ingress := fun same => free q member (same ▸ rfl)
      simpa using different
  have filters : e.filters.filter (·.parent ≠ Handle.ingress) = e.filters := by
    apply List.filter_eq_self.2
    intro f member
    simpa using List.filter_eq_nil_iff.1 clear f member
  rw [listed] at h
  cases h with
  | failed fails => exact absurd fails id
  | refused refused =>
      rw [dropQdisc, delQdisc_of_mem held] at refused
      cases refused
  | next dropped later =>
      rw [dropQdisc, delQdisc_of_mem held, others] at dropped
      cases dropped
      cases later with
      | failed fails => exact absurd fails id
      | finished =>
          show { e with
            qdiscs := Qdisc.sweep [Handle.ingress.major] e.qdiscs
            filters := e.filters.filter (·.parent ≠ Handle.ingress) } = e.swept
          rw [filters]
          rfl

/-- What the release of a joined link leaves. -/
theorem released_joined (clear : e.ingressFilters = [])
    (free : ∀ q ∈ e.qdiscs, q.handle ≠ Handle.ingress)
    (unique : ∀ q ∈ e.qdiscs, q.isIngress = true → q = Qdisc.ingress)
    (h : Released False tap (e.joined tap) e') : e' = e.swept := by
  cases h with
  | stopped filters => cases filters.ok_of_total id fun f r => ⟨_, rfl⟩
  | inUse filters remaining =>
      rw [redirects, ingressFilters_joined, clear] at remaining
      simp at remaining
  | unused filters _ qdiscs =>
      have same := dropFilter_joined clear filters
      subst same
      exact dropQdisc_withIngress clear free unique qdiscs

end LinkRecord

/-- What a round asks of a namespace and its physical link. -/
structure Lasting (s : Netns) (e : LinkRecord) : Prop where
  named : s.Named
  calm : s.Unarmed
  held : s.links.get? Uplink.name = some e
  alone : TapIndex.count s.links.names = 0
  clearable : e.Clearable
  unique : ∀ q ∈ e.qdiscs, q.isIngress = true → q = Qdisc.ingress
  addressed : Uplink.Addressed e.addrs
  once : s.nat.count sandboxRule ≤ 1

/-- What every setup tells its sandbox. -/
def told (addrs : LinkAddrs) : Descriptor :=
  Strategy.descriptor AddressPlan.fixed
    ⟨"", "", "", Uplink.name, ((addrs.mac.map Mac.text).getD "")⟩

theorem told_of_reports {addrs : LinkAddrs} {report : Interface}
    (reports : Uplink.Reports addrs report) :
    Strategy.descriptor AddressPlan.fixed report = told addrs := by
  have mac : (addrs.mac.map Mac.text).getD "" = report.mac := by rw [reports.mac]; rfl
  rw [told, mac, ← reports.interface]
  rfl

namespace Order

variable {s : Netns} {e : LinkRecord}

/-- The setup of a round. -/
def setup (round : Order) (s : Netns) : Run Netns Descriptor := round.program.run kernel s

/-- The cleanup of a round. -/
def cleanup (round : Order) (s : Netns) : Run Netns Unit :=
  (Cleanup.run "tap0_urunc").run kernel (round.setup s).state

/-- The namespace after some rounds. -/
def after (s : Netns) (rounds : List Order) : Netns :=
  rounds.foldl (fun s round => (round.cleanup s).state) s

/-- What one round makes of a namespace. -/
structure Done (s : Netns) (e : LinkRecord) (round : Order) (e₁ : LinkRecord) : Prop where
  cleared : Cleared e e₁
  free : ∀ q ∈ e₁.qdiscs, q.handle ≠ Handle.ingress
  setup : (round.setup s).result = .ok (told e.addrs)
  cleanup : (round.cleanup s).result = .ok ()
  state : (round.cleanup s).state = s.withoutSandbox e₁.swept (s.nat.filter (· ≠ sandboxRule))
    (round.strategy.scheme.forwards s.forwarding)
  calm : (round.cleanup s).state.Unarmed

theorem done (lasting : Lasting s e) (round : Order) (small : round.strategy.queues < 0x80000000) :
    ∃ e₁, Done s e round e₁ := by
  have ready : Strategy.Ready s round.strategy.queues e :=
    ⟨lasting.alone, small, lasting.clearable, lasting.addressed⟩
  have always : round.program.Always (Answers False) s
      (Strategy.Outcome False s round.strategy round.uid round.gid) :=
    Strategy.always_setup round.strategy lasting.named
  obtain ⟨outcome, calm⟩ := always.run_unarmed lasting.calm
  obtain ⟨info, e', t', rules, on, answered, made, complete⟩ := outcome.complete lasting.held ready
  obtain ⟨report, reports, rfl⟩ := complete.report
  have stage : Stage AddressPlan.fixed.tapName e e' := complete.uplink.stage
  obtain ⟨e₁, cleared, free, rfl⟩ := complete.uplink
  have named₁ : (s.withSandbox (e₁.joined AddressPlan.fixed.tapName) t' rules on).Named := by
    refine named_withSandbox lasting.named ?_ (by rw [complete.tap]; rfl)
    rw [stage.link]
    exact lasting.named.link_name lasting.held
  rw [made] at calm
  obtain ⟨⟨cleaned, e₂, released, left⟩, quiet⟩ :=
    (always_release named₁ ready.fresh).run_unarmed calm
  rw [← made, tapName_fixed] at cleaned left quiet
  refine ⟨e₁, cleared, free, ?_, cleaned, left.trans ?_, quiet⟩
  · rw [← told_of_reports reports]
    exact answered
  · have unique := fun q member => lasting.unique q (cleared.shorn.qdiscs.subset member)
    rw [released_joined cleared.ingressFilters_eq free unique released, complete.nat,
      complete.forwarding, Scheme.erase_rules lasting.once]

/-- A namespace that rounds leave as it is. -/
structure Steady (s : Netns) (e : LinkRecord) : Prop where
  lasting : Lasting s e
  settled : Settled e
  absent : sandboxRule ∉ s.nat

theorem settled_swept {e₁ : LinkRecord} (filters : e₁.ingressFilters = [])
    (removable : e₁.removable = []) (free : ∀ q ∈ e₁.qdiscs, q.handle ≠ Handle.ingress) :
    Settled e₁.swept where
  ingressFilters := filters
  removable := List.sublist_nil.1 (removable ▸ (shorn_swept e₁).qdiscs.filter _)
  free := fun q member => free q ((shorn_swept e₁).qdiscs.subset member)
  clear := fun _ member => Qdisc.hangsBelow_of_mem_sweep member _ List.mem_cons_self

theorem count_withoutSandbox {rules : List NatRule} {on : Bool}
    (alone : TapIndex.count s.links.names = 0) :
    TapIndex.count (s.withoutSandbox e rules on).links.names = 0 := by
  rw [TapIndex.count, List.countP_eq_zero] at alone ⊢
  intro name listed
  obtain ⟨r, held⟩ := NameMap.mem_names_iff.1 listed
  by_cases isUplink : name = Uplink.name
  · subst isUplink
    decide
  · refine alone name (NameMap.mem_names_iff.2 ⟨r, ?_⟩)
    exact (NameMap.get?_insert_of_ne _ _ isUplink).symm.trans held

theorem named_withoutSandbox {rules : List NatRule} {on : Bool} (named : s.Named)
    (uplink : e.link.name = Uplink.name) : (s.withoutSandbox e rules on).Named := by
  apply named_iff.2
  intro name r held
  have held : (s.links.insert Uplink.name e).get? name = some r := held
  by_cases isUplink : name = Uplink.name
  · subst isUplink
    rw [NameMap.get?_insert_self] at held
    exact Option.some.inj held ▸ uplink
  · rw [NameMap.get?_insert_of_ne _ _ isUplink] at held
    exact named.link_name held

theorem Done.steady {round : Order} {e₁ : LinkRecord} (lasting : Lasting s e)
    (done : Done s e round e₁) : Steady (round.cleanup s).state e₁.swept := by
  have shorn : Shorn e e₁.swept := done.cleared.shorn.trans (shorn_swept e₁)
  have settled := settled_swept done.cleared.ingressFilters_eq done.cleared.removable_eq done.free
  have calm := done.calm
  rw [done.state] at calm ⊢
  have absent : sandboxRule ∉ s.nat.filter (· ≠ sandboxRule) := fun member => by
    simpa using (List.mem_filter.1 member).2
  have clearable : e₁.swept.Clearable := by
    refine ⟨settled.removable ▸ .nil, ?_⟩
    intro q member handle
    exact absurd handle (settled.free q member)
  have uplink : e₁.swept.link.name = Uplink.name := by
    rw [shorn.link]
    exact lasting.named.link_name lasting.held
  exact {
    lasting := {
      named := named_withoutSandbox lasting.named uplink
      calm := calm
      held := NameMap.get?_insert_self _ _ _
      alone := count_withoutSandbox lasting.alone
      clearable := clearable
      unique := fun q member => lasting.unique q (shorn.qdiscs.subset member)
      addressed := by rw [shorn.rest]; exact lasting.addressed
      once := by rw [withoutSandbox, List.count_eq_zero.2 absent]; exact Nat.zero_le 1 }
    settled := settled
    absent := absent }

/-- Whether some of the rounds set up the masqueraded subnet. -/
def masquerading (rounds : List Order) : Bool :=
  rounds.any fun round => round.strategy.scheme = .static

theorem Done.nextIndex {round : Order} {e₁ : LinkRecord} (done : Done s e round e₁)
    (room : s.nextIndex.toNat + 1 < 0x100000000) :
    (round.cleanup s).state.nextIndex.toNat = s.nextIndex.toNat + 1 := by
  rw [done.state]
  exact toNat_succ room

theorem Done.forwarding {round : Order} {e₁ : LinkRecord} (done : Done s e round e₁) :
    (round.cleanup s).state.forwarding = (s.forwarding || masquerading [round]) := by
  rw [done.state]
  exact (Scheme.forwards_eq_or _ _).trans (by simp [masquerading])

/-- Two namespaces that differ in the next index and in forwarding only. -/
def Alike (s s' : Netns) : Prop :=
  s' = { s with nextIndex := s'.nextIndex, forwarding := s'.forwarding }

theorem Alike.refl (s : Netns) : Alike s s := rfl

theorem Alike.trans {s s₁ s₂ : Netns} (first : Alike s s₁) (second : Alike s₁ s₂) : Alike s s₂ := by
  unfold Alike at *
  rw [second, first]

/-- A round in a steady namespace. -/
theorem Steady.round (steady : Steady s e) (round : Order)
    (small : round.strategy.queues < 0x80000000) :
    Done s e round e ∧ Alike s (round.cleanup s).state ∧ Steady (round.cleanup s).state e := by
  obtain ⟨e₁, done⟩ := Order.done steady.lasting round small
  have steady₁ := done.steady steady.lasting
  have same : e₁ = e := done.cleared.eq_self steady.settled.ingressFilters steady.settled.removable
  subst same
  rw [steady.settled.swept] at steady₁
  refine ⟨done, ?_, steady₁⟩
  rw [done.state, steady.settled.swept, Masquerade.filter_ne_of_not_mem steady.absent, withoutSandbox,
    put_get? steady.lasting.held]
  rfl

theorem Steady.after {rounds : List Order} (steady : Steady s e)
    (small : ∀ round ∈ rounds, round.strategy.queues < 0x80000000)
    (room : s.nextIndex.toNat + rounds.length < 0x100000000) :
    let s' := after s rounds
    Alike s s' ∧ s'.nextIndex.toNat = s.nextIndex.toNat + rounds.length ∧
      s'.forwarding = (s.forwarding || masquerading rounds) ∧ Steady s' e := by
  induction rounds generalizing s with
  | nil => exact ⟨.refl s, rfl, (Bool.or_false _).symm, steady⟩
  | cons round rest ih =>
      obtain ⟨done, alike, steady₁⟩ := steady.round round (small round List.mem_cons_self)
      rw [List.length_cons] at room ⊢
      have index := done.nextIndex (by omega)
      obtain ⟨alike', indices, forwarding, steady'⟩ := ih steady₁
        (fun other member => small other (List.mem_cons_of_mem _ member)) (by omega)
      refine ⟨alike.trans alike', ?_, ?_, steady'⟩
      · show (after (round.cleanup s).state rest).nextIndex.toNat = _
        omega
      · show (after (round.cleanup s).state rest).forwarding = _
        rw [forwarding, done.forwarding, Bool.or_assoc]
        simp [masquerading]

/-- The last of some rounds in a steady namespace. -/
theorem Steady.last {before : List Order} {round : Order} (steady : Steady s e)
    (small : ∀ other ∈ before ++ [round], other.strategy.queues < 0x80000000)
    (room : s.nextIndex.toNat + before.length + 1 < 0x100000000) :
    let s' := Order.after s (before ++ [round])
    Done (Order.after s before) e round e ∧ Alike s s' ∧
      s'.nextIndex.toNat = s.nextIndex.toNat + before.length + 1 ∧
      s'.forwarding = (s.forwarding || masquerading (before ++ [round])) := by
  have small₀ : ∀ other ∈ before, other.strategy.queues < 0x80000000 :=
    fun other member => small other (List.mem_append_left _ member)
  have length : (before ++ [round]).length = before.length + 1 := List.length_append
  obtain ⟨_, _, _, steady₀⟩ := steady.after small₀ (by omega)
  obtain ⟨done, _, _⟩ := steady₀.round round (small round (by simp))
  obtain ⟨alike, index, forwarding, _⟩ := steady.after small (by omega)
  exact ⟨done, alike, by omega, forwarding⟩

/-- What rounds may start from. -/
structure Enduring (s : Netns) : Prop where
  named : s.Named
  calm : s.Unarmed
  noTap : ∀ name ∈ s.links.names, ¬ "tap".toList <+: name.toList
  uplink : ∃ e, s.links.get? "eth0" = some e ∧ Uplink.Addressed e.addrs ∧
    (e.qdiscs.filter (!·.isKernelDefault)).Pairwise (fun p q => p.handle ≠ q.handle) ∧
    (∀ q ∈ e.qdiscs, q.isIngress = true → q = Qdisc.ingress) ∧
    ∀ q ∈ e.qdiscs, q.handle = Handle.ingress → q.isTopLevel = true
  once : s.nat.count ⟨"eth0", ⟨⟨172, 16, 1, 0⟩, 24⟩⟩ ≤ 1

theorem Enduring.lasting (enduring : Enduring s) : ∃ e, Lasting s e := by
  obtain ⟨e, held, addressed, distinct, unique, free⟩ := enduring.uplink
  have alone : TapIndex.count s.links.names = 0 := TapIndex.count_eq_zero enduring.noTap
  have removable : e.removable.Sublist (e.qdiscs.filter (!·.isKernelDefault)) := by
    rw [LinkRecord.removable, ← List.filter_filter]
    exact List.filter_sublist.filter _
  have nodup : e.removable.Nodup :=
    (distinct.sublist removable).imp fun different same => different (congrArg Qdisc.handle same)
  exact ⟨e, enduring.named, enduring.calm, held, alone, ⟨nodup, free⟩, unique, addressed,
    enduring.once⟩

theorem rounds_last {s : Netns} (enduring : Enduring s) (first : Order) (later : List Order)
    (small : ∀ round ∈ first :: later, round.strategy.queues < 0x80000000)
    (room : s.nextIndex.toNat + (first :: later).length < 0x100000000) :
    ∃ info, ∀ before round rest, first :: later = before ++ round :: rest →
      let s' := after s (before ++ [round])
      (round.setup (after s before)).result = .ok info ∧
        (round.cleanup (after s before)).result = .ok () ∧
        Alike (after s [first]) s' ∧
        s'.nextIndex.toNat = s.nextIndex.toNat + before.length + 1 ∧
        s'.forwarding = (s.forwarding || masquerading (before ++ [round])) := by
  obtain ⟨e, lasting⟩ := enduring.lasting
  obtain ⟨e₁, done⟩ := Order.done lasting first (small first List.mem_cons_self)
  have steady : Steady (after s [first]) e₁.swept := done.steady lasting
  have addrs : e₁.swept.addrs = e.addrs := by
    rw [(done.cleared.shorn.trans (shorn_swept e₁)).rest]
  have index : (after s [first]).nextIndex.toNat = s.nextIndex.toNat + 1 := by
    rw [List.length_cons] at room
    exact done.nextIndex (by omega)
  have on : (after s [first]).forwarding = (s.forwarding || masquerading [first]) := done.forwarding
  refine ⟨told e.addrs, ?_⟩
  intro before round rest split
  cases before with
  | nil =>
      cases split
      exact ⟨done.setup, done.cleanup, .refl _, index, on⟩
  | cons head before =>
      rw [List.cons_append] at split
      obtain ⟨rfl, rfl⟩ := List.cons.inj split
      have small₁ : ∀ other ∈ before ++ [round], other.strategy.queues < 0x80000000 := by
        intro other member
        refine small other (List.mem_cons_of_mem _ ?_)
        rw [List.append_cons]
        exact List.mem_append_left _ member
      have room₁ : (after s [first]).nextIndex.toNat + before.length + 1 < 0x100000000 := by
        simp only [List.length_cons, List.length_append] at room
        omega
      obtain ⟨again, alike, indices, forwarding⟩ := steady.last small₁ room₁
      refine ⟨addrs ▸ again.setup, again.cleanup, alike, ?_, ?_⟩
      · have last : (after s (first :: before ++ [round])).nextIndex.toNat =
            (after s [first]).nextIndex.toNat + before.length + 1 := indices
        rw [List.length_cons]
        omega
      · have last : (after s (first :: before ++ [round])).forwarding =
            ((after s [first]).forwarding || masquerading (before ++ [round])) := forwarding
        rw [last, on, Bool.or_assoc]
        simp [masquerading]

theorem rounds_last_withEth0 :
    let first : Order := ⟨⟨.dynamic, 1⟩, 1000, 1000⟩
    let later : List Order := [⟨⟨.static, 4⟩, 0, 0⟩]
    Enduring withEth0 ∧ (∀ round ∈ first :: later, round.strategy.queues < 0x80000000) ∧
      withEth0.nextIndex.toNat + (first :: later).length < 0x100000000 ∧
      ∃ info, ∀ before round rest, first :: later = before ++ round :: rest →
        let s' := after withEth0 (before ++ [round])
        (round.setup (after withEth0 before)).result = .ok info ∧
          (round.cleanup (after withEth0 before)).result = .ok () ∧
          Alike (after withEth0 [first]) s' ∧
          s'.nextIndex.toNat = withEth0.nextIndex.toNat + before.length + 1 ∧
          s'.forwarding = (withEth0.forwarding || masquerading (before ++ [round])) := by
  intro first later
  have enduring : Enduring withEth0 := {
    named := by decide
    calm := unarmed_of_failNext rfl
    noTap := by decide
    uplink := ⟨_, rfl, ⟨rfl, rfl, rfl⟩, .nil, nofun, nofun⟩
    once := by decide }
  have small : ∀ round ∈ first :: later, round.strategy.queues < 0x80000000 := by decide
  have room : withEth0.nextIndex.toNat + (first :: later).length < 0x100000000 := by decide
  exact ⟨enduring, small, room, rounds_last enduring first later small room⟩

end Order

end SandboxNet
