import SandboxNet.Proofs.Sandbox.Setup
import SandboxNet.Settings.Basic

/-! # From settings to a sandbox

Settings that pass validation name a scheme and ask for at least one queue. They do not have to ask
for few enough: a setup refuses a number of queues that is no signed number, so the settings that a
sandbox can be set up by are those that are valid and small.
-/

namespace SandboxNet

open Netns

theorem max_queues {queues : UInt32} (nonzero : queues ≠ 0) : max queues 1 = queues := by
  have positive : ¬ queues ≤ 1 ∨ queues = 1 := by
    have value : queues.toNat ≠ 0 := by simpa [← UInt32.toNat_inj] using nonzero
    rw [UInt32.le_iff_toNat_le, ← UInt32.toNat_inj, UInt32.toNat_one]
    omega
  show (if queues ≤ 1 then 1 else queues) = queues
  grind

namespace Settings

variable {settings : Settings}

theorem validate_eq_ok_iff : settings.validate = .ok () ↔
    (∃ scheme, settings.network.scheme = .ok scheme) ∧ settings.network.tapQueues ≠ 0 ∧
      (Log.Level.ofName? settings.logging.level).isSome = true := by
  unfold validate
  cases settings.network.scheme with
  | error e => simp [bind, Except.bind]
  | ok scheme =>
      by_cases none : settings.network.tapQueues = 0
      · simp [none, bind, Except.bind, throw, throwThe, MonadExceptOf.throw]
      · cases Log.Level.ofName? settings.logging.level <;>
          simp [none, bind, Except.bind, throw, throwThe, MonadExceptOf.throw, pure, Except.pure]

/-- A namespace without TAP devices, whose uplink can be reported on and holds no queueing
discipline, and where no call is armed to fail. -/
structure Vacant (s : Netns) (e : LinkRecord) : Prop where
  calm : s.Unarmed
  noTap : ∀ name ∈ s.links.names, ¬ "tap".toList <+: name.toList
  held : s.links.get? "eth0" = some e
  addressed : Uplink.Addressed e.addrs
  bare : e.qdiscs = []

theorem Vacant.ready {s : Netns} {e : LinkRecord} {queues : UInt32} (vacant : Vacant s e)
    (small : queues < 0x80000000) : Strategy.Ready s queues e := by
  have clearable : e.Clearable := by
    constructor
    · simp [LinkRecord.removable, vacant.bare]
    · simp [vacant.bare]
  exact ⟨TapIndex.count_eq_zero vacant.noTap, small, clearable, vacant.addressed⟩

theorem setup_of_valid {s : Netns} {e : LinkRecord} (valid : settings.validate = .ok ())
    (small : settings.network.tapQueues < 0x80000000) (room : s.nextIndex < 0xffffffff)
    (vacant : Vacant s e) (named : e.link.name = "eth0") :
    ∃ scheme, settings.network.scheme = .ok scheme ∧ ∀ uid gid,
      let strategy : Strategy := ⟨scheme, settings.network.tapQueues⟩
      let r := (strategy.setup uid gid).run kernel s
      ∃ info t spec, r.result = .ok info ∧ s.links.get? info.tapDevice = none ∧
        r.state.links.get? info.tapDevice = some t ∧
        t.link.index.toNat = s.nextIndex.toNat + 1 ∧ t.tap = some spec ∧
        spec.queues = settings.network.tapQueues := by
  obtain ⟨⟨scheme, known⟩, nonzero, -⟩ := validate_eq_ok_iff.1 valid
  refine ⟨scheme, known, fun uid gid => ?_⟩
  intro strategy r
  have ready : Strategy.Ready s strategy.queues e := vacant.ready small
  have ownName : ∀ e', s.links.get? Uplink.name = some e' → e'.link.name = Uplink.name := by
    intro e' held'
    obtain rfl : e = e' := Option.some.inj (vacant.held.symm.trans held')
    exact named
  obtain ⟨outcome, -⟩ := (Strategy.always_setup_of_uplink strategy ownName).run_unarmed vacant.calm
  obtain ⟨info, e', t, rules, on, ended, left, complete⟩ := outcome.complete vacant.held ready
  obtain ⟨report, -, rfl⟩ := complete.report
  refine ⟨_, t, _, ended, ready.fresh, ?_, ?_, congrArg LinkRecord.tap complete.tap, ?_⟩
  · rw [left]
    exact get?_withSandbox_tap
  · rw [complete.tap]
    exact toNat_nextIndex room
  · exact max_queues nonzero

theorem vacant_withEth0 : ∃ e, Vacant withEth0 e ∧ e.link.name = "eth0" :=
  ⟨_, ⟨unarmed_of_failNext rfl, by decide, rfl, ⟨rfl, rfl, rfl⟩, rfl⟩, rfl⟩

theorem setup_of_valid_withEth0 :
    let settings : Settings := ⟨⟨"dynamic", 4⟩, ⟨"warn"⟩⟩
    settings.validate = .ok () ∧ settings.network.tapQueues < 0x80000000 ∧
      withEth0.nextIndex < 0xffffffff ∧ (∃ e, Vacant withEth0 e ∧ e.link.name = "eth0") ∧
      ∃ scheme, settings.network.scheme = .ok scheme ∧ ∀ uid gid,
        let r := ((⟨scheme, 4⟩ : Strategy).setup uid gid).run kernel withEth0
        ∃ info t spec, r.result = .ok info ∧ withEth0.links.get? info.tapDevice = none ∧
          r.state.links.get? info.tapDevice = some t ∧
          t.link.index.toNat = withEth0.nextIndex.toNat + 1 ∧ t.tap = some spec ∧ spec.queues = 4 := by
  intro settings
  have valid : settings.validate = .ok () := by rfl
  have small : settings.network.tapQueues < 0x80000000 := by decide
  have room : withEth0.nextIndex < 0xffffffff := by decide
  obtain ⟨e, vacant, named⟩ := vacant_withEth0
  exact ⟨valid, small, room, ⟨e, vacant, named⟩, setup_of_valid valid small room vacant named⟩

/-- Valid settings may ask for more queues than a setup accepts, and an uplink that is kept under a
name other than its own is not found again. -/
theorem setup_fails_though_valid :
    let settings : Settings := ⟨⟨"static", 0x80000000⟩, ⟨"info"⟩⟩
    let misplaced : LinkRecord := ⟨⟨2, "eth1", 1500⟩, true, none,
      ⟨some ⟨#v[2, 0x42, 0xac, 0x11, 0, 2]⟩, some ⟨172, 17, 0, 2⟩, some ⟨255, 255, 0, 0⟩⟩, [], [], []⟩
    let s : Netns := withEth0.put "eth0" misplaced
    (settings.validate = .ok () ∧ (∃ e, Vacant withEth0 e ∧ e.link.name = "eth0") ∧
      settings.network.scheme = .ok .static ∧
      (((⟨.static, 0x80000000⟩ : Strategy).setup 1000 1000).run kernel withEth0).result =
        .error (.invalidParameter "queue count 2147483648 too large")) ∧
    Settings.standard.validate = .ok () ∧ Vacant s misplaced ∧
      Settings.standard.network.scheme = .ok .static ∧
      (((⟨.static, 1⟩ : Strategy).setup 1000 1000).run kernel s).result =
        .error (.linkNotFound "eth1") := by
  intro settings misplaced s
  have vacant : Vacant s misplaced :=
    ⟨unarmed_of_failNext rfl, by decide, by rfl, ⟨rfl, rfl, rfl⟩, rfl⟩
  refine ⟨⟨by rfl, vacant_withEth0, by rfl, by rfl⟩, by rfl, vacant, by rfl, ?_⟩
  unfold s misplaced
  rfl

end Settings

end SandboxNet
