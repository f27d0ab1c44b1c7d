import SandboxNet.Sandbox.Setup
import SandboxNet.Proofs.Duplex
import SandboxNet.Proofs.Uplink

/-! # Making the device of a sandbox

Before the device there is nothing to take back; from then on a namespace is the one before
`withSandbox`, however far the two links have come.
-/

namespace SandboxNet

open Program LinkRecord

theorem tapName_fixed : AddressPlan.fixed.tapName = "tap0_urunc" := by decide

theorem uplink_ne_tapName : Uplink.name ≠ AddressPlan.fixed.tapName := by decide

namespace Netns

variable {s : Netns} {e t : LinkRecord} {rules : List NatRule} {on : Bool}

/-- The new device once it is up and has its address. -/
def addressed (s : Netns) (spec : TapSpec) (addr : Ipv4Net) : LinkRecord :=
  { s.device spec with
    up := true
    extraAddrs := [addr]
    addrs := { (s.device spec).addrs with ipv4 := some addr.addr, netmask := some addr.netmask } }

/-- A namespace with one device more, the sandbox's, and other records and rules. -/
def withSandbox (s : Netns) (e t : LinkRecord) (rules : List NatRule) (on : Bool) : Netns :=
  { s with
    nextIndex := s.nextIndex + 1
    links := (s.links.insert Uplink.name e).insert AddressPlan.fixed.tapName t
    nat := rules
    forwarding := on }

/-- A namespace that has lost the sandbox's device again. -/
def withoutSandbox (s : Netns) (e : LinkRecord) (rules : List NatRule) (on : Bool) : Netns :=
  { s.put Uplink.name e with
    nextIndex := s.nextIndex + 1
    nat := rules
    forwarding := on }

theorem perform_addTap {spec : TapSpec} (fresh : s.links.get? spec.name = none) :
    s.perform (.addTap spec) = .ok ((s.device spec).link, { s with
      nextIndex := s.nextIndex + 1
      links := s.links.insert spec.name (s.device spec) }) := by
  have absent : s.links.contains spec.name = false := NameMap.contains_eq_false.2 fresh
  simp only [perform, addTap, absent, Bool.false_eq_true, if_false]
  rfl

theorem get?_withSandbox_uplink :
    (s.withSandbox e t rules on).links.get? Uplink.name = some e := by
  rw [withSandbox, NameMap.get?_insert_of_ne _ _ uplink_ne_tapName, NameMap.get?_insert_self]

theorem get?_withSandbox_tap :
    (s.withSandbox e t rules on).links.get? AddressPlan.fixed.tapName = some t :=
  NameMap.get?_insert_self _ _ _

theorem get?_withSandbox {name : String} (notUplink : name ≠ Uplink.name)
    (notTap : name ≠ AddressPlan.fixed.tapName) :
    (s.withSandbox e t rules on).links.get? name = s.links.get? name := by
  rw [withSandbox, NameMap.get?_insert_of_ne _ _ notTap, NameMap.get?_insert_of_ne _ _ notUplink]

theorem withSandbox_erase (fresh : s.links.get? AddressPlan.fixed.tapName = none) :
    { s.withSandbox e t rules on with
      links := (s.withSandbox e t rules on).links.erase AddressPlan.fixed.tapName } =
      s.withoutSandbox e rules on := by
  have absent : (s.links.insert Uplink.name e).get? AddressPlan.fixed.tapName = none := by
    rw [NameMap.get?_insert_of_ne _ _ uplink_ne_tapName.symm, fresh]
  simp only [withSandbox, withoutSandbox, put, NameMap.erase_insert, NameMap.erase_of_absent absent]

theorem named_withSandbox (named : s.Named) (uplink : e.link.name = Uplink.name)
    (tap : t.link.name = AddressPlan.fixed.tapName) : (s.withSandbox e t rules on).Named := by
  apply named_iff.2
  intro name r held
  by_cases isTap : name = AddressPlan.fixed.tapName
  · subst isTap
    rw [get?_withSandbox_tap] at held
    exact Option.some.inj held ▸ tap
  by_cases isUplink : name = Uplink.name
  · subst isUplink
    rw [get?_withSandbox_uplink] at held
    exact Option.some.inj held ▸ uplink
  · rw [get?_withSandbox isUplink isTap] at held
    exact named.link_name held

theorem withSandbox_put_uplink (e' : LinkRecord) :
    (s.withSandbox e t rules on).put Uplink.name e' = s.withSandbox e' t rules on := by
  simp only [withSandbox, put, NameMap.insert_comm _ _ _ uplink_ne_tapName.symm,
    NameMap.insert_insert]

theorem withSandbox_put_tap (t' : LinkRecord) :
    (s.withSandbox e t rules on).put AddressPlan.fixed.tapName t' =
      s.withSandbox e t' rules on := by
  simp only [withSandbox, put, NameMap.insert_insert]

end Netns

/-- A queue count that is not too large stays one as a signed number. -/
theorem toInt32_nonneg {queues : UInt32} (small : queues < 0x80000000) : ¬ queues.toInt32 < 0 := by
  have bound : 2 * queues.toBitVec.toNat < 2 ^ 32 := by
    have below : queues.toNat < 0x80000000 := UInt32.lt_iff_toNat_lt.1 small
    exact Nat.lt_of_lt_of_eq (Nat.mul_lt_mul_of_pos_left below (by decide)) rfl
  have value : queues.toInt32.toInt = queues.toNat := BitVec.toInt_eq_toNat_of_lt bound
  rw [Int32.lt_iff_toInt_lt, value]
  exact Int.not_lt.2 (Int.natCast_nonneg _)

namespace Strategy

open Netns

variable {faulty : Prop} {s : Netns} {e : LinkRecord} {queues uid gid : UInt32}

/-- The device that a setup asks for. -/
def spec (queues mtu uid gid : UInt32) : TapSpec :=
  ⟨AddressPlan.fixed.tapName, max queues 1, some mtu, uid, gid⟩

/-- What a wiring that got past its device has made. -/
structure Wired (faulty : Prop) (s : Netns) (spec : TapSpec) (e : LinkRecord)
    (result : Except Error Link) (e' t' : LinkRecord) : Prop where
  uplink : Stage AddressPlan.fixed.tapName e e'
  tap : t'.link = (s.device spec).link
  done : ∀ link, result = .ok link → Mirrored AddressPlan.fixed.tapName e e' ∧
    t' = (s.addressed spec AddressPlan.fixed.tapAddr).joined Uplink.name
  sound : e.Clearable → ¬ faulty → ∃ link, result = .ok link

/-- How a wiring ends. -/
inductive Wiring (faulty : Prop) (s : Netns) (queues : UInt32) (spec : TapSpec) (e : LinkRecord) :
    Except Error Link → Netns → Prop where
  | unmade {error : Error}
      (unsound : s.links.get? AddressPlan.fixed.tapName = none → queues < 0x80000000 → faulty) :
      Wiring faulty s queues spec e (.error error) s
  | made {result : Except Error Link} {e' t' : LinkRecord}
      (fresh : s.links.get? AddressPlan.fixed.tapName = none)
      (wired : Wired faulty s spec e result e' t') :
      Wiring faulty s queues spec e result (s.withSandbox e' t' s.nat s.forwarding)

/-- How the creation of the device ends. -/
inductive Creation (faulty : Prop) (s : Netns) (e : LinkRecord) (queues : Int32) (spec : TapSpec) :
    Except Error Link → Netns → Prop where
  | unmade {error : Error}
      (unsound : s.links.get? AddressPlan.fixed.tapName = none → ¬ queues < 0 → faulty) :
      Creation faulty s e queues spec (.error error) s
  | down {error : Error} (fresh : s.links.get? AddressPlan.fixed.tapName = none) (fails : faulty) :
      Creation faulty s e queues spec (.error error)
        (s.withSandbox e (s.device spec) s.nat s.forwarding)
  | up (fresh : s.links.get? AddressPlan.fixed.tapName = none) :
      Creation faulty s e queues spec (.ok (s.device spec).link)
        (s.withSandbox e { s.device spec with up := true } s.nat s.forwarding)

theorem always_create {queues : Int32} {mtu : UInt32}
    (held : s.links.get? Uplink.name = some e) :
    (Tap.create AddressPlan.fixed.tapName queues (some mtu) uid gid).Always (Answers faulty) s
      (Creation faulty s e queues (spec queues.toUInt32 mtu uid gid)) := by
  rw [Tap.create, if_neg (by decide)]
  split
  · next negative => exact Always.fail (.unmade fun _ valid => absurd negative valid)
  cases fresh : s.links.get? AddressPlan.fixed.tapName with
  | some r =>
      apply Always.ask_bind
      · intro answer s' carried
        have taken : s.links.contains AddressPlan.fixed.tapName = true :=
          NameMap.contains_eq_true.2 ⟨r, fresh⟩
        simp only [perform, addTap, taken, if_true] at carried
        cases carried
      · intro error _
        exact .unmade fun free => by rw [fresh] at free; cases free
  | none =>
      apply Always.ask_bind_ok (perform_addTap fresh)
      · intro fails error
        exact .unmade fun _ _ => fails
      let device := s.device (spec queues.toUInt32 mtu uid gid)
      have made : s.withSandbox e device s.nat s.forwarding = { s with
          nextIndex := s.nextIndex + 1
          links := s.links.insert AddressPlan.fixed.tapName device } := by
        simp only [withSandbox, NameMap.insert_get? held]
      have found : (s.withSandbox e device s.nat s.forwarding).record? device.link = some device :=
        record?_of_get? get?_withSandbox_tap rfl
      refine made ▸ Always.ask_bind_ok (perform_setLinkUp found) ?_ (Always.note_bind (Always.pure
        ?_))
      · intro fails error
        exact .down fresh fails
      · have raised : (s.withSandbox e device s.nat s.forwarding).put AddressPlan.fixed.tapName
            { device with up := true } =
            s.withSandbox e { device with up := true } s.nat s.forwarding := withSandbox_put_tap _
        exact raised ▸ .up fresh

theorem Wired.stopped {spec : TapSpec} {e' t' : LinkRecord} {error : Error}
    (uplink : Stage AddressPlan.fixed.tapName e e') (tap : t'.link = (s.device spec).link)
    (unsound : e.Clearable → faulty) : Wired faulty s spec e (.error error) e' t' :=
  ⟨uplink, tap, nofun, fun clearable sound => absurd (unsound clearable) sound⟩

theorem addAddress_device (spec : TapSpec) (addr : Ipv4Net) :
    { s.device spec with up := true }.addAddress addr = .ok (s.addressed spec addr) := rfl

theorem wired_of_installation {spec : TapSpec} {result : Except Error Unit} {e' t' : LinkRecord}
    (h : Duplex.Installation faulty Uplink.name AddressPlan.fixed.tapName e
      (s.addressed spec AddressPlan.fixed.tapAddr) result e' t') :
    Wired faulty s spec e (result.map fun _ => (s.device spec).link) e' t' where
  uplink := h.physical
  tap := h.tap.link
  done := fun link ended => by
    cases result with
    | error error => cases ended
    | ok done =>
        obtain ⟨mirrored, t₁, cleared, _, rfl⟩ := h.done rfl
        -- A new device has nothing on it that a clearing could take away.
        exact ⟨mirrored, by rw [cleared.eq_self rfl rfl]⟩
  sound := fun clearable sound => by
    have free : (s.addressed spec AddressPlan.fixed.tapAddr).Clearable := ⟨.nil, nofun⟩
    rw [h.sound clearable free sound]
    exact ⟨_, rfl⟩

/-- What a wiring does with a device that is up. -/
theorem always_join {mtu : UInt32} (named : e.link.name = Uplink.name)
    (fresh : s.links.get? AddressPlan.fixed.tapName = none) :
    let tap := (s.device (spec queues mtu uid gid)).link
    (do
      ask (.addAddress tap AddressPlan.fixed.tapAddr)
      note .debug "Assigned TAP address"
        [("tap", .shown tap.name), ("addr", .shown AddressPlan.fixed.tapAddr.text)]
      Duplex.install e.link tap
      return tap : Program Link).Always (Answers faulty)
        (s.withSandbox e { s.device (spec queues mtu uid gid) with up := true } s.nat s.forwarding)
        (Wiring faulty s queues (spec queues mtu uid gid) e) := by
  intro tap
  let ready := s.addressed (spec queues mtu uid gid) AddressPlan.fixed.tapAddr
  have found : ∀ t : LinkRecord, t.link = tap →
      (s.withSandbox e t s.nat s.forwarding).record? tap = some t := fun t same =>
    same ▸ record?_of_get? get?_withSandbox_tap (congrArg Link.name same)
  have performs := perform_addAddress (found { s.device (spec queues mtu uid gid) with up := true } rfl)
    AddressPlan.fixed.tapAddr
  rw [addAddress_device] at performs
  have stored : ∀ e t t', (s.withSandbox e t s.nat s.forwarding).put tap.name t' =
      s.withSandbox e t' s.nat s.forwarding := fun e t t' => withSandbox_put_tap t'
  refine Always.ask_bind_ok performs ?_ (Always.note_bind ?_)
  · intro fails error
    exact .made fresh (.stopped (.clearing (.refl e)) rfl fun _ => fails)
  rw [stored]
  have foundE : (s.withSandbox e ready s.nat s.forwarding).record? e.link = some e :=
    record?_of_get? get?_withSandbox_uplink named
  have different : e.link.name ≠ tap.name := named ▸ uplink_ne_tapName
  apply Always.bind (Duplex.always_install different foundE (found ready rfl))
  · rintro value _ ⟨e', t', rfl, installation⟩
    rw [named] at installation ⊢
    rw [withSandbox_put_uplink, stored]
    exact .made fresh (wired_of_installation installation)
  · rintro error _ ⟨e', t', rfl, installation⟩
    rw [named] at installation ⊢
    rw [withSandbox_put_uplink, stored]
    exact .made fresh (wired_of_installation installation)

/-- What `wire` does between the physical link and the new device. -/
theorem always_wire (held : s.links.get? Uplink.name = some e) (named : e.link.name = Uplink.name) :
    (wire AddressPlan.fixed queues e.link uid gid).Always (Answers faulty) s
      (Wiring faulty s queues (spec queues e.link.mtu uid gid) e) := by
  rw [wire]
  split
  · next large =>
      exact Always.fail (.unmade fun _ small => absurd small (UInt32.not_lt.2 large))
  have tapDown : ∀ error, faulty → Wired faulty s (spec queues e.link.mtu uid gid) e (.error error) e
      (s.device (spec queues e.link.mtu uid gid)) := fun error fails =>
    .stopped (.clearing (.refl e)) rfl fun _ => fails
  apply Always.bind (always_create held)
  · intro tap s' created
    cases created with
    | up fresh => exact always_join named fresh
  · intro error s' ended
    cases ended with
    | unmade unsound => exact .unmade fun fresh small => unsound fresh (toInt32_nonneg small)
    | down fresh fails => exact .made fresh (tapDown error fails)

end Strategy

end SandboxNet
