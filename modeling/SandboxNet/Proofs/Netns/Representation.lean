import Mathlib.Data.List.Nodup
import SandboxNet.Proofs.Netns.Handles
import SandboxNet.Proofs.Netns.Record

/-! # What the records of a namespace keep to

A namespace gets its links from two events, and no call undoes what a link was made with. Each link
stays under its own name, its handles and its addresses stay distinct, and no two links have the same
index. What a new record has, and every change of a record keeps, holds of all records after any run.
-/

namespace SandboxNet

namespace LinkRecord

/-- The records that links start with, each with the name that it is stored under. -/
inductive New : String → LinkRecord → Prop where
  | inserted (index : UInt32) (name : String) (mtu : UInt32) (addrs : LinkAddrs) :
      New name ⟨⟨index, name, mtu⟩, true, none, addrs, [], [], []⟩
  | device (s : Netns) (spec : TapSpec) : New spec.name (s.device spec)

/-- A record whose handles and extra addresses are distinct, that reports an address once it has an
extra one, and that is what its TAP device was asked to be. -/
structure Sound (r : LinkRecord) : Prop where
  handles : (r.qdiscs.map (·.handle)).Nodup
  addresses : r.extraAddrs.Nodup
  addressed : r.extraAddrs ≠ [] → r.addrs.ipv4.isSome = true
  device : ∀ spec, r.tap = some spec → spec.name = r.link.name ∧ r.link.mtu = spec.mtu.getD 1500

namespace Sound

variable {r r' : LinkRecord} {name : String}

theorem of_new (new : New name r) : r.Sound := by
  cases new with
  | inserted => exact ⟨.nil, .nil, nofun, nofun⟩
  | device s spec =>
      refine ⟨.nil, .nil, nofun, fun asked same => ?_⟩
      obtain rfl : spec = asked := Option.some.inj same
      exact ⟨rfl, rfl⟩

theorem addAddress {addr : Ipv4Net} (sound : r.Sound) (h : r.addAddress addr = .ok r') :
    r'.Sound := by
  obtain ⟨fresh, rfl⟩ := addAddress_ok h
  refine ⟨sound.handles, ?_, fun _ => ?_, sound.device⟩
  · apply List.nodup_append.2
    refine ⟨sound.addresses, List.nodup_singleton addr, fun old held new added => ?_⟩
    rw [List.mem_singleton.1 added]
    exact fun same => fresh (same ▸ held)
  · show (if r.addrs.ipv4.isNone = true then _ else r.addrs).ipv4.isSome = true
    split
    · rfl
    · next reported => simpa [Option.isSome_iff_ne_none] using reported

theorem addQdisc {q : Tc.Qdisc} (sound : r.Sound) (h : r.addQdisc q = .ok r') : r'.Sound := by
  obtain ⟨free, rfl⟩ := addQdisc_ok h
  refine ⟨?_, sound.addresses, sound.addressed, sound.device⟩
  show ((r.qdiscs ++ [q]).map (·.handle)).Nodup
  rw [List.map_append]
  apply List.nodup_append.2
  refine ⟨sound.handles, List.nodup_singleton q.handle, fun taken held new added => ?_⟩
  obtain ⟨p, member, rfl⟩ := List.mem_map.1 held
  rw [List.mem_singleton.1 added]
  exact free p member

theorem shorn (sound : r.Sound) (h : Shorn r r') : r'.Sound := by
  rw [h.rest]
  exact ⟨(h.qdiscs.map _).nodup sound.handles, sound.addresses, sound.addressed, sound.device⟩

theorem step {s : Netns} {link : Link} {request : Call} (sound : r.Sound)
    (h : Netns.LinkStep s link r request r') : r'.Sound := by
  cases h with
  | setLinkUp | delFilter =>
      exact ⟨sound.handles, sound.addresses, sound.addressed, sound.device⟩
  | addAddress h => exact sound.addAddress h
  | addQdisc h => exact sound.addQdisc h
  | delQdisc h => exact sound.shorn (shorn_delQdisc h)
  | addFilter _ h =>
      obtain ⟨-, rfl⟩ := addFilter_ok h
      exact ⟨sound.handles, sound.addresses, sound.addressed, sound.device⟩

theorem eq_of_handle {p q : Tc.Qdisc} (sound : r.Sound) (first : p ∈ r.qdiscs)
    (second : q ∈ r.qdiscs) (same : p.handle = q.handle) : p = q :=
  List.inj_on_of_nodup_map sound.handles first second same

end Sound

end LinkRecord

namespace Netns

variable {s s' : Netns} {name : String} {r : LinkRecord} {n : Nat}
  {P : String → LinkRecord → Prop}

/-- What holds of every record, and of the name that it is stored under. -/
def Records (P : String → LinkRecord → Prop) (s : Netns) : Prop :=
  ∀ name r, s.links.get? name = some r → P name r

namespace Records

theorem insert (records : s.Records P) (h : P name r) (links : s'.links = s.links.insert name r) :
    s'.Records P := by
  intro other stored held
  rw [links, NameMap.get?_insert] at held
  split at held
  · next same =>
      cases held
      exact same ▸ h
  · exact records other stored held

theorem step {request : Call} (records : s.Records P) (h : Step s request s')
    (new : ∀ {name r}, LinkRecord.New name r → P name r)
    (kept : ∀ {link r r'}, s.record? link = some r → LinkStep s link r request r' →
      P link.name r → P link.name r') : s'.Records P := by
  cases h with
  | read | appendNatRule | deleteNatRule | setIpv4Forwarding => exact records
  | @addTap spec => exact records.insert (new (.device s spec)) rfl
  | @onLink _ link r r' found change =>
      exact records.insert (kept found change (records _ r (get?_of_record? found))) rfl
  | deleteLink =>
      intro name stored held
      rw [NameMap.get?_erase] at held
      split at held
      · cases held
      · exact records name stored held

theorem of_start {start : Netns} (known : start ∈ [empty, loopback, withEth0])
    (new : ∀ {name r}, LinkRecord.New name r → P name r) : start.Records P := by
  have none : empty.Records P := nofun
  have lo : loopback.Records P := none.insert (new (.inserted _ _ _ _)) rfl
  simp only [List.mem_cons, List.not_mem_nil, or_false] at known
  obtain rfl | rfl | rfl := known
  · exact none
  · exact lo
  · exact lo.insert (new (.inserted _ _ _ _)) rfl

theorem after (records : s.Records P) (new : ∀ {name r}, LinkRecord.New name r → P name r)
    (kept : ∀ {s link r request r'}, LinkStep s link r request r' →
      P link.name r → P link.name r') (events : List Event) : (s.after events).Records P := by
  induction events generalizing s with
  | nil => exact records
  | cons event rest ih =>
      apply ih
      cases event with
      | arm failure => exact records
      | insert name mtu addrs => exact records.insert (new (.inserted _ _ _ _)) rfl
      | call request =>
          obtain step | ⟨failure, armed⟩ := step_or_failed request s
          · exact records.step step new fun _ change => kept change
          · simp only [Event.next, armed]
            exact records

end Records

/-- A sound record that is stored under its own name. -/
def Filed (name : String) (r : LinkRecord) : Prop := r.link.name = name ∧ r.Sound

theorem filed_after {start : Netns} (known : start ∈ [empty, loopback, withEth0])
    (events : List Event) : (start.after events).Records Filed := by
  have new : ∀ {name r}, LinkRecord.New name r → Filed name r := fun fresh =>
    ⟨by cases fresh <;> rfl, .of_new fresh⟩
  refine (Records.of_start known new).after new ?_ events
  intro s link r request r' change filed
  exact ⟨by rw [change.link, filed.1], filed.2.step change⟩

/-- A numbered namespace whose links all have an index of their own. -/
structure Indexed (n : Nat) (s : Netns) : Prop extends Numbered n s where
  index_pos : ∀ name r, s.links.get? name = some r → 0 < r.link.index.toNat
  distinct : ∀ name other r r', s.links.get? name = some r → s.links.get? other = some r' →
    r.link.index = r'.link.index → name = other

namespace Indexed

theorem step {k : Nat} (indexed : Indexed n s) (turnover : Turnover s k s')
    (few : n + k < 0x100000000) : Indexed (n + k) s' := by
  have numbered := indexed.toNumbered.step turnover few
  cases turnover with
  | @creates _ _ new index nextIndex links =>
      have fresh := indexed.fresh few
      -- the index of a new link is above those of all others
      have above : ∀ name r, s.links.get? name = some r → r.link.index ≠ new.link.index := by
        intro name r held same
        have old := indexed.index_le name r held
        rw [same, index] at old
        omega
      refine ⟨numbered, ?_, ?_⟩
      · intro name r held
        rw [links, NameMap.get?_insert] at held
        split at held
        · cases held
          rw [index]
          omega
        · exact indexed.index_pos name r held
      · intro name other r r' held held' same
        rw [links, NameMap.get?_insert] at held held'
        split at held <;> split at held'
        · next first second => exact first.trans second.symm
        · cases held
          exact absurd same.symm (above other r' held')
        · cases held'
          exact absurd same (above name r held)
        · exact indexed.distinct name other r r' held held' same
  | keeps nextIndex older =>
      refine ⟨numbered, ?_, ?_⟩
      · intro name stored held
        obtain ⟨r, before, index⟩ := older name stored held
        rw [index]
        exact indexed.index_pos name r before
      · intro name other stored stored' held held' same
        obtain ⟨r, before, index⟩ := older name stored held
        obtain ⟨r', before', index'⟩ := older other stored' held'
        exact indexed.distinct name other r r' before before' (by rw [← index, same, index'])

theorem of_start {start : Netns} (known : start ∈ [empty, loopback, withEth0]) :
    Indexed start.links.entries.length start := by
  have none : Indexed 0 empty := ⟨numbered_empty, nofun, fun _ _ _ _ held => nomatch held⟩
  have lo : Indexed 1 loopback := none.step (turnover empty (.insert "lo" 65536 _)) (by decide)
  have both := lo.step (turnover loopback (.insert "eth0" 1500
    ⟨some ⟨#v[0x02, 0x42, 0xac, 0x11, 0x00, 0x02]⟩, some ⟨172, 17, 0, 2⟩, some ⟨255, 255, 0, 0⟩⟩))
    (by decide)
  simp only [List.mem_cons, List.not_mem_nil, or_false] at known
  obtain rfl | rfl | rfl := known
  · exact none
  · exact lo
  · exact ⟨numbered_withEth0, both.index_pos, both.distinct⟩

end Indexed

/-- A namespace as the events make it. -/
structure WellFormed (s : Netns) : Prop where
  named : s.Named
  distinct : ∀ name other r r', s.links.get? name = some r → s.links.get? other = some r' →
    r.link.index = r'.link.index → name = other
  numbered : ∀ name r, s.links.get? name = some r → 1 ≤ r.link.index ∧ r.link.index ≤ s.nextIndex
  sound : ∀ name r, s.links.get? name = some r → r.Sound

theorem wellFormed_after {start : Netns} (known : start ∈ [empty, loopback, withEth0])
    (events : List Event)
    (few : start.links.entries.length + start.created events < 0x100000000) :
    (start.after events).WellFormed := by
  have filed := filed_after known events
  have indexed := after_of_turnover Indexed.step (Indexed.of_start known) events few
  refine ⟨named_iff.2 fun name r held => (filed name r held).1, indexed.distinct, ?_, ?_⟩
  · intro name r held
    rw [UInt32.le_iff_toNat_le, UInt32.le_iff_toNat_le, indexed.nextIndex]
    exact ⟨indexed.index_pos name r held, indexed.index_le name r held⟩
  · exact fun name r held => (filed name r held).2

/-- A device gets an address and a queueing discipline, is deleted with its failure armed and again
without it, and is made anew over a replaced uplink. -/
theorem wellFormed_after_turnover :
    let l : Link := ⟨3, "tap0_urunc", 1500⟩
    let create : Event := .call (.addTap ⟨"tap0_urunc", 1, none, 1000, 1000⟩)
    let events : List Event := [create, .call (.addAddress l ⟨⟨172, 16, 1, 1⟩, ⟨24, by decide⟩⟩),
      .call (.addQdisc l Tc.Qdisc.ingress), .arm "delete_link", .call (.deleteLink l),
      .call (.deleteLink l), .insert "eth0" 9000 LinkAddrs.none, create]
    let s := withEth0.after events
    withEth0 ∈ [empty, loopback, withEth0] ∧
      withEth0.links.entries.length + withEth0.created events < 0x100000000 ∧
      s.links.entries.map (fun entry => entry.2.link.index) = [4, 1, 5] ∧ s.WellFormed := by
  intro l create events s
  have few : withEth0.links.entries.length + withEth0.created events < 0x100000000 := by decide
  exact ⟨by simp, few, by decide, wellFormed_after (by simp) events few⟩

end Netns

end SandboxNet
