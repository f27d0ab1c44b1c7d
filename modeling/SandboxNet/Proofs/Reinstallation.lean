import SandboxNet.Proofs.Clearing

/-! # Installing over what is there

An installation replaces the ingress filters and the queueing disciplines of both links, and a second
one finds nothing to replace but what the first one made.
-/

namespace SandboxNet

open Tc

namespace LinkRecord

variable {r r' : LinkRecord} {target : String}

/-- A link that an installation takes over whatever state it is in. -/
structure Replaceable (r : LinkRecord) : Prop where
  distinct : r.removable.Nodup
  lower : ∀ q ∈ r.qdiscs, q.isTopLevel = false →
    q.handle ≠ Handle.ingress ∧ q.parent.major ≠ Handle.ingress.major

instance (r : LinkRecord) : Decidable r.Replaceable :=
  decidable_of_iff (r.removable.Nodup ∧ ∀ q ∈ r.qdiscs, q.isTopLevel = false →
      q.handle ≠ Handle.ingress ∧ q.parent.major ≠ Handle.ingress.major)
    ⟨fun h => ⟨h.1, h.2⟩, fun h => ⟨h.1, h.2⟩⟩

/-- A link that redirects to `target` and has lost what it had instead. -/
structure Replaced (target : String) (r r' : LinkRecord) : Prop where
  rest : r' = { r with qdiscs := r'.qdiscs, filters := r'.filters }
  qdiscs : r'.qdiscs = r.spared ++ [Qdisc.ingress]
  ingressFilters : r'.ingressFilters = [Filter.redirect target]
  otherFilters : r'.otherFilters = r.otherFilters

namespace Replaceable

variable (replaceable : r.Replaceable)

include replaceable

theorem clearable : r.Clearable where
  distinct := replaceable.distinct
  free := by
    intro q member handle
    cases top : q.isTopLevel with
    | true => rfl
    | false => exact absurd handle (replaceable.lower q member top).1

theorem clear : ∀ q ∈ r.qdiscs, q.hangsBelow Handle.ingress.major = false := by
  intro q member
  apply Bool.eq_false_iff.2
  intro hangs
  obtain ⟨lower, parent⟩ := Qdisc.hangsBelow_iff.1 hangs
  exact (replaceable.lower q member lower).2 parent

end Replaceable

/-- What is joined after a clearing can be cleared and joined again. -/
theorem Cleared.clearable_joined {r₁ : LinkRecord} (h : Cleared r r₁)
    (free : ∀ q ∈ r₁.qdiscs, q.handle ≠ Handle.ingress) : (r₁.joined target).Clearable where
  distinct := by
    have listed : (r₁.joined target).removable = r₁.removable ++ [Qdisc.ingress] :=
      List.filter_append ..
    rw [listed, h.removable_eq]
    exact List.pairwise_singleton ..
  free := by
    intro q member handle
    rcases List.mem_append.1 member with held | added
    · exact absurd handle (free q held)
    · rw [List.mem_singleton.1 added]
      rfl

namespace Mirrored

variable (h : Mirrored target r r')

include h

theorem replaced : Replaced target r r' := by
  obtain ⟨r₁, cleared, -, rfl⟩ := h
  have rest := cleared.eq
  refine ⟨?_, ?_, ?_, ?_⟩
  · rw [rest]
    rfl
  · rw [rest]
    rfl
  · rw [ingressFilters_joined, cleared.ingressFilters_eq]
    rfl
  · rw [otherFilters_joined, cleared.shorn.other]

theorem clearable : r'.Clearable := by
  obtain ⟨r₁, cleared, free, rfl⟩ := h
  exact cleared.clearable_joined free

/-- Joining again makes no difference. -/
theorem again {r'' : LinkRecord} (clear : ∀ q ∈ r.qdiscs, q.hangsBelow Handle.ingress.major = false)
    (second : Mirrored target r' r'') : r'' = r' := by
  obtain ⟨r₁, cleared, -, rfl⟩ := h
  obtain ⟨r₂, clearedAgain, -, rfl⟩ := second
  have below : ∀ q ∈ r₁.qdiscs, q.hangsBelow Handle.ingress.major = false :=
    fun q member => clear q (cleared.shorn.qdiscs.subset member)
  rw [clearedAgain.joined cleared.ingressFilters_eq cleared.removable_eq below]

end Mirrored

end LinkRecord

namespace Duplex

open Program LinkRecord Netns

variable {s : Netns} {physical tap : Link} {e t : LinkRecord}

/-- An installation on clearable links, with no failing call. -/
theorem install_mirrored (calm : s.Unarmed) (different : physical.name ≠ tap.name)
    (foundE : s.record? physical = some e) (foundT : s.record? tap = some t)
    (clearE : e.Clearable) (clearT : t.Clearable) :
    let installation := (install physical tap).run kernel s
    installation.result = .ok () ∧ installation.state.Unarmed ∧ ∃ e' t',
      installation.state = (s.put physical.name e').put tap.name t' ∧
        Mirrored tap.name e e' ∧ Mirrored physical.name t t' := by
  intro installation
  obtain ⟨⟨e', t', left, ended⟩, quiet⟩ :=
    (always_install different foundE foundT).run_unarmed calm
  have ok : installation.result = .ok () := ended.sound clearE clearT id
  exact ⟨ok, quiet, e', t', left, ended.done ok⟩

theorem install_replaces (calm : s.Unarmed) (different : physical.name ≠ tap.name)
    (foundE : s.record? physical = some e) (foundT : s.record? tap = some t)
    (overE : e.Replaceable) (overT : t.Replaceable) :
    let first := (install physical tap).run kernel s
    let second := (install physical tap).run kernel first.state
    first.result = .ok () ∧
      (∃ e' t', first.state = (s.put physical.name e').put tap.name t' ∧
        Replaced tap.name e e' ∧ Replaced physical.name t t') ∧
      second.result = .ok () ∧ second.state = first.state := by
  intro first second
  obtain ⟨ok, quiet, e', t', left, mirroredE, mirroredT⟩ :=
    install_mirrored calm different foundE foundT overE.clearable overT.clearable
  refine ⟨ok, ⟨e', t', left, mirroredE.replaced, mirroredT.replaced⟩, ?_⟩
  have sameE : e'.link = e.link := by rw [mirroredE.replaced.rest]
  have sameT : t'.link = t.link := by rw [mirroredT.replaced.rest]
  have foundE' : first.state.record? physical = some e' := by
    rw [left, record?_put_of_ne different]
    exact record?_put foundE sameE
  have foundT' : first.state.record? tap = some t' := by
    rw [left]
    exact record?_put (by rw [record?_put_of_ne different.symm, foundT]) sameT
  obtain ⟨again, -, e'', t'', settled, secondE, secondT⟩ :=
    install_mirrored quiet different foundE' foundT' mirroredE.clearable mirroredT.clearable
  refine ⟨again, settled.trans ?_⟩
  rw [mirroredE.again overE.clear secondE, mirroredT.again overT.clear secondT,
    put_get? (get?_of_record? foundE'), put_get? (get?_of_record? foundT')]

/-- An installation over a shaping tree, a leaf of another tree, a stale ingress point with two filters
of one priority, and a filter that hangs off the tree. -/
theorem install_replaces_shaped :
    let e : LinkRecord := ⟨⟨2, "eth0", 1500⟩, true, none, LinkAddrs.none, [],
      [⟨"mq", Handle.unspecified, Handle.root⟩, ⟨"htb", ⟨1, 0⟩, Handle.root⟩,
        ⟨"sfq", ⟨0x10, 0⟩, ⟨1, 1⟩⟩, ⟨"sfq", ⟨0x20, 0⟩, ⟨2, 1⟩⟩, Qdisc.ingress],
      [Filter.redirect "tap1_urunc", ⟨Handle.ingress, 1, "ip", none⟩, ⟨⟨1, 0⟩, 1, "all", none⟩]⟩
    let t : LinkRecord := ⟨⟨3, "tap0_urunc", 1500⟩, true, none, LinkAddrs.none, [], [], []⟩
    let s := (withEth0.put "eth0" e).put "tap0_urunc" t
    let first := (install e.link t.link).run kernel s
    let second := (install e.link t.link).run kernel first.state
    s.Unarmed ∧ e.link.name ≠ t.link.name ∧ s.record? e.link = some e ∧ s.record? t.link = some t ∧
      e.Replaceable ∧ t.Replaceable ∧
      first.result = .ok () ∧
      (∃ e' t', first.state = (s.put e.link.name e').put t.link.name t' ∧
        Replaced t.link.name e e' ∧ Replaced e.link.name t t') ∧
      second.result = .ok () ∧ second.state = first.state := by
  intro e t s first second
  have calm : s.Unarmed := unarmed_of_failNext rfl
  have different : e.link.name ≠ t.link.name := by decide
  have foundE : s.record? e.link = some e := by
    refine record?_eq_some.2 ⟨?_, rfl⟩
    exact (NameMap.get?_insert_of_ne _ t different).trans (NameMap.get?_insert_self _ _ e)
  have foundT : s.record? t.link = some t :=
    record?_eq_some.2 ⟨NameMap.get?_insert_self _ _ t, rfl⟩
  have overE : e.Replaceable := by decide
  have overT : t.Replaceable := by decide
  exact ⟨calm, different, foundE, foundT, overE, overT,
    install_replaces calm different foundE foundT overE overT⟩

end Duplex

end SandboxNet
