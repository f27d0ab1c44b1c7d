import SandboxNet.Proofs.NameMap
import SandboxNet.Proofs.Netns.Answers

/-! # What a call does to a link that is there

A call on a resolved link changes the record of that link and nothing else. `Netns.put` is such a
change, and each call is an equation about the record.
-/

namespace SandboxNet.Netns

variable {s : Netns} {link : Link} {r : LinkRecord} {name : String}

/-- Every link is stored under its own name. -/
def Named (s : Netns) : Prop := ∀ entry ∈ s.links.entries, entry.2.link.name = entry.1

instance (s : Netns) : Decidable s.Named :=
  inferInstanceAs (Decidable (∀ entry ∈ s.links.entries, entry.2.link.name = entry.1))

theorem Named.link_name (named : s.Named) (held : s.links.get? name = some r) :
    r.link.name = name :=
  named (name, r) (NameMap.mem_of_get? held)

theorem named_iff : s.Named ↔ ∀ name r, s.links.get? name = some r → r.link.name = name :=
  ⟨fun named _ _ held => named.link_name held,
    fun named entry member => named entry.1 entry.2 (NameMap.get?_of_mem member)⟩

/-- A namespace with another record under a name. -/
def put (s : Netns) (name : String) (r : LinkRecord) : Netns :=
  { s with links := s.links.insert name r }

@[simp] theorem put_links (s : Netns) (name : String) (r : LinkRecord) :
    (s.put name r).links = s.links.insert name r := rfl

@[simp] theorem put_nat (s : Netns) (name : String) (r : LinkRecord) : (s.put name r).nat = s.nat :=
  rfl

@[simp] theorem put_put (s : Netns) (name : String) (first second : LinkRecord) :
    (s.put name first).put name second = s.put name second := by
  simp only [put, NameMap.insert_insert]

theorem put_comm (s : Netns) {name other : String} (first second : LinkRecord)
    (different : name ≠ other) :
    (s.put name first).put other second = (s.put other second).put name first := by
  simp only [put, NameMap.insert_comm _ _ _ different]

theorem put_get? (h : s.links.get? name = some r) : s.put name r = s := by
  simp only [put, NameMap.insert_get? h]

theorem record?_eq_some : s.record? link = some r ↔
    s.links.get? link.name = some r ∧ r.link.index = link.index := by
  simp [record?, Option.filter_eq_some_iff]

theorem get?_of_record? (found : s.record? link = some r) : s.links.get? link.name = some r :=
  (record?_eq_some.1 found).1

/-- A record under the name that it says is resolved by its own link. -/
theorem record?_of_get? (held : s.links.get? name = some r) (named : r.link.name = name) :
    s.record? r.link = some r :=
  record?_eq_some.2 ⟨named ▸ held, rfl⟩

theorem record?_put {r' : LinkRecord} (found : s.record? link = some r)
    (same : r'.link = r.link) : (s.put link.name r').record? link = some r' := by
  refine record?_eq_some.2 ⟨NameMap.get?_insert_self _ _ _, ?_⟩
  rw [same]
  exact (record?_eq_some.1 found).2

theorem record?_put_of_ne {r' : LinkRecord} (different : link.name ≠ name) :
    (s.put name r').record? link = s.record? link := by
  simp only [record?, put_links, NameMap.get?_insert_of_ne _ _ different]

theorem resolve_of_record? (found : s.record? link = some r) : s.resolve link = .ok r := by
  simp only [resolve, found]

theorem onLink_of_record? (found : s.record? link = some r)
    (change : LinkRecord → Except Error LinkRecord) :
    s.onLink link change = (change r).map fun r' => ((), s.put link.name r') := by
  rw [onLink, resolve_of_record? found]
  show (change r >>= _) = _
  cases change r <;> rfl

section

variable (found : s.record? link = some r)

include found

theorem perform_setLinkUp : s.perform (.setLinkUp link) = .ok ((), s.put link.name { r with up := true }) :=
  onLink_of_record? found _

theorem perform_addAddress (addr : Ipv4Net) : s.perform (.addAddress link addr) =
    (r.addAddress addr).map fun r' => ((), s.put link.name r') :=
  onLink_of_record? found _

theorem perform_qdiscs : s.perform (.qdiscs link) = .ok (r.qdiscs, s) := by
  rw [perform, resolve_of_record? found]
  rfl

theorem perform_filters (parent : Tc.Handle) :
    s.perform (.filters link parent) = .ok (r.filters.filter (·.parent == parent), s) := by
  rw [perform, resolve_of_record? found]
  rfl

theorem perform_addQdisc (q : Tc.Qdisc) : s.perform (.addQdisc link q) =
    (r.addQdisc q).map fun r' => ((), s.put link.name r') :=
  onLink_of_record? found _

theorem perform_delQdisc (q : Tc.Qdisc) : s.perform (.delQdisc link q) =
    (r.delQdisc q).map fun r' => ((), s.put link.name r') :=
  onLink_of_record? found _

theorem perform_delFilter (f : Tc.Filter) :
    s.perform (.delFilter link f) = .ok ((), s.put link.name (r.delFilter f)) :=
  onLink_of_record? found _

theorem perform_redirect {target : String} (present : s.links.contains target = true) :
    s.perform (.addFilter link (Tc.Filter.redirect target)) =
      (r.addFilter (Tc.Filter.redirect target)).map fun r' => ((), s.put link.name r') := by
  have none : (some target).filter (!s.links.contains ·) = none := by simp [present]
  simp only [perform, Tc.Filter.redirectTo_redirect, none]
  exact onLink_of_record? found _

theorem perform_deleteLink : s.perform (.deleteLink link) =
    .ok ((), { s with links := s.links.erase link.name }) := by
  rw [perform, resolve_of_record? found]
  rfl

end

theorem perform_linkByName (held : s.links.get? name = some r) :
    s.perform (.linkByName name) = .ok (r.link, s) := by
  simp only [perform, held]

theorem linkNotFound_of_linkByName {e : Error} (refused : s.perform (.linkByName name) = .error e) :
    e = .linkNotFound name := by
  simp only [perform] at refused
  split at refused <;> cases refused
  rfl

theorem linkNotFound_of_deleteLink {e : Error} (refused : s.perform (.deleteLink link) = .error e) :
    e = .linkNotFound link.name := by
  simp only [perform, resolve] at refused
  split at refused <;> cases refused
  rfl

theorem perform_linkAddrs (held : s.links.get? name = some r) :
    s.perform (.linkAddrs name) = .ok (r.addrs, s) := by
  simp only [perform, held]

/-- A call that is no change leaves the namespace as it is. -/
theorem eq_of_perform {request : Call} {s' : Netns} {answer : request.Answer}
    (reads : request.kind.isChange = false) (h : s.perform request = .ok (answer, s')) : s' = s := by
  cases request with
  | linkNames | natRuleExists | ipv4Forwarding | routes =>
      cases h
      rfl
  | linkByName name | linkAddrs name =>
      simp only [perform] at h
      split at h
      · cases h
        rfl
      · cases h
  | qdiscs link | filters link =>
      simp only [perform] at h
      cases found : s.resolve link with
      | ok r =>
          rw [found] at h
          cases h
          rfl
      | error e =>
          rw [found] at h
          cases h
  | addTap | setLinkUp | addAddress | deleteLink | addQdisc | delQdisc | addFilter | delFilter
  | appendNatRule | deleteNatRule | setIpv4Forwarding => cases reads

theorem onLink_ok {change : LinkRecord → Except Error LinkRecord} {done : Unit} {s' : Netns}
    (h : s.onLink link change = .ok (done, s')) :
    ∃ r r', s.record? link = some r ∧ change r = .ok r' ∧ s' = s.put link.name r' := by
  cases found : s.record? link with
  | none =>
      simp only [onLink, resolve, found] at h
      cases h
  | some r =>
      rw [onLink_of_record? found] at h
      cases changed : change r with
      | error e =>
          rw [changed] at h
          cases h
      | ok r' =>
          rw [changed] at h
          cases h
          exact ⟨r, r', rfl, changed, rfl⟩

theorem contains_put (present : s.links.contains name = true) (other : String) (r : LinkRecord) :
    (s.put other r).links.contains name = true := by
  obtain ⟨held, found⟩ := NameMap.contains_eq_true.1 present
  rw [NameMap.contains_eq_true, put_links, NameMap.get?_insert]
  split
  · exact ⟨r, rfl⟩
  · exact ⟨held, found⟩

/-- The next index is one more, unless the word runs over. -/
theorem toNat_succ {index : UInt32} (room : index.toNat + 1 < 0x100000000) :
    (index + 1).toNat = index.toNat + 1 := by
  rw [UInt32.toNat_add]
  exact Nat.mod_eq_of_lt room

theorem toNat_nextIndex (room : s.nextIndex < 0xffffffff) :
    (s.nextIndex + 1).toNat = s.nextIndex.toNat + 1 :=
  toNat_succ (Nat.succ_lt_succ (UInt32.lt_iff_toNat_lt.1 room))

theorem addTap_ok {spec : TapSpec} {tap : Link} {s' : Netns} (h : s.addTap spec = .ok (tap, s')) :
    s.links.contains spec.name = false ∧ s' = { s with
      nextIndex := s.nextIndex + 1
      links := s.links.insert spec.name (s.device spec) } := by
  simp only [addTap] at h
  split at h
  · cases h
  · next free =>
      cases h
      exact ⟨Bool.eq_false_iff.2 free, rfl⟩

end SandboxNet.Netns
