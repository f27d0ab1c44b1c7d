import SandboxNet.NameMap

/-! # Looking names up

A table is its lookups: two tables that answer every name alike are equal. What the changes of a
table do is therefore said once, lookup by lookup, and equations between tables follow.
-/

namespace SandboxNet.NameMap

variable {α : Type}

theorem lookup_cons_eq_ite (name other : String) (value : α) (rest : List (String × α)) :
    ((name, value) :: rest).lookup other = if other = name then some value else rest.lookup other := by
  by_cases h : other = name
  · simp [h]
  · rw [List.lookup_cons, if_neg h, beq_false_of_ne h]

theorem lookup_insertEntry (name other : String) (value : α) (entries : List (String × α)) :
    (insertEntry name value entries).lookup other =
      if other = name then some value else entries.lookup other := by
  induction entries with
  | nil => exact lookup_cons_eq_ite name other value []
  | cons entry rest ih =>
      obtain ⟨key, old⟩ := entry
      simp only [insertEntry]
      split
      · exact lookup_cons_eq_ite name other value _
      · split
        · next same =>
            subst same
            simp only [lookup_cons_eq_ite]
            split <;> rfl
        · next different =>
            simp only [lookup_cons_eq_ite, ih]
            by_cases h : other = key
            · rw [if_pos h, if_pos h, if_neg (h ▸ Ne.symm different)]
            · rw [if_neg h, if_neg h]

theorem get?_insert (m : NameMap α) (name other : String) (value : α) :
    (m.insert name value).get? other = if other = name then some value else m.get? other :=
  lookup_insertEntry name other value m.entries

@[simp] theorem get?_insert_self (m : NameMap α) (name : String) (value : α) :
    (m.insert name value).get? name = some value := by
  rw [get?_insert, if_pos rfl]

theorem get?_insert_of_ne (m : NameMap α) {name other : String} (value : α) (h : other ≠ name) :
    (m.insert name value).get? other = m.get? other := by
  rw [get?_insert, if_neg h]

theorem lookup_filter_ne (name other : String) (entries : List (String × α)) :
    (entries.filter (·.1 ≠ name)).lookup other =
      if other = name then none else entries.lookup other := by
  induction entries with
  | nil => simp
  | cons entry rest ih =>
      obtain ⟨key, value⟩ := entry
      by_cases removed : key = name
      · subst removed
        rw [List.filter_cons_of_neg (by simp), ih, lookup_cons_eq_ite]
        split <;> rfl
      · rw [List.filter_cons_of_pos (by simpa using removed), lookup_cons_eq_ite, ih,
          lookup_cons_eq_ite]
        by_cases h : other = key
        · rw [if_pos h, if_pos h, if_neg (h ▸ removed)]
        · rw [if_neg h, if_neg h]

theorem get?_erase (m : NameMap α) (name other : String) :
    (m.erase name).get? other = if other = name then none else m.get? other :=
  lookup_filter_ne name other m.entries

@[simp] theorem get?_erase_self (m : NameMap α) (name : String) :
    (m.erase name).get? name = none := by
  rw [get?_erase, if_pos rfl]

theorem get?_erase_of_ne (m : NameMap α) {name other : String} (h : other ≠ name) :
    (m.erase name).get? other = m.get? other := by
  rw [get?_erase, if_neg h]

theorem contains_eq_false {m : NameMap α} {name : String} :
    m.contains name = false ↔ m.get? name = none := by
  simp [contains]

theorem contains_eq_true {m : NameMap α} {name : String} :
    m.contains name = true ↔ ∃ value, m.get? name = some value := by
  simp [contains, Option.isSome_iff_exists]

theorem mem_names_iff {m : NameMap α} {name : String} :
    name ∈ m.names ↔ ∃ value, m.get? name = some value := by
  rw [← Option.isSome_iff_exists, get?, List.lookup_isSome_iff, names, List.mem_map]
  exact exists_congr fun x => and_congr_right fun _ => eq_comm.trans beq_iff_eq.symm

theorem mem_of_get? {m : NameMap α} {name : String} {value : α} (h : m.get? name = some value) :
    (name, value) ∈ m.entries := by
  obtain ⟨first, last, split, _⟩ := List.lookup_eq_some_iff.1 h
  rw [split]
  exact List.mem_append_right _ List.mem_cons_self

theorem get?_of_mem {m : NameMap α} {name : String} {value : α} (member : (name, value) ∈ m.entries) :
    m.get? name = some value := by
  have sorted := m.sorted
  rw [get?]
  generalize m.entries = entries at member sorted
  induction entries with
  | nil => cases member
  | cons entry rest ih =>
      obtain ⟨key, held⟩ := entry
      obtain ⟨below, sorted⟩ := List.pairwise_cons.1 sorted
      rw [lookup_cons_eq_ite]
      rcases List.mem_cons.1 member with same | later
      · cases same
        rw [if_pos rfl]
      · have different : name ≠ key := fun same => String.lt_irrefl key (same ▸ below _ later)
        rw [if_neg different]
        exact ih later sorted

/-- A name before every name of a sorted list is not in it. -/
private theorem lookup_of_below {name : String} {entries : List (String × α)}
    (below : ∀ x ∈ entries, name < x.1) : entries.lookup name = none := by
  rw [List.lookup_eq_none_iff]
  intro x member
  have different : name ≠ x.1 := fun same => String.lt_irrefl x.1 (same ▸ below x member)
  simpa using different

/-- No name comes before the first one of a sorted list with the same lookups. -/
private theorem head_le {k l : String} {v w : α} {xs ys : List (String × α)}
    (sorted : ((l, w) :: ys).Pairwise fun a b => a.1 < b.1)
    (same : ∀ name, ((k, v) :: xs).lookup name = ((l, w) :: ys).lookup name) : ¬ k < l := by
  intro before
  have missing : ((l, w) :: ys).lookup k = none := by
    apply lookup_of_below
    intro z member
    rcases List.mem_cons.1 member with rfl | member
    · exact before
    · exact String.lt_trans before (List.rel_of_pairwise_cons sorted member)
  have found := same k
  rw [missing, lookup_cons_eq_ite, if_pos rfl] at found
  cases found

private theorem entries_eq {xs ys : List (String × α)}
    (sortedX : xs.Pairwise fun a b => a.1 < b.1) (sortedY : ys.Pairwise fun a b => a.1 < b.1)
    (same : ∀ name, xs.lookup name = ys.lookup name) : xs = ys := by
  induction xs generalizing ys with
  | nil =>
      cases ys with
      | nil => rfl
      | cons y ys =>
          have h := same y.1
          rw [lookup_cons_eq_ite, if_pos rfl] at h
          cases h
  | cons x xs ih =>
      obtain ⟨k, v⟩ := x
      cases ys with
      | nil =>
          have h := same k
          rw [lookup_cons_eq_ite, if_pos rfl] at h
          cases h
      | cons y ys =>
          obtain ⟨l, w⟩ := y
          have names : k = l :=
            String.le_antisymm (String.not_lt.1 (head_le sortedX fun name => (same name).symm))
              (String.not_lt.1 (head_le sortedY same))
          subst names
          have values : v = w := by
            have h := same k
            rw [lookup_cons_eq_ite, lookup_cons_eq_ite, if_pos rfl, if_pos rfl] at h
            exact Option.some.inj h
          have tails : xs = ys := by
            refine ih sortedX.tail sortedY.tail ?_
            intro name
            by_cases h : name = k
            · rw [h, lookup_of_below fun z => List.rel_of_pairwise_cons sortedX,
                lookup_of_below fun z => List.rel_of_pairwise_cons sortedY]
            · have both := same name
              rwa [lookup_cons_eq_ite, lookup_cons_eq_ite, if_neg h, if_neg h] at both
          rw [values, tails]

theorem ext_get? {m n : NameMap α} (same : ∀ name, m.get? name = n.get? name) : m = n := by
  have entries : m.entries = n.entries := entries_eq m.sorted n.sorted same
  cases m
  cases n
  cases entries
  rfl

theorem insert_insert (m : NameMap α) (name : String) (first second : α) :
    (m.insert name first).insert name second = m.insert name second := by
  apply ext_get?
  intro other
  simp only [get?_insert]
  split <;> rfl

theorem insert_comm (m : NameMap α) {name other : String} (value second : α) (h : name ≠ other) :
    (m.insert name value).insert other second = (m.insert other second).insert name value := by
  apply ext_get?
  intro any
  simp only [get?_insert]
  split
  · next same => rw [if_neg (same ▸ Ne.symm h)]
  · rfl

/-- Setting a name to the value it has changes nothing. -/
theorem insert_get? {m : NameMap α} {name : String} {value : α} (h : m.get? name = some value) :
    m.insert name value = m := by
  apply ext_get?
  intro other
  rw [get?_insert]
  split
  · next same => rw [same, h]
  · rfl

theorem erase_insert (m : NameMap α) (name : String) (value : α) :
    (m.insert name value).erase name = m.erase name := by
  apply ext_get?
  intro other
  simp only [get?_erase, get?_insert]
  split <;> rfl

/-- Removing a name that is not there changes nothing. -/
theorem erase_of_absent {m : NameMap α} {name : String} (h : m.get? name = none) :
    m.erase name = m := by
  apply ext_get?
  intro other
  rw [get?_erase]
  split
  · next same => rw [same, h]
  · rfl

end SandboxNet.NameMap
