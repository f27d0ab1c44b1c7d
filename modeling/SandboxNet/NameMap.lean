/-! # Tables keyed by names

A table keeps its entries in increasing order of their names, so that its listing has one order and
two tables with the same entries are equal. Names are ordered by their characters.
-/

namespace SandboxNet

/-- A finite table keyed by names. -/
structure NameMap (α : Type) where
  entries : List (String × α)
  sorted : entries.Pairwise fun x y => x.1 < y.1

namespace NameMap

variable {α : Type}

def empty : NameMap α := ⟨[], .nil⟩

/-- The names, in increasing order. -/
def names (m : NameMap α) : List String :=
  m.entries.map (·.1)

def get? (m : NameMap α) (name : String) : Option α :=
  m.entries.lookup name

def contains (m : NameMap α) (name : String) : Bool :=
  (m.get? name).isSome

/-- Puts an entry at its place in a sorted list, over the entry of that name. -/
def insertEntry (name : String) (value : α) : List (String × α) → List (String × α)
  | [] => [(name, value)]
  | entry :: rest =>
      if name < entry.1 then (name, value) :: entry :: rest
      else if name = entry.1 then (name, value) :: rest
      else entry :: insertEntry name value rest

theorem mem_insertEntry {name : String} {value : α} {entries : List (String × α)}
    {x : String × α} (h : x ∈ insertEntry name value entries) :
    x = (name, value) ∨ x ∈ entries := by
  induction entries with
  | nil => simpa [insertEntry] using h
  | cons entry rest ih =>
      simp only [insertEntry] at h
      split at h
      · simpa using h
      · split at h
        · exact (List.mem_cons.1 h).imp_right (List.mem_cons_of_mem _)
        · rcases List.mem_cons.1 h with rfl | h
          · exact .inr (List.mem_cons_self ..)
          · exact (ih h).imp_right (List.mem_cons_of_mem _)

theorem sorted_insertEntry (name : String) (value : α) {entries : List (String × α)}
    (h : entries.Pairwise fun x y => x.1 < y.1) :
    (insertEntry name value entries).Pairwise fun x y => x.1 < y.1 := by
  induction entries with
  | nil => exact List.pairwise_singleton ..
  | cons entry rest ih =>
      obtain ⟨below, tail⟩ := List.pairwise_cons.1 h
      simp only [insertEntry]
      split
      · next before =>
          refine List.pairwise_cons.2 ⟨fun x hx => ?_, h⟩
          rcases List.mem_cons.1 hx with rfl | hx
          · exact before
          · exact String.lt_trans before (below x hx)
      · next notBefore =>
          split
          · next same => exact List.pairwise_cons.2 ⟨fun x hx => same ▸ below x hx, tail⟩
          · next other =>
              refine List.pairwise_cons.2 ⟨fun x hx => ?_, ih tail⟩
              rcases mem_insertEntry hx with rfl | hx
              · exact Std.lt_of_le_of_ne (String.not_lt.1 notBefore) (Ne.symm other)
              · exact below x hx

def insert (m : NameMap α) (name : String) (value : α) : NameMap α :=
  ⟨insertEntry name value m.entries, sorted_insertEntry name value m.sorted⟩

def erase (m : NameMap α) (name : String) : NameMap α :=
  ⟨m.entries.filter (·.1 ≠ name), m.sorted.filter _⟩

end NameMap

end SandboxNet
