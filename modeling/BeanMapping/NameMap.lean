/-!
# Maps from names

`NameMap` keeps its entries in the order of their names, each name once, so that two maps with the
same entries are equal and every walk over a map has one order.

* `find?_insert_self`, `find?_insert_of_ne`: looking up after an insertion.
-/

namespace BeanMapping

/-- A map from names, in the order of the names. -/
structure NameMap (α : Type) where
  entries : List (String × α)
  ordered : entries.Pairwise fun a b => a.1 < b.1

namespace NameMap

variable {α : Type}

/-- The map without entries. -/
def empty : NameMap α := ⟨[], .nil⟩

instance : Inhabited (NameMap α) := ⟨empty⟩

instance : EmptyCollection (NameMap α) := ⟨empty⟩

/-- The entries with one of them set, in the order of the names. -/
def insertEntry (name : String) (value : α) : List (String × α) → List (String × α)
  | [] => [(name, value)]
  | (n, v) :: rest =>
    if name < n then (name, value) :: (n, v) :: rest
    else if n < name then (n, v) :: insertEntry name value rest
    else (name, value) :: rest

theorem mem_insertEntry {name : String} {value : α} {entry : String × α}
    {entries : List (String × α)} (h : entry ∈ insertEntry name value entries) :
    entry = (name, value) ∨ entry ∈ entries := by
  induction entries with
  | nil => simpa [insertEntry] using h
  | cons e rest ih =>
    obtain ⟨n, v⟩ := e
    rw [insertEntry] at h
    split at h
    · simpa using h
    · split at h
      · rcases List.mem_cons.1 h with h | h
        · exact .inr (h ▸ List.mem_cons_self)
        · exact (ih h).imp_right (List.mem_cons_of_mem _)
      · rcases List.mem_cons.1 h with h | h
        · exact .inl h
        · exact .inr (List.mem_cons_of_mem _ h)

theorem ordered_insertEntry {name : String} {value : α} {entries : List (String × α)}
    (h : entries.Pairwise fun a b => a.1 < b.1) :
    (insertEntry name value entries).Pairwise fun a b => a.1 < b.1 := by
  induction entries with
  | nil => simp [insertEntry]
  | cons e rest ih =>
    obtain ⟨n, v⟩ := e
    have ⟨first, later⟩ := List.pairwise_cons.1 h
    rw [insertEntry]
    split
    · rename_i lt
      refine List.pairwise_cons.2 ⟨fun e he => ?_, h⟩
      rcases List.mem_cons.1 he with rfl | he
      · exact lt
      · exact String.lt_trans lt (first e he)
    · split
      · rename_i lt
        refine List.pairwise_cons.2 ⟨fun e he => ?_, ih later⟩
        rcases mem_insertEntry he with rfl | he
        · exact lt
        · exact first e he
      · rename_i ge le
        have eq : n = name := String.le_antisymm (String.not_lt.1 ge) (String.not_lt.1 le)
        exact List.pairwise_cons.2 ⟨fun e he => eq ▸ first e he, later⟩

/-- The map with one entry set. -/
def insert (m : NameMap α) (name : String) (value : α) : NameMap α :=
  ⟨insertEntry name value m.entries, ordered_insertEntry m.ordered⟩

/-- The value of a name. -/
def find? (m : NameMap α) (name : String) : Option α :=
  (m.entries.find? (·.1 == name)).map (·.2)

/-- The map of a list of entries, of which a later one wins. -/
def ofList (entries : List (String × α)) : NameMap α :=
  entries.foldl (fun m e => m.insert e.1 e.2) empty

theorem find?_insertEntry_self (name : String) (value : α) (entries : List (String × α)) :
    ((insertEntry name value entries).find? (·.1 == name)).map (·.2) = some value := by
  induction entries with
  | nil => simp [insertEntry]
  | cons e rest ih =>
    obtain ⟨n, v⟩ := e
    rw [insertEntry]
    split
    · simp
    · split
      · rename_i lt
        have : n ≠ name := fun h => String.lt_irrefl _ (h ▸ lt)
        simpa [this] using ih
      · simp

theorem find?_insertEntry_of_ne {name other : String} (value : α) (entries : List (String × α))
    (h : other ≠ name) :
    (insertEntry name value entries).find? (·.1 == other) = entries.find? (·.1 == other) := by
  have h' : name ≠ other := fun e => h e.symm
  induction entries with
  | nil => simp [insertEntry, h']
  | cons e rest ih =>
    obtain ⟨n, v⟩ := e
    rw [insertEntry]
    split
    · simp [List.find?_cons, h']
    · split
      · simp [List.find?_cons, ih]
      · rename_i ge le
        have eq : n = name := String.le_antisymm (String.not_lt.1 ge) (String.not_lt.1 le)
        simp [h', eq]

theorem find?_insert_self (m : NameMap α) (name : String) (value : α) :
    (m.insert name value).find? name = some value :=
  find?_insertEntry_self name value m.entries

theorem find?_insert_of_ne (m : NameMap α) {name other : String} (value : α) (h : other ≠ name) :
    (m.insert name value).find? other = m.find? other := by
  simp only [find?, insert, find?_insertEntry_of_ne value m.entries h]

end NameMap

end BeanMapping
