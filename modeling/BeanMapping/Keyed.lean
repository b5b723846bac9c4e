/-!
# Lists with keys

A list in which each item has a key and no two items have the same. An item may be put in where its
key is free, or in the place of the item that has its key.

* `find?_insertIfAbsent`, `find?_supplement`: an item whose key is taken changes nothing, any other
  is found under its key.
* `find?_insert_self`, `find?_insert_of_ne`: the item put in last is found under its key.
* `keys_insert`: an item in the place of another keeps that place.
-/

namespace BeanMapping

variable {α κ : Type} [DecidableEq κ]

/-- A list of items with pairwise different keys. -/
structure Keyed (key : α → κ) where
  items : List α
  distinct : (items.map key).Nodup

namespace Keyed

variable {key : α → κ}

/-- The list without items. -/
def empty : Keyed key := ⟨[], .nil⟩

instance : Inhabited (Keyed key) := ⟨empty⟩

/-- The number of items. -/
def size (c : Keyed key) : Nat := c.items.length

/-- The item with the key. -/
def find? (c : Keyed key) (k : κ) : Option α :=
  c.items.find? fun a => key a == k

theorem key_of_find? {c : Keyed key} {k : κ} {a : α} (h : c.find? k = some a) : key a = k := by
  simpa using List.find?_some h

theorem mem_of_find? {c : Keyed key} {k : κ} {a : α} (h : c.find? k = some a) : a ∈ c.items :=
  List.mem_of_find?_eq_some h

theorem not_mem_of_find?_eq_none {c : Keyed key} {k : κ} (h : c.find? k = none) :
    k ∉ c.items.map key := by
  intro mem
  obtain ⟨a, ha, rfl⟩ := List.mem_map.1 mem
  simpa using List.find?_eq_none.1 h a ha

/-! ## Where the key is free -/

/-- The list with an item put in at the end, unless its key is taken. -/
def insertIfAbsent (c : Keyed key) (a : α) : Keyed key :=
  match h : c.find? (key a) with
  | some _ => c
  | none =>
    ⟨c.items ++ [a], by
      rw [List.map_append]
      refine List.nodup_append.2 ⟨c.distinct, by simp, fun x hx y hy same => ?_⟩
      have eq : x = key a := same.trans (List.mem_singleton.1 hy)
      exact not_mem_of_find?_eq_none h (eq ▸ hx)⟩

theorem insertIfAbsent_of_some {c : Keyed key} {a old : α} (h : c.find? (key a) = some old) :
    c.insertIfAbsent a = c := by
  rw [insertIfAbsent]
  split
  · rfl
  · simp_all

theorem items_insertIfAbsent_of_none {c : Keyed key} {a : α} (h : c.find? (key a) = none) :
    (c.insertIfAbsent a).items = c.items ++ [a] := by
  rw [insertIfAbsent]
  split
  · simp_all
  · rfl

theorem find?_insertIfAbsent_self (c : Keyed key) (a : α) :
    (c.insertIfAbsent a).find? (key a) = some ((c.find? (key a)).getD a) := by
  cases h : c.find? (key a) with
  | some old => rw [insertIfAbsent_of_some h, h]; rfl
  | none =>
    have h' := h
    rw [find?] at h'
    rw [find?, items_insertIfAbsent_of_none h, List.find?_append, h']
    simp

theorem find?_insertIfAbsent_of_ne (c : Keyed key) {a : α} {k : κ} (h : k ≠ key a) :
    (c.insertIfAbsent a).find? k = c.find? k := by
  have h' : ¬ key a = k := fun e => h e.symm
  cases eq : c.find? (key a) with
  | some old => rw [insertIfAbsent_of_some eq]
  | none =>
    rw [find?, items_insertIfAbsent_of_none eq, List.find?_append, find?]
    simp [h']

theorem find?_insertIfAbsent (c : Keyed key) (a : α) (k : κ) :
    (c.insertIfAbsent a).find? k = (c.find? k).or (if key a = k then some a else none) := by
  by_cases h : key a = k
  · subst h
    rw [find?_insertIfAbsent_self, if_pos rfl]
    cases c.find? (key a) <;> rfl
  · rw [find?_insertIfAbsent_of_ne c fun e => h e.symm, if_neg h, Option.or_none]

/-- The list with items put in at the end in turn, as far as their keys are free. -/
def supplement (c : Keyed key) (items : List α) : Keyed key :=
  items.foldl insertIfAbsent c

theorem find?_supplement (c : Keyed key) (items : List α) (k : κ) :
    (c.supplement items).find? k = (c.find? k).or (items.find? fun a => key a == k) := by
  induction items generalizing c with
  | nil => rw [supplement, List.foldl_nil, List.find?_nil, Option.or_none]
  | cons a rest ih =>
    change ((c.insertIfAbsent a).supplement rest).find? k = _
    rw [ih, find?_insertIfAbsent, List.find?_cons, Option.or_assoc]
    by_cases h : key a = k
    · simp [h]
    · rw [if_neg h, Option.none_or, beq_eq_false_iff_ne.2 h]

/-- The list of the items that have a key first. -/
def ofFirsts (items : List α) : Keyed key :=
  empty.supplement items

theorem find?_ofFirsts (items : List α) (k : κ) :
    (ofFirsts items : Keyed key).find? k = items.find? fun a => key a == k := by
  rw [ofFirsts, find?_supplement]
  rfl

/-! ## In the place of another -/

/-- The items with one put in: in the place of the one with its key, or else at the end. -/
def putItem (key : α → κ) (a : α) : List α → List α
  | [] => [a]
  | b :: rest => if key b = key a then a :: rest else b :: putItem key a rest

theorem keys_putItem (a : α) (items : List α) :
    (putItem key a items).map key =
      if key a ∈ items.map key then items.map key else items.map key ++ [key a] := by
  induction items with
  | nil => simp [putItem]
  | cons b rest ih =>
    rw [putItem]
    by_cases h : key b = key a
    · simp [h]
    · have h' : ¬ key a = key b := fun e => h e.symm
      rw [if_neg h, List.map_cons, ih, List.map_cons]
      by_cases mem : key a ∈ rest.map key <;> simp [mem, h']

theorem distinct_putItem (a : α) {items : List α} (h : (items.map key).Nodup) :
    ((putItem key a items).map key).Nodup := by
  rw [keys_putItem]
  split
  · exact h
  · rename_i new
    refine List.nodup_append.2 ⟨h, by simp, fun x hx y hy same => new ?_⟩
    rwa [← List.mem_singleton.1 hy, ← same]

/-- The list with an item put in, in the place of the one with its key. -/
def insert (c : Keyed key) (a : α) : Keyed key :=
  ⟨putItem key a c.items, distinct_putItem a c.distinct⟩

/-- The list of the items that have a key last, each in the place where its key comes first. -/
def ofLasts (items : List α) : Keyed key :=
  items.foldl insert empty

theorem keys_insert (c : Keyed key) (a : α) :
    (c.insert a).items.map key =
      if key a ∈ c.items.map key then c.items.map key else c.items.map key ++ [key a] :=
  keys_putItem a c.items

theorem find?_putItem_self (a : α) (items : List α) :
    (putItem key a items).find? (fun b => key b == key a) = some a := by
  induction items with
  | nil => simp [putItem]
  | cons b rest ih =>
    rw [putItem]
    by_cases h : key b = key a <;> simp [h, ih]

theorem find?_putItem_of_ne {a : α} {k : κ} (items : List α) (h : k ≠ key a) :
    (putItem key a items).find? (fun b => key b == k) = items.find? fun b => key b == k := by
  have h' : ¬ key a = k := fun e => h e.symm
  induction items with
  | nil => simp [putItem, h']
  | cons b rest ih =>
    rw [putItem]
    by_cases eq : key b = key a
    · simp [eq, h']
    · simp [eq, List.find?_cons, ih]

theorem find?_insert_self (c : Keyed key) (a : α) : (c.insert a).find? (key a) = some a :=
  find?_putItem_self a c.items

theorem find?_insert_of_ne (c : Keyed key) {a : α} {k : κ} (h : k ≠ key a) :
    (c.insert a).find? k = c.find? k :=
  find?_putItem_of_ne c.items h

end Keyed

end BeanMapping
