import BeanMapping.Proofs.Documents
import Mathlib.Data.Finmap

/-!
# The two views of a registry

A registry is one list that holds each described type once. It may as well be kept as two views: a map of the
descriptions by name, and the list of the names in the order of registration (`Views`). A registration sets the
one and then, only for a new name, adds to the other, and nothing in the type of the views keeps them in step.
When the views are listed, the map is emptied along the order: a name that only the order has is passed over, and
a description that only the map has is lost.

They stay in step all the same. A registration does to the views what it does to the list (`Shows.register`), so
the views show the list after any registrations, and what they say can be read off it.

Results:
* `Keyed.keys_ofLasts`, `Keyed.find?_ofLasts_iff`: which items are left of those that are put in one after the
  other, and where;
* **`Shows.toList_eq`**: views that show a registry are listed as it is, and nothing is lost;
* **`views_stay_in_step`**: what the views say after a document and any registrations, told from these alone.
-/

namespace BeanMapping

namespace Keyed

variable {α κ : Type} {key : α → κ} {items : List α} {a b : α} {k : κ}

/-! ## Items that are put in one after the other -/

/-- The item is the last one in the list with its key. -/
def IsLast (key : α → κ) (items : List α) (a : α) : Prop :=
  ∃ before after, items = before ++ a :: after ∧ key a ∉ after.map key

theorem isLast_concat_iff :
    IsLast key (items ++ [b]) a ↔ a = b ∨ key a ≠ key b ∧ IsLast key items a := by
  constructor
  · rintro ⟨before, after, eq, last⟩
    rcases List.eq_nil_or_concat' after with rfl | ⟨after, c, rfl⟩
    · exact Or.inl (List.singleton_inj.mp (List.append_inj' eq rfl).2).symm
    · rw [← List.cons_append, ← List.append_assoc] at eq
      obtain ⟨rfl, same⟩ := List.append_inj' eq rfl
      obtain rfl := List.singleton_inj.mp same
      rw [List.map_append, List.mem_append, not_or] at last
      exact Or.inr ⟨fun same => last.2 (List.mem_singleton.mpr same), before, after, rfl, last.1⟩
  · rintro (rfl | ⟨other, before, after, rfl, last⟩)
    · exact ⟨items, [], rfl, List.not_mem_nil⟩
    · refine ⟨before, after ++ [b], by simp, ?_⟩
      simpa [other] using last

variable [DecidableEq κ]

theorem ofLasts_concat (items : List α) (a : α) :
    (ofLasts (items ++ [a]) : Keyed key) = (ofLasts items).insert a :=
  List.foldl_append

/-- Of the items with one key the last is found. -/
theorem find?_ofLasts_iff :
    (ofLasts items : Keyed key).find? k = some a ↔ key a = k ∧ IsLast key items a := by
  induction items using List.reverseRecOn with
  | nil =>
    refine iff_of_false (fun found => by cases found) ?_
    rintro ⟨-, before, after, eq, -⟩
    simp at eq
  | append_singleton items b ih =>
    rw [ofLasts_concat, isLast_concat_iff]
    by_cases same : k = key b
    · subst same
      rw [find?_insert_self, Option.some.injEq]
      constructor
      · rintro rfl
        exact ⟨rfl, Or.inl rfl⟩
      · rintro ⟨same, rfl | ⟨other, -⟩⟩
        · rfl
        · exact absurd same other
    · rw [find?_insert_of_ne _ same, ih]
      refine and_congr_right ?_
      rintro rfl
      constructor
      · exact fun last => Or.inr ⟨same, last⟩
      · rintro (rfl | ⟨-, last⟩)
        · exact absurd rfl same
        · exact last

/-- Each key stands where it came first. -/
theorem keys_ofLasts (items : List α) :
    (ofLasts items : Keyed key).items.map key = (items.map key).eraseDups := by
  induction items using List.reverseRecOn with
  | nil => rfl
  | append_singleton items a ih =>
    rw [ofLasts_concat, keys_insert, ih, List.map_append, List.eraseDups_append, List.map_singleton]
    split
    next again =>
      have mem : key a ∈ items.map key := List.mem_eraseDups.mp again
      have nothing : [key a].removeAll (items.map key) = [] := by simpa [List.removeAll] using mem
      rw [nothing, List.eraseDups_nil, List.append_nil]
    next new =>
      have fresh : key a ∉ items.map key := fun mem => new (List.mem_eraseDups.mpr mem)
      have all : [key a].removeAll (items.map key) = [key a] := by simpa [List.removeAll] using fresh
      rw [all]
      rfl

theorem isSome_find?_iff {c : Keyed key} : (c.find? k).isSome = true ↔ k ∈ c.items.map key := by
  rw [find?, List.find?_isSome, List.mem_map]
  exact exists_congr fun b => and_congr_right fun _ => beq_iff_eq

/-- Each item is found under its key. -/
theorem find?_of_mem {c : Keyed key} (h : a ∈ c.items) : c.find? (key a) = some a := by
  obtain ⟨b, found⟩ := Option.isSome_iff_exists.mp (isSome_find?_iff.mpr (List.mem_map_of_mem h))
  have same : b = a := List.inj_on_of_nodup_map c.distinct (mem_of_find? found) h (key_of_find? found)
  rw [found, same]

end Keyed

namespace Registry

open Keyed (IsLast)

/-! ## Views -/

/-- The described types in two views: by name, and in the order of registration. -/
@[ext]
structure Views where
  byName : Finmap fun _ : TypeName => TypeDescriptor
  order : List TypeName

namespace Views

variable {v w : Views} {r : Registry} {came : List TypeDescriptor} {t : TypeName}
  {types : Finmap fun _ : TypeName => TypeDescriptor} {names : List TypeName}

/-- The views of no types. -/
def empty : Views := ⟨∅, []⟩

/-- The views with one more description. A name that is new is added to the order, and the description is set. -/
def register (v : Views) (d : TypeDescriptor) : Views where
  order := if d.name ∈ v.byName then v.order else v.order ++ [d.name]
  byName := v.byName.insert d.name d

/-- The views of a list of descriptions. -/
def ofList (ds : List TypeDescriptor) : Views :=
  ds.foldl register empty

/-- The description of a type, if it has one. -/
def describe (v : Views) (t : TypeName) : Option TypeDescriptor :=
  v.byName.lookup t

/-- The number of described types. -/
def size (v : Views) : Nat := v.byName.keys.card

/-- The descriptions of names. Each is taken out of the map as its name comes up, and a name that the map does not
have is passed over. -/
def drain (types : Finmap fun _ : TypeName => TypeDescriptor) : List TypeName → List TypeDescriptor
  | [] => []
  | t :: names =>
    match types.extract t with
    | (some d, left) => d :: drain left names
    | (none, left) => drain left names

/-- The descriptions in the order of registration. -/
def toList (v : Views) : List TypeDescriptor :=
  drain v.byName v.order

/-- Where no name comes twice, what is taken out of the map is not missed later. -/
theorem drain_eq_filterMap (once : names.Nodup) : drain types names = names.filterMap fun t => types.lookup t := by
  induction names generalizing types with
  | nil => rfl
  | cons t names ih =>
    obtain ⟨fresh, once⟩ := List.nodup_cons.mp once
    have kept : (names.filterMap fun u => (types.erase t).lookup u) = names.filterMap fun u => types.lookup u := by
      refine List.filterMap_congr fun u mem => ?_
      exact Finmap.lookup_erase_ne fun same => fresh (same ▸ mem)
    rw [drain, Finmap.extract_eq_lookup_erase, List.filterMap_cons]
    cases types.lookup t with
    | none => exact (ih once).trans kept
    | some d => exact congrArg (d :: ·) ((ih once).trans kept)

/-! ## Views in step -/

/-- The views show what a registry holds. -/
structure Shows (v : Views) (r : Registry) : Prop where
  order_eq : v.order = r.items.map TypeDescriptor.name
  describe_eq : ∀ t, v.describe t = r.describe t

theorem shows_empty : empty.Shows .empty := ⟨rfl, fun _ => Finmap.lookup_empty _⟩

theorem Shows.mem_byName_iff (h : v.Shows r) : t ∈ v.byName ↔ t ∈ r.items.map TypeDescriptor.name := by
  rw [← Finmap.lookup_isSome, ← Keyed.isSome_find?_iff]
  exact iff_of_eq (congrArg (fun o => Option.isSome o = true) (h.describe_eq t))

/-- **A registration does the same to both.** -/
theorem Shows.register (h : v.Shows r) (d : TypeDescriptor) : (v.register d).Shows (r.insert d) where
  order_eq := by
    rw [Keyed.keys_insert, Views.register, h.order_eq]
    exact if_congr h.mem_byName_iff rfl rfl
  describe_eq t := by
    by_cases same : t = d.name
    · subst same
      exact (Finmap.lookup_insert _).trans (Keyed.find?_insert_self r d).symm
    · exact (Finmap.lookup_insert_of_ne _ same).trans
        ((h.describe_eq t).trans (Keyed.find?_insert_of_ne r same).symm)

theorem Shows.registerAll (h : v.Shows r) (ds : List TypeDescriptor) :
    (ds.foldl Views.register v).Shows (ds.foldl Keyed.insert r) := by
  induction ds generalizing v r with
  | nil => exact h
  | cons d ds ih => exact ih (h.register d)

theorem shows_ofList (ds : List TypeDescriptor) : (ofList ds).Shows (.ofList ds) :=
  shows_empty.registerAll ds

/-- A registry is shown by one pair of views only. -/
theorem Shows.unique (h : v.Shows r) (h' : w.Shows r) : v = w := by
  have byName : v.byName = w.byName :=
    Finmap.ext_lookup fun t => (h.describe_eq t).trans (h'.describe_eq t).symm
  exact Views.ext byName (h.order_eq.trans h'.order_eq.symm)

/-- **Nothing is lost when views in step are listed.** -/
theorem Shows.toList_eq (h : v.Shows r) : v.toList = r.items := by
  have once : v.order.Nodup := h.order_eq ▸ r.distinct
  calc v.toList
      = v.order.filterMap v.describe := drain_eq_filterMap once
    _ = (r.items.map TypeDescriptor.name).filterMap r.describe := by rw [h.order_eq, funext h.describe_eq]
    _ = r.items.filterMap fun d => r.describe d.name := List.filterMap_map
    _ = r.items.filterMap some := List.filterMap_congr fun _ mem => Keyed.find?_of_mem mem
    _ = r.items := List.filterMap_some

/-- Views that are not in step lose what they have: here one name is in the map only, and another in the order
only. -/
example : toList ⟨.singleton ⟨"Pet"⟩ { name := ⟨"Pet"⟩, kind := .bean }, [⟨"Owner"⟩]⟩ = [] := by decide

theorem Shows.size_eq (h : v.Shows r) : v.size = r.size := by
  have keys : v.byName.keys = (r.items.map TypeDescriptor.name).toFinset := by
    ext t
    rw [Finmap.mem_keys, List.mem_toFinset, h.mem_byName_iff]
  rw [size, keys, List.toFinset_card_of_nodup r.distinct, List.length_map]
  rfl

/-- The views of the list of views in step are these again. -/
theorem Shows.ofList_toList (h : v.Shows r) : ofList v.toList = v := by
  rw [h.toList_eq]
  have again : (ofList r.items).Shows r := by
    have shows := shows_ofList r.items
    rwa [Registry.ofList, Keyed.ofLasts_items] at shows
  exact again.unique h

/-! ## What the views tell -/

/-- **The two views agree**, on what came with all registrations. -/
structure Tells (v : Views) (came : List TypeDescriptor) : Prop where
  /-- The order has no name twice. -/
  nodup : v.order.Nodup
  /-- It has the names of the described types. -/
  mem_order_iff : ∀ t, t ∈ v.order ↔ (v.describe t).isSome = true
  /-- A type is described as it was last. -/
  describe_iff : ∀ t d, v.describe t = some d ↔ d.name = t ∧ IsLast TypeDescriptor.name came d
  /-- Each name that came is listed once, in the place where it came first. -/
  names_eq : v.toList.map TypeDescriptor.name = (came.map TypeDescriptor.name).eraseDups
  /-- It is listed with the last description. -/
  isLast : ∀ d ∈ v.toList, IsLast TypeDescriptor.name came d
  /-- As many are listed as the map has. -/
  length_eq : v.toList.length = v.size
  /-- The list gives the same views again. -/
  ofList_eq : ofList v.toList = v

/-- Views tell what came as the registry does that they show. -/
theorem Shows.tells (h : v.Shows (.ofList came)) : v.Tells came where
  nodup := h.order_eq ▸ (Registry.ofList came).distinct
  mem_order_iff t := by rw [h.order_eq, h.describe_eq, Registry.describe, Keyed.isSome_find?_iff]
  describe_iff t d := by rw [h.describe_eq, Registry.describe, Registry.ofList, Keyed.find?_ofLasts_iff]
  names_eq := by rw [h.toList_eq, Registry.ofList, Keyed.keys_ofLasts]
  isLast d mem := by
    rw [h.toList_eq] at mem
    exact (Keyed.find?_ofLasts_iff.mp (Keyed.find?_of_mem mem)).2
  length_eq := by
    rw [h.toList_eq, h.size_eq]
    rfl
  ofList_eq := h.ofList_toList

end Views

/-- **The two views of a registry stay in step.** Whatever document a registry was read from and whatever was
registered after that, the two views, kept by the same registrations one by one, agree on all that came, and the
registry is listed, described and counted as they are. -/
theorem views_stay_in_step {document : Json} {r : Registry} (read : Registry.ofJson? document = some r)
    (inserted : List TypeDescriptor) :
    ∃ listed, Json.listOf? TypeDescriptor.ofJson? document = some listed ∧
      (Views.ofList (listed ++ inserted)).Tells (listed ++ inserted) ∧
      (Views.ofList (listed ++ inserted)).Shows (inserted.foldl Keyed.insert r) ∧
      (inserted.foldl Keyed.insert r).items = (Views.ofList (listed ++ inserted)).toList ∧
      (inserted.foldl Keyed.insert r).size = (Views.ofList (listed ++ inserted)).size ∧
      Registry.ofList (inserted.foldl Keyed.insert r).items = inserted.foldl Keyed.insert r := by
  obtain ⟨listed, reads, rfl⟩ := Option.map_eq_some_iff.mp read
  have all : inserted.foldl Keyed.insert (Registry.ofList listed) = Registry.ofList (listed ++ inserted) :=
    List.foldl_append.symm
  have shows := Views.shows_ofList (listed ++ inserted)
  rw [all]
  exact ⟨listed, reads, shows.tells, shows, shows.toList_eq.symm, shows.size_eq.symm, Keyed.ofLasts_items _⟩

/-! ### Pets that are described again -/

/-- A pet that is a bean, its owner, and the pet again, now as a plain value. -/
def petsDocument : Json :=
  .arr [.obj [("name", .str "Pet"), ("kind", .str "bean")], .obj [("name", .str "Owner"), ("kind", .str "bean")],
    .obj [("name", .str "Pet"), ("kind", .str "value")]]

/-- The pet as a plain value, which is how it comes last. -/
def valuePet : TypeDescriptor := { name := ⟨"Pet"⟩, kind := .value }

/-- The owner as a plain value, which no document lists. -/
def valueOwner : TypeDescriptor := { name := ⟨"Owner"⟩, kind := .value }

/-- What the document lists. -/
def petsListed : List TypeDescriptor :=
  [{ name := ⟨"Pet"⟩, kind := .bean }, { name := ⟨"Owner"⟩, kind := .bean }, valuePet]

/-- The owner is described again after the document: each type stands where it came first, as it came last. -/
theorem views_stay_in_step_for_pets :
    Registry.ofJson? petsDocument = some (.ofList petsListed) ∧
    ((Registry.ofList petsListed).insert valueOwner).items = [valuePet, valueOwner] ∧
    (Views.ofList (petsListed ++ [valueOwner])).toList = [valuePet, valueOwner] ∧
    (Views.ofList (petsListed ++ [valueOwner])).order = [⟨"Pet"⟩, ⟨"Owner"⟩] ∧
    (Views.ofList (petsListed ++ [valueOwner])).size = 2 := by
  have listedAs : Json.listOf? TypeDescriptor.ofJson? petsDocument = some petsListed := by decide +kernel
  have read : Registry.ofJson? petsDocument = some (.ofList petsListed) := by
    rw [Registry.ofJson?, listedAs]
    rfl
  have items : ((Registry.ofList petsListed).insert valueOwner).items = [valuePet, valueOwner] := by decide +kernel
  obtain ⟨listed, reads, tells, shows, list_eq, -⟩ := views_stay_in_step read [valueOwner]
  obtain rfl : petsListed = listed := Option.some.inj (listedAs.symm.trans reads)
  have toList_eq : (Views.ofList (petsListed ++ [valueOwner])).toList = [valuePet, valueOwner] :=
    list_eq.symm.trans items
  have order_eq : (Views.ofList (petsListed ++ [valueOwner])).order = [⟨"Pet"⟩, ⟨"Owner"⟩] :=
    shows.order_eq.trans (congrArg (List.map TypeDescriptor.name) items)
  refine ⟨read, items, toList_eq, order_eq, ?_⟩
  rw [← tells.length_eq, toList_eq]
  rfl

end Registry

end BeanMapping
