import BeanMapping.Shape.Introspection
import Mathlib.Data.List.Nodup

/-!
# What introspection gives

The shape of a type has each property name once, and a property that can be read is a collection exactly
when its value type is one, of the elements of that type (`BeanShape.Sound`). A property that only an
adder makes known is no such property, so nothing is said about its value type.

Result:
* **`sound_of_shapeOf`**: every shape is sound.
-/

namespace BeanMapping

/-! ## Lists -/

/-- A list without its duplicates has none. -/
theorem nodup_eraseDups {α : Type} [DecidableEq α] : ∀ l : List α, l.eraseDups.Nodup
  | [] => by simp
  | a :: l => by
    rw [List.eraseDups_cons, List.nodup_cons]
    refine ⟨fun mem => ?_, nodup_eraseDups _⟩
    rw [List.mem_eraseDups, List.mem_filter] at mem
    simpa using mem.2
termination_by l => l.length
decreasing_by exact Nat.lt_succ_of_le (List.length_filter_le _ l)

/-- What is made of some items of a list, in their order, keeps what is read off the items. -/
theorem sublist_filterMap {α β γ : Type} {f : α → Option β} {g : β → γ} {h : α → γ}
    (same : ∀ a b, f a = some b → g b = h a) (l : List α) :
    ((l.filterMap f).map g).Sublist (l.map h) := by
  induction l with
  | nil => exact List.Sublist.refl []
  | cons a l ih =>
    cases made : f a with
    | none =>
      rw [List.filterMap_cons_none made]
      exact ih.cons (h a)
    | some b =>
      rw [List.filterMap_cons_some made, List.map_cons, same a b made]
      exact ih.cons_cons (h a)

/-- What is made of the items of a list stands in the order of their places. -/
theorem pairwise_places {α β : Type} {f : α × Nat → Option β} {place : β → Nat}
    (same : ∀ x b, f x = some b → place b = x.2) (l : List α) :
    ((l.zipIdx.filterMap f).map place).Pairwise (· < ·) := by
  refine List.Pairwise.sublist (sublist_filterMap same l.zipIdx) ?_
  rw [List.zipIdx_map_snd]
  exact List.pairwise_lt_range'

/-- Two lists of related items are searched alike. -/
theorem find?_rel {α β : Type} {R : α → β → Prop} {l : List α} {l' : List β} {test : α → Bool}
    {test' : β → Bool} (related : List.Forall₂ R l l') (same : ∀ a b, R a b → test a = test' b) :
    Option.Rel R (l.find? test) (l'.find? test') := by
  induction related with
  | nil => exact .none
  | cons first _ ih =>
    rw [List.find?_cons, List.find?_cons, same _ _ first]
    split
    · exact .some first
    · exact ih

/-- Where no two items have one key, an item is found by its key. -/
theorem find?_of_nodup {α κ : Type} [DecidableEq κ] {key : α → κ} {l : List α}
    (nodup : (l.map key).Nodup) {a : α} (mem : a ∈ l) : l.find? (fun b => key b == key a) = some a := by
  cases found : l.find? fun b => key b == key a with
  | none => exact absurd (beq_self_eq_true (key a)) (List.find?_eq_none.mp found a mem)
  | some b =>
    have same := List.find?_some found
    rw [beq_iff_eq] at same
    rw [List.inj_on_of_nodup_map nodup (List.mem_of_find?_eq_some found) mem same]

/-- Where no two items have one key, an item of a key is at one place only. -/
theorem place_eq_of_key {α κ : Type} {key : α → κ} {l : List α} (nodup : (l.map key).Nodup) {a b : α}
    {k k' : Nat} (ha : l[k]? = some a) (hb : l[k']? = some b) (same : key a = key b) : k = k' := by
  obtain ⟨lt, -⟩ := List.getElem?_eq_some_iff.mp ha
  have bound : k < (l.map key).length := by rwa [List.length_map]
  refine (List.getElem?_inj bound nodup).mp ?_
  rw [List.getElem?_map, List.getElem?_map, ha, hb, Option.map_some, Option.map_some, same]

/-! ## Sound shapes -/

/-- A shape has each property name once, and a property that can be read has the elements of its value
type. -/
structure BeanShape.Sound (s : BeanShape) : Prop where
  nodup : (s.properties.map Property.name).Nodup
  elementType_eq : ∀ p ∈ s.properties, p.isReadable = true → p.elementType = p.valueType.element?

namespace Introspection

variable {i : Inflector} {d : TypeDescriptor} {p : Property} {ps : List Property}
  {uses adders : List AccessorUse} {name : String}

/-- The property of a name is made of the first getter and the first setter of the name, of one of them at
least, and has the type of both. -/
theorem property?_cases (h : property? uses name = some p) :
    ∃ type getter setter, p = propertyOf name type getter setter ∧ (getter ≠ none ∨ setter ≠ none) ∧
      (∀ u ∈ getter, firstUse? uses .getter name = some u ∧ type = u.type) ∧
      ∀ u ∈ setter, firstUse? uses .setter name = some u ∧ type = u.type := by
  have absent : ∀ role (type : TypeName), ∀ u ∈ (none : Option AccessorUse),
      firstUse? uses role name = some u ∧ type = u.type := by
    rintro _ _ _ ⟨⟩
  unfold property? at h
  split at h
  · rename_i g s getter setter
    split at h <;> obtain rfl := Option.some.inj h
    · rename_i same
      refine ⟨_, _, _, rfl, Or.inl (Option.some_ne_none _), ?_, ?_⟩
      · rintro _ ⟨⟩
        exact ⟨getter, rfl⟩
      · rintro _ ⟨⟩
        exact ⟨setter, same⟩
    · refine ⟨_, _, _, rfl, Or.inl (Option.some_ne_none _), ?_, absent _ _⟩
      rintro _ ⟨⟩
      exact ⟨getter, rfl⟩
  · rename_i g getter _
    obtain rfl := Option.some.inj h
    refine ⟨_, _, _, rfl, Or.inl (Option.some_ne_none _), ?_, absent _ _⟩
    rintro _ ⟨⟩
    exact ⟨getter, rfl⟩
  · rename_i s _ setter
    obtain rfl := Option.some.inj h
    refine ⟨_, _, _, rfl, Or.inr (Option.some_ne_none _), absent _ _, ?_⟩
    rintro _ ⟨⟩
    exact ⟨setter, rfl⟩
  · cases h

/-- The property of a name has the name, and the elements of its value type. -/
theorem property?_eq_some (h : property? uses name = some p) :
    p.name = name ∧ p.elementType = p.valueType.element? := by
  obtain ⟨type, getter, setter, rfl, -⟩ := property?_cases h
  exact ⟨rfl, rfl⟩

/-- An adder changes nothing of its property but the adder. -/
theorem Attachment.result_eq (a : Attachment) :
    a.result.name = a.property.name ∧ a.result.valueType = a.property.valueType ∧
      a.result.elementType = a.property.elementType ∧
      a.result.accessors.getter = a.property.accessors.getter ∧
      a.result.accessors.setter = a.property.accessors.setter := by
  unfold Attachment.result
  split <;> exact ⟨rfl, rfl, rfl, rfl, rfl⟩

/-- Adders are attached to all properties in turn. -/
theorem attachAdders_properties (i : Inflector) (ps : List Property) (adders : List AccessorUse) :
    (attachAdders i ps adders).1.map Attachment.property = ps := by
  induction ps generalizing adders with
  | nil => rfl
  | cons p rest ih =>
    unfold attachAdders
    split <;> simp only [List.map_cons, ih]

theorem property_mem_of_attached {a : Attachment} (mem : a ∈ (attachAdders i ps adders).1) :
    a.property ∈ ps := by
  rw [← attachAdders_properties i ps adders]
  exact List.mem_map_of_mem mem

theorem attached_names (i : Inflector) (ps : List Property) (adders : List AccessorUse) :
    ((attachAdders i ps adders).1.map (·.result)).map Property.name = ps.map Property.name := by
  conv => rhs; rw [← attachAdders_properties i ps adders]
  rw [List.map_map, List.map_map]
  exact List.map_congr_left fun a _ => a.result_eq.1

/-- An adder that finds no collection makes a property of a free name. -/
theorem nodup_adoptAdders (h : (ps.map Property.name).Nodup) :
    ((adoptAdders ps adders).map Property.name).Nodup := by
  induction adders generalizing ps with
  | nil => exact h
  | cons a rest ih =>
    unfold adoptAdders
    split
    · exact ih h
    · rename_i free
      refine ih ?_
      rw [List.map_append]
      refine List.nodup_append.mpr ⟨h, List.nodup_singleton _, fun x hx y hy same => free ?_⟩
      obtain ⟨p, hp, rfl⟩ := List.mem_map.mp hx
      have own : p.name = a.name := same.trans (List.mem_singleton.mp hy)
      exact List.any_eq_true.mpr ⟨p, hp, beq_iff_eq.mpr own⟩

theorem mem_adoptAdders (h : p ∈ adoptAdders ps adders) : p ∈ ps ∨ ∃ a, p = adderProperty a := by
  induction adders generalizing ps with
  | nil => exact Or.inl h
  | cons a rest ih =>
    unfold adoptAdders at h
    split at h
    · exact ih h
    · rcases ih h with mem | adopted
      · rcases List.mem_append.mp mem with mem | mem
        · exact Or.inl mem
        · exact Or.inr ⟨a, List.mem_singleton.mp mem⟩
      · exact Or.inr adopted

/-- The shape of a description is sound. -/
theorem sound_describedShape (i : Inflector) (d : TypeDescriptor) : (describedShape i d).Sound := by
  unfold describedShape
  by_cases bean : d.isBean = true
  · rw [if_pos bean]
    refine ⟨?_, fun p mem readable => ?_⟩
    · refine nodup_adoptAdders ?_
      rw [attached_names]
      have named : ∀ name p, property? (usesOf d) name = some p → p.name = id name :=
        fun name p found => (property?_eq_some found).1
      have names := sublist_filterMap named (propertyNames (usesOf d))
      rw [List.map_id] at names
      exact names.nodup (nodup_eraseDups _)
    · rcases mem_adoptAdders mem with mem | ⟨a, rfl⟩
      · obtain ⟨a, ha, rfl⟩ := List.mem_map.mp mem
        obtain ⟨-, valueType_eq, elementType_eq, -⟩ := a.result_eq
        obtain ⟨name, -, found⟩ := List.mem_filterMap.mp (property_mem_of_attached ha)
        rw [elementType_eq, valueType_eq]
        exact (property?_eq_some found).2
      · exact absurd readable Bool.false_ne_true
  · rw [if_neg bean]
    exact ⟨List.nodup_nil, fun p mem => absurd mem List.not_mem_nil⟩

variable {r : Registry} {t : TypeName} {s : BeanShape} {c : ShapeCache}

/-- **Every shape is sound.** -/
theorem sound_of_shapeOf (h : shapeOf r i t = .ok s) : s.Sound := by
  unfold shapeOf at h
  split at h
  · obtain rfl := Except.ok.inj h
    exact sound_describedShape i _
  · split at h
    · obtain rfl := Except.ok.inj h
      exact ⟨List.nodup_nil, fun p mem => absurd mem List.not_mem_nil⟩
    · cases h

theorem typeName_of_shapeOf (h : shapeOf r i t = .ok s) : s.typeName = t := by
  unfold shapeOf at h
  split at h
  · rename_i d described
    obtain rfl := Except.ok.inj h
    exact Registry.name_of_describe described
  · split at h
    · obtain rfl := Except.ok.inj h
      rfl
    · cases h

/-- The shape of a described bean has the properties of its description. -/
theorem shapeOf_of_describe (h : r.describe t = some d) :
    shapeOf r i t = .ok (describedShape i d) := by
  unfold shapeOf
  rw [h]

/-- Only a bean has properties. -/
theorem properties_eq_nil (h : shapeOf r i t = .ok s) (other : r.isBean t = false) :
    s.properties = [] := by
  unfold shapeOf at h
  split at h
  · rename_i d described
    obtain rfl := Except.ok.inj h
    have plain : d.isBean = false := by
      unfold Registry.isBean at other
      rw [described] at other
      exact other
    unfold describedShape
    rw [plain]
    rfl
  · split at h
    · obtain rfl := Except.ok.inj h
      rfl
    · cases h

end Introspection

end BeanMapping
