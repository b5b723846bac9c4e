import BeanMapping.Proofs.IntrospectedShapes
import Mathlib.Data.List.Forall2
import Mathlib.Data.List.Perm.Basic
import Mathlib.Data.List.ReduceOption
import Mathlib.Data.List.Sigma

/-!
# Where accessors come from

Each accessor of a property is a member of the description, and no member is used twice. To tell two equal
members apart, the accessors of a description are looked at with the places of their members (`placedUses`).

A getter and a setter are the first of their property, so role and name lead back from the member to the one
property that has it. The adders are dealt out: each of them is given to a collection, or makes a property of
its own, or its name is taken (`attachAdders_deals`, `adoptAdders_deals`), and each once.

Result:
* **`shape_accounts_for_members`**: a shape says of each member no more than the member does, of none twice,
  and of each adder something, unless its name is taken.
-/

namespace BeanMapping

/-! ## Roles -/

/-- The accessor of a role. -/
def Accessors.get? (a : Accessors) : AccessorRole → Option Accessor
  | .getter => a.getter
  | .setter => a.setter
  | .adder => a.adder

/-- The type that a property has for a role: that of its value, or of its elements. -/
def Property.typeFor? (p : Property) : AccessorRole → Option TypeName
  | .getter | .setter => some p.valueType
  | .adder => p.elementType

/-- The type that a member has for a role: what it returns, or what it takes. -/
def MemberDescriptor.typeFor? (m : MemberDescriptor) : AccessorRole → Option TypeName
  | .getter => m.returns
  | .setter | .adder => m.parameter

/-- A member with a parameter is no getter. -/
theorem writerProperty?_role {text name : String} {role : AccessorRole}
    (h : writerProperty? text = some (role, name)) : role = .setter ∨ role = .adder := by
  unfold writerProperty? at h
  split at h
  · exact Or.inl (Prod.mk.inj (Option.some.inj h)).1.symm
  · obtain ⟨_, -, same⟩ := Option.map_eq_some_iff.mp h
    exact Or.inr (Prod.mk.inj same).1.symm

/-- An accessor has the name, the failures and the type of its member. -/
theorem MemberDescriptor.use?_eq_some {m : MemberDescriptor} {u : AccessorUse} (h : m.use? = some u) :
    u.accessor = ⟨m.name, m.failures⟩ ∧ m.typeFor? u.role = some u.type := by
  unfold use? at h
  dsimp only at h
  split at h
  · rename_i returned
    obtain rfl := Option.some.inj h
    exact ⟨rfl, returned⟩
  · rename_i taken
    obtain ⟨⟨role, name⟩, written, rfl⟩ := Option.map_eq_some_iff.mp h
    rcases writerProperty?_role written with rfl | rfl <;> exact ⟨rfl, taken⟩
  · cases h

namespace Introspection

variable {i : Inflector} {d : TypeDescriptor} {p : Property} {ps : List Property}
  {placed : List (AccessorUse × Nat)} {role : AccessorRole} {name : String} {n : Nat} {u u' : AccessorUse}

/-! ## Accessors with their places -/

/-- The accessors of a description with the places of their members. -/
def placedUses (d : TypeDescriptor) : List (AccessorUse × Nat) :=
  d.members.zipIdx.filterMap fun m => m.1.use?.map (·, m.2)

theorem placedUses_fst (d : TypeDescriptor) : (placedUses d).map Prod.fst = usesOf d := by
  unfold placedUses usesOf
  conv => rhs; rw [← List.zipIdx_map_fst 0 d.members]
  rw [List.map_filterMap, List.filterMap_map]
  refine List.filterMap_congr fun m _ => ?_
  show (m.1.use?.map (·, m.2)).map Prod.fst = m.1.use?
  rw [Option.map_map]
  exact Option.map_id'

theorem mem_placedUses : (u, n) ∈ placedUses d ↔ ∃ m, d.members[n]? = some m ∧ m.use? = some u := by
  unfold placedUses
  rw [List.mem_filterMap]
  constructor
  · rintro ⟨⟨m, place⟩, mem, made⟩
    obtain ⟨u', used, same⟩ := Option.map_eq_some_iff.mp made
    obtain ⟨rfl, rfl⟩ := Prod.mk.inj same
    exact ⟨m, List.mem_zipIdx_iff_getElem?.mp mem, used⟩
  · rintro ⟨m, there, used⟩
    refine ⟨(m, n), List.mem_zipIdx_iff_getElem?.mpr there, ?_⟩
    rw [used]
    rfl

/-- No two accessors have one place. -/
theorem nodup_places (d : TypeDescriptor) : ((placedUses d).map Prod.snd).Nodup := by
  have ordered : ((placedUses d).map Prod.snd).Pairwise (· < ·) := by
    refine pairwise_places (fun m x made => ?_) d.members
    obtain ⟨_, -, rfl⟩ := Option.map_eq_some_iff.mp made
    rfl
  exact ordered.imp Nat.ne_of_lt

theorem use_eq_of_place (h : (u, n) ∈ placedUses d) (h' : (u', n) ∈ placedUses d) : u = u' :=
  congrArg Prod.fst (List.inj_on_of_nodup_map (nodup_places d) h h' rfl)

/-! ## Getters and setters -/

/-- The first accessor of a property in a role, with the place of its member. -/
def firstPlaced? (placed : List (AccessorUse × Nat)) (role : AccessorRole) (name : String) :
    Option (AccessorUse × Nat) :=
  placed.find? fun x => x.1.role == role && x.1.name == name

theorem firstUse?_placed (placed : List (AccessorUse × Nat)) (role : AccessorRole) (name : String) :
    firstUse? (placed.map Prod.fst) role name = (firstPlaced? placed role name).map Prod.fst :=
  List.find?_map

theorem firstPlaced?_eq_some {x : AccessorUse × Nat} (h : firstPlaced? placed role name = some x) :
    x ∈ placed ∧ x.1.role = role ∧ x.1.name = name := by
  have test := List.find?_some h
  rw [Bool.and_eq_true, beq_iff_eq, beq_iff_eq] at test
  exact ⟨List.mem_of_find?_eq_some h, test⟩

/-- A property has its getter and its setter from the first accessors of its name, of its own type. -/
def Drafted (placed : List (AccessorUse × Nat)) (p : Property) : Prop :=
  ∀ role a, role ≠ .adder → p.accessors.get? role = some a →
    ∃ x, firstPlaced? placed role p.name = some x ∧ x.1.accessor = a ∧ p.valueType = x.1.type

theorem drafted_of_property? (h : property? (placed.map Prod.fst) name = some p) : Drafted placed p := by
  have placedOf : ∀ role u, firstUse? (placed.map Prod.fst) role name = some u →
      ∃ x, firstPlaced? placed role name = some x ∧ x.1 = u := fun role u first =>
    Option.map_eq_some_iff.mp ((firstUse?_placed placed role name).symm.trans first)
  obtain ⟨type, getter, setter, rfl, -, get, set⟩ := property?_cases h
  intro role a other has
  cases role with
  | getter =>
    obtain ⟨u, hu, rfl⟩ := Option.map_eq_some_iff.mp has
    obtain ⟨first, type_eq⟩ := get u hu
    obtain ⟨x, found, rfl⟩ := placedOf _ _ first
    exact ⟨x, found, rfl, type_eq⟩
  | setter =>
    obtain ⟨u, hu, rfl⟩ := Option.map_eq_some_iff.mp has
    obtain ⟨first, type_eq⟩ := set u hu
    obtain ⟨x, found, rfl⟩ := placedOf _ _ first
    exact ⟨x, found, rfl, type_eq⟩
  | adder => exact absurd rfl other

/-! ## Adders -/

/-- What a collection is given: the adder of its elements, if any. -/
def HasAdder (p : Property) (slot : Option (AccessorUse × Nat)) : Prop :=
  p.accessors.adder = slot.map (·.1.accessor) ∧ ∀ x ∈ slot, p.elementType = some x.1.type

theorem mem_of_leastTier {α : Type} {l : List (Nat × α)} {x : Nat × α} (h : leastTier l = some x) :
    x ∈ l := by
  induction l with
  | nil => cases h
  | cons y l ih =>
    unfold leastTier at h
    split at h
    · exact Option.some.inj h ▸ List.mem_cons_self
    · rename_i z found
      split at h
      · exact List.mem_cons_of_mem _ (ih (found.trans h))
      · exact Option.some.inj h ▸ List.mem_cons_self

theorem leastTier_eq_none {α : Type} {l : List (Nat × α)} (h : leastTier l = none) : l = [] := by
  cases l with
  | nil => rfl
  | cons x l =>
    unfold leastTier at h
    split at h
    · cases h
    · split at h <;> cases h

theorem leastTier_le {α : Type} {l : List (Nat × α)} {x y : Nat × α} (h : leastTier l = some x) (mem : y ∈ l) :
    x.1 ≤ y.1 := by
  induction l generalizing x with
  | nil => cases h
  | cons z l ih =>
    unfold leastTier at h
    split at h
    · rename_i nothing
      rw [leastTier_eq_none nothing] at mem
      rw [← Option.some.inj h, List.mem_singleton.mp mem]
    · rename_i least found
      have later : y ∈ l → least.1 ≤ y.1 := ih found
      split at h <;> obtain rfl := Option.some.inj h <;>
        rcases List.mem_cons.mp mem with rfl | mem
      · rename_i less
        exact Nat.le_of_lt less
      · exact later mem
      · exact Nat.le_refl _
      · rename_i ge
        exact Nat.le_trans (Nat.le_of_not_lt ge) (later mem)

/-- An adder fits a collection at a tier: it takes the elements, and carries a singular of that tier. -/
structure Fits (i : Inflector) (p : Property) (u : AccessorUse) (tier : Nat) : Prop where
  takes : p.elementType = some u.type
  carries : i.tier? p.name u.name = some tier

theorem mem_fittingAdders {adders : List AccessorUse} {tier place : Nat} :
    (tier, place) ∈ fittingAdders i p adders ↔ ∃ a, adders[place]? = some a ∧ Fits i p a tier := by
  unfold fittingAdders
  rw [List.mem_filterMap]
  constructor
  · rintro ⟨⟨a, at_⟩, mem, made⟩
    dsimp only at made
    split at made
    · rename_i takes
      obtain ⟨_, carries, same⟩ := Option.map_eq_some_iff.mp made
      obtain ⟨rfl, rfl⟩ := Prod.mk.inj same
      exact ⟨a, List.mem_zipIdx_iff_getElem?.mp mem, takes, carries⟩
    · cases made
  · rintro ⟨a, there, fits⟩
    refine ⟨(a, place), List.mem_zipIdx_iff_getElem?.mpr there, ?_⟩
    dsimp only
    rw [if_pos fits.takes, fits.carries]
    rfl

/-- Whatever adder fits a collection, the collection is given one that is no less specific, unless a collection
before it is given that adder. -/
def Served (i : Inflector) (placed : List (AccessorUse × Nat)) (slots : List (Option (AccessorUse × Nat)))
    (k : Nat) (p : Property) : Prop :=
  ∀ x ∈ placed, ∀ tier, Fits i p x.1 tier →
    (∃ y tier', slots[k]? = some (some y) ∧ Fits i p y.1 tier' ∧ tier' ≤ tier) ∨
      ∃ j < k, slots[j]? = some (some x)

/-- A collection before a list of them, which takes what the list is not given. -/
theorem Served.cons {placed' : List (AccessorUse × Nat)} {slots : List (Option (AccessorUse × Nat))}
    {slot : Option (AccessorUse × Nat)} {k : Nat} (h : Served i placed' slots k p)
    (taken : ∀ x ∈ placed, some x = slot ∨ x ∈ placed') : Served i placed (slot :: slots) (k + 1) p := by
  intro x mem tier fits
  rcases taken x mem with rfl | mem
  · exact Or.inr ⟨0, Nat.succ_pos k, rfl⟩
  · rcases h x mem tier fits with served | ⟨j, lt, there⟩
    · exact Or.inl served
    · exact Or.inr ⟨j + 1, Nat.succ_lt_succ lt, there⟩

/-- A collection is served whatever comes after the list, and as a property of the same name and elements. -/
theorem Served.append {p' : Property} {slots : List (Option (AccessorUse × Nat))} {k : Nat}
    (h : Served i placed slots k p) (same : p'.name = p.name ∧ p'.elementType = p.elementType)
    (more : List (Option (AccessorUse × Nat))) : Served i placed (slots ++ more) k p' := by
  obtain ⟨name_eq, elements_eq⟩ := same
  have fits_iff : ∀ u tier, Fits i p' u tier ↔ Fits i p u tier := fun u tier =>
    ⟨fun fits => ⟨elements_eq ▸ fits.takes, name_eq ▸ fits.carries⟩,
      fun fits => ⟨elements_eq ▸ fits.takes, name_eq ▸ fits.carries⟩⟩
  have kept : ∀ {j x}, slots[j]? = some x → (slots ++ more)[j]? = some x := fun there => by
    obtain ⟨lt, -⟩ := List.getElem?_eq_some_iff.mp there
    rwa [List.getElem?_append_left lt]
  intro x mem tier fits
  rcases h x mem tier ((fits_iff _ _).mp fits) with ⟨y, tier', there, fits', le⟩ | ⟨j, lt, there⟩
  · exact Or.inl ⟨y, tier', kept there, (fits_iff _ _).mpr fits', le⟩
  · exact Or.inr ⟨j, lt, kept there⟩

/-- **The adders are dealt out to the collections**: each is given to one of them or is left over, and each
collection is served from what those before it left. -/
theorem attachAdders_deals (i : Inflector) (ps : List Property) (placed : List (AccessorUse × Nat))
    (plain : ∀ p ∈ ps, p.accessors.adder = none) :
    ∃ slots left, List.Forall₂ HasAdder ((attachAdders i ps (placed.map Prod.fst)).1.map (·.result)) slots ∧
      (attachAdders i ps (placed.map Prod.fst)).2 = left.map Prod.fst ∧
      (slots.reduceOption ++ left).Perm placed ∧
      ∀ k p, ps[k]? = some p → Served i placed slots k p := by
  induction ps generalizing placed with
  | nil => exact ⟨[], placed, .nil, rfl, .refl _, fun _ _ there => by cases there⟩
  | cons p rest ih =>
    obtain ⟨bare, plain⟩ := List.forall_mem_cons.mp plain
    have fitting : ∀ x ∈ placed, ∀ tier, Fits i p x.1 tier →
        ∃ place, (tier, place) ∈ fittingAdders i p (placed.map Prod.fst) := fun x mem tier fits => by
      obtain ⟨place, there⟩ := List.mem_iff_getElem?.mp (List.mem_map_of_mem (f := Prod.fst) mem)
      exact ⟨place, mem_fittingAdders.mpr ⟨x.1, there, fits⟩⟩
    unfold attachAdders
    split
    · rename_i nothing
      obtain ⟨slots, left, given, left_eq, perm, served⟩ := ih placed plain
      refine ⟨none :: slots, left, .cons ⟨bare, ?_⟩ given, left_eq, perm, fun k q there => ?_⟩
      · rintro _ ⟨⟩
      · cases k with
        | zero =>
          obtain rfl := Option.some.inj there
          intro x mem tier fits
          obtain ⟨place, found⟩ := fitting x mem tier fits
          rw [leastTier_eq_none nothing] at found
          exact absurd found List.not_mem_nil
        | succ k => exact (served k q there).cons fun x mem => Or.inr mem
    · rename_i tier place found
      obtain ⟨a, there, fits⟩ := mem_fittingAdders.mp (mem_of_leastTier found)
      rw [List.getElem?_map] at there
      obtain ⟨x, at_place, rfl⟩ := Option.map_eq_some_iff.mp there
      obtain ⟨slots, left, given, left_eq, perm, served⟩ := ih (placed.eraseIdx place) plain
      obtain ⟨lt, there⟩ := List.getElem?_eq_some_iff.mp at_place
      have taken : (x :: placed.eraseIdx place).Perm placed := there ▸ List.getElem_cons_eraseIdx_perm lt
      rw [List.eraseIdx_map, List.getElem?_map, at_place]
      refine ⟨some x :: slots, left, .cons ⟨rfl, ?_⟩ given, left_eq, (perm.cons _).trans taken,
        fun k q there => ?_⟩
      · rintro _ ⟨⟩
        exact fits.takes
      · cases k with
        | zero =>
          obtain rfl := Option.some.inj there
          intro y mem tier' fits'
          obtain ⟨place', found'⟩ := fitting y mem tier' fits'
          exact Or.inl ⟨x, tier, rfl, fits, leastTier_le found found'⟩
        | succ k =>
          refine (served k q there).cons fun y mem => ?_
          exact (List.mem_cons.mp (taken.mem_iff.mpr mem)).imp_left (congrArg some)

/-- **The adders that are left over** make a property each, unless their name is taken. -/
theorem adoptAdders_deals (ps : List Property) (left : List (AccessorUse × Nat)) :
    ∃ adopted taken : List (AccessorUse × Nat),
      adoptAdders ps (left.map Prod.fst) = ps ++ adopted.map (adderProperty ·.1) ∧
      (adopted ++ taken).Perm left ∧
      ∀ x ∈ taken, x.1.name ∈ (adoptAdders ps (left.map Prod.fst)).map Property.name := by
  induction left generalizing ps with
  | nil => exact ⟨[], [], (List.append_nil ps).symm, .refl _, fun _ mem => absurd mem List.not_mem_nil⟩
  | cons x rest ih =>
    rw [List.map_cons]
    unfold adoptAdders
    split
    · rename_i known
      obtain ⟨adopted, taken, adopts, perm, named⟩ := ih ps
      refine ⟨adopted, x :: taken, adopts, List.perm_middle.trans (perm.cons x),
        List.forall_mem_cons.mpr ⟨?_, named⟩⟩
      obtain ⟨p, hp, same⟩ := List.any_eq_true.mp known
      rw [adopts, List.map_append]
      exact List.mem_append_left _ (List.mem_map.mpr ⟨p, hp, beq_iff_eq.mp same⟩)
    · obtain ⟨adopted, taken, adopts, perm, named⟩ := ih (ps ++ [adderProperty x.1])
      refine ⟨x :: adopted, taken, ?_, perm.cons x, named⟩
      rw [adopts, List.append_assoc]
      rfl

/-! ## All properties of a description -/

/-- The properties of a description before adders are attached have none. -/
theorem adder_of_mem_draftsOf (mem : p ∈ draftsOf d) : p.accessors.adder = none := by
  obtain ⟨name, -, made⟩ := List.mem_filterMap.mp mem
  obtain ⟨type, getter, setter, rfl, -⟩ := property?_cases made
  rfl

theorem drafted_of_mem_draftsOf (mem : p ∈ draftsOf d) : Drafted (placedUses d) p := by
  obtain ⟨name, -, made⟩ := List.mem_filterMap.mp mem
  rw [← placedUses_fst] at made
  exact drafted_of_property? made

/-- An adder changes neither the getter nor the setter of its property. -/
theorem Attachment.drafted {a : Attachment} (h : Drafted placed a.property) : Drafted placed a.result := by
  intro role accessor other has
  obtain ⟨name_eq, type_eq, -, -⟩ := a.result_eq
  rw [name_eq, type_eq]
  refine h role accessor other ?_
  unfold Attachment.result at has
  split at has
  · exact has
  · cases role with
    | adder => exact absurd rfl other
    | getter => exact has
    | setter => exact has

/-- The properties of a description have their getters and setters from the first accessors of their
names. -/
theorem drafted_of_mem_propertiesOf (mem : p ∈ propertiesOf i d) : Drafted (placedUses d) p := by
  rcases mem_adoptAdders mem with mem | ⟨a, rfl⟩
  · obtain ⟨a, ha, rfl⟩ := List.mem_map.mp mem
    exact Attachment.drafted (drafted_of_mem_draftsOf (property_mem_of_attached ha))
  · intro role accessor other has
    cases role with
    | adder => exact absurd rfl other
    | getter => cases has
    | setter => cases has

/-- A property that adders are attached to is read or set. -/
theorem accessed_of_attached {a : Attachment} {adders : List AccessorUse}
    (mem : a ∈ (attachAdders i (draftsOf d) adders).1) :
    a.result.accessors.getter ≠ none ∨ a.result.accessors.setter ≠ none := by
  obtain ⟨name, -, made⟩ := List.mem_filterMap.mp (property_mem_of_attached mem)
  obtain ⟨type, getter, setter, draft_eq, accessed, -⟩ := property?_cases made
  obtain ⟨-, -, -, getter_eq, setter_eq⟩ := a.result_eq
  rw [getter_eq, setter_eq, draft_eq]
  exact accessed.imp (mt Option.map_eq_none_iff.mp) (mt Option.map_eq_none_iff.mp)

/-- A property with neither getter nor setter is that of an adder alone. -/
theorem eq_adderProperty (mem : p ∈ propertiesOf i d) (unread : p.accessors.getter = none)
    (unset : p.accessors.setter = none) : ∃ a, p = adderProperty a := by
  refine (mem_adoptAdders mem).resolve_left fun mem => ?_
  obtain ⟨a, ha, rfl⟩ := List.mem_map.mp mem
  rcases accessed_of_attached ha with read | written
  · exact read unread
  · exact written unset

/-- The adders of a description with the places of their members. -/
def placedAdders (d : TypeDescriptor) : List (AccessorUse × Nat) :=
  (placedUses d).filter (·.1.role == .adder)

theorem placedAdders_fst (d : TypeDescriptor) : (placedAdders d).map Prod.fst = addersOf d := by
  unfold addersOf placedAdders
  rw [← placedUses_fst, List.filter_map]
  rfl

/-- **Each adder of a description** is that of one property, or its name is taken; and each property is read or
set, and served from what those before it left, or it is what its adder makes of its own. -/
theorem propertiesOf_serves (i : Inflector) (d : TypeDescriptor) :
    ∃ slots taken, List.Forall₂ HasAdder (propertiesOf i d) slots ∧
      (slots.reduceOption ++ taken).Perm (placedAdders d) ∧
      (∀ x ∈ taken, x.1.name ∈ (propertiesOf i d).map Property.name) ∧
      ∀ k p, (propertiesOf i d)[k]? = some p →
        (p.accessors.getter ≠ none ∨ p.accessors.setter ≠ none) ∧ Served i (placedAdders d) slots k p ∨
          ∃ x, slots[k]? = some (some x) ∧ p = adderProperty x.1 := by
  obtain ⟨slots, left, given, left_eq, perm, served⟩ :=
    attachAdders_deals i (draftsOf d) (placedAdders d) fun _ => adder_of_mem_draftsOf
  obtain ⟨adopted, taken, adopts, perm', named⟩ := adoptAdders_deals
    ((attachAdders i (draftsOf d) (addersOf d)).1.map (·.result)) left
  have properties_eq : propertiesOf i d = adoptAdders
      ((attachAdders i (draftsOf d) (addersOf d)).1.map (·.result)) (left.map Prod.fst) := by
    rw [← left_eq, placedAdders_fst]
    rfl
  rw [placedAdders_fst] at given
  rw [properties_eq]
  refine ⟨slots ++ adopted.map some, taken, ?_, ?_, named, fun k p there => ?_⟩
  · rw [adopts]
    refine List.rel_append given (List.forall₂_map_left_iff.mpr (List.forall₂_map_right_iff.mpr ?_))
    refine List.forall₂_same.mpr fun x _ => ⟨rfl, ?_⟩
    rintro _ ⟨⟩
    rfl
  · have all : (adopted.map some).reduceOption = adopted := by
      rw [List.reduceOption, List.filterMap_map]
      exact List.filterMap_some
    rw [List.reduceOption_append, all, List.append_assoc]
    exact (perm'.append_left _).trans perm
  · rw [adopts] at there
    have length_eq := given.length_eq
    rcases Nat.lt_or_ge k ((attachAdders i (draftsOf d) (addersOf d)).1.map (·.result)).length with lt | ge
    · rw [List.getElem?_append_left lt, List.getElem?_map] at there
      obtain ⟨a, attached, rfl⟩ := Option.map_eq_some_iff.mp there
      have drafted : (draftsOf d)[k]? = some a.property := by
        rw [← attachAdders_properties i (draftsOf d) (addersOf d), List.getElem?_map, attached]
        rfl
      obtain ⟨name_eq, -, elements_eq, -⟩ := a.result_eq
      exact Or.inl ⟨accessed_of_attached (List.mem_of_getElem? attached),
        (served k a.property drafted).append ⟨name_eq, elements_eq⟩ _⟩
    · rw [List.getElem?_append_right ge, length_eq, List.getElem?_map] at there
      obtain ⟨x, adder, rfl⟩ := Option.map_eq_some_iff.mp there
      refine Or.inr ⟨x, ?_, rfl⟩
      rw [List.getElem?_append_right (length_eq ▸ ge), List.getElem?_map, adder]
      rfl

/-- Each adder of a description is that of one property, or its name is taken. -/
theorem propertiesOf_deals (i : Inflector) (d : TypeDescriptor) :
    ∃ slots taken, List.Forall₂ HasAdder (propertiesOf i d) slots ∧
      (slots.reduceOption ++ taken).Perm (placedAdders d) ∧
      ∀ x ∈ taken, x.1.name ∈ (propertiesOf i d).map Property.name := by
  obtain ⟨slots, taken, given, dealt, named, -⟩ := propertiesOf_serves i d
  exact ⟨slots, taken, given, dealt, named⟩

/-! ## Origins -/

/-- Related lists are related at each place. -/
theorem forall₂_getElem? {α β : Type} {R : α → β → Prop} {l : List α} {l' : List β} (h : List.Forall₂ R l l')
    (k : Nat) : Option.Rel R l[k]? l'[k]? := by
  induction h generalizing k with
  | nil => exact .none
  | cons first _ ih =>
    cases k with
    | zero => exact .some first
    | succ k => exact ih k

/-- Where no item is in two slots, a slot with an item is at one place only. -/
theorem place_eq_of_slot {α : Type} {slots : List (Option α)} (nodup : slots.reduceOption.Nodup) {x : α}
    {k k' : Nat} (h : slots[k]? = some (some x)) (h' : slots[k']? = some (some x)) : k = k' := by
  have apart := List.pairwise_filterMap.mp nodup
  obtain ⟨lt, eq⟩ := List.getElem?_eq_some_iff.mp h
  obtain ⟨lt', eq'⟩ := List.getElem?_eq_some_iff.mp h'
  rcases Nat.lt_trichotomy k k' with less | same | more
  · exact absurd rfl (List.pairwise_iff_getElem.mp apart k k' lt lt' less x eq x eq')
  · exact same
  · exact absurd rfl (List.pairwise_iff_getElem.mp apart k' k lt' lt more x eq' x eq)

/-- What the property at a place has in a role: the adder in its slot, or the first getter or setter of its
name. -/
def originAt (placed : List (AccessorUse × Nat)) (ps : List Property) (slots : List (Option (AccessorUse × Nat)))
    (k : Nat) : AccessorRole → Option (AccessorUse × Nat)
  | .adder => slots[k]?.join
  | role => do
    let p ← ps[k]?
    let _ ← p.accessors.get? role
    firstPlaced? placed role p.name

variable {slots : List (Option (AccessorUse × Nat))} {k : Nat} {x : AccessorUse × Nat}

theorem originAt_adder_eq_some : originAt placed ps slots k .adder = some x ↔ slots[k]? = some (some x) :=
  Option.join_eq_some_iff

theorem originAt_eq_some (other : role ≠ .adder) :
    originAt placed ps slots k role = some x ↔ ∃ p a, ps[k]? = some p ∧ p.accessors.get? role = some a ∧
      firstPlaced? placed role p.name = some x := by
  have unfolded : originAt placed ps slots k role = (do
      let p ← ps[k]?
      let _ ← p.accessors.get? role
      firstPlaced? placed role p.name) := by
    cases role with
    | adder => exact absurd rfl other
    | getter => rfl
    | setter => rfl
  rw [unfolded]
  simp only [Option.bind_eq_bind, Option.bind_eq_some_iff, exists_and_left]

/-- A member serves a property in a role: it has the role, as a getter or a setter also the name, and the
property has its name, its failures and its type. -/
structure Serves (m : MemberDescriptor) (role : AccessorRole) (p : Property) : Prop where
  accessor_eq : p.accessors.get? role = some ⟨m.name, m.failures⟩
  type_eq : p.typeFor? role = m.typeFor? role
  use : ∃ u, m.use? = some u ∧ u.role = role ∧ (role ≠ .adder → u.name = p.name)

/-- What a place of the origins says: the accessor is a member of the description, and serves the property
there. -/
theorem originAt_spec (given : List.Forall₂ HasAdder ps slots)
    (adders : ∀ x ∈ slots.reduceOption, x ∈ placedAdders d) (drafted : ∀ p ∈ ps, Drafted (placedUses d) p)
    (h : originAt (placedUses d) ps slots k role = some x) :
    x ∈ placedUses d ∧ x.1.role = role ∧ ∃ p, ps[k]? = some p ∧ p.accessors.get? role = some x.1.accessor ∧
      p.typeFor? role = some x.1.type ∧ (role ≠ .adder → x.1.name = p.name) := by
  by_cases adder : role = .adder
  · subst adder
    have slot := originAt_adder_eq_some.mp h
    have mem := adders x (List.reduceOption_mem_iff.mpr (List.mem_of_getElem? slot))
    obtain ⟨used, is_adder⟩ := List.mem_filter.mp mem
    have related := forall₂_getElem? given k
    rw [slot] at related
    cases there : ps[k]? with
    | none =>
      rw [there] at related
      cases related
    | some p =>
      rw [there] at related
      obtain ⟨accessor_eq, type_eq⟩ : HasAdder p (some x) := by
        cases related with
        | some has => exact has
      exact ⟨used, beq_iff_eq.mp is_adder, p, rfl, accessor_eq, type_eq x rfl, fun other => absurd rfl other⟩
  · obtain ⟨p, a, there, has, first⟩ := (originAt_eq_some adder).mp h
    obtain ⟨x', first', rfl, type_eq⟩ := drafted p (List.mem_of_getElem? there) role a adder has
    obtain rfl := Option.some.inj (first.symm.trans first')
    obtain ⟨mem, role_eq, name_eq⟩ := firstPlaced?_eq_some first
    refine ⟨mem, role_eq, p, there, has, ?_, fun _ => name_eq⟩
    cases role with
    | adder => exact absurd rfl adder
    | getter => exact congrArg some type_eq
    | setter => exact congrArg some type_eq

/-- Each accessor of a property has an origin. -/
theorem exists_originAt (given : List.Forall₂ HasAdder ps slots)
    (drafted : ∀ p ∈ ps, Drafted (placedUses d) p) (there : ps[k]? = some p) {a : Accessor}
    (has : p.accessors.get? role = some a) : ∃ x, originAt (placedUses d) ps slots k role = some x := by
  by_cases adder : role = .adder
  · subst adder
    have related := forall₂_getElem? given k
    rw [there] at related
    obtain ⟨slot, there', has'⟩ : ∃ slot, slots[k]? = some slot ∧ HasAdder p slot := by
      generalize slots[k]? = slot at related
      cases related with
      | some has => exact ⟨_, rfl, has⟩
    obtain ⟨x, rfl, -⟩ := Option.map_eq_some_iff.mp (has'.1.symm.trans has)
    exact ⟨x, originAt_adder_eq_some.mpr there'⟩
  · obtain ⟨x, first, -⟩ := drafted p (List.mem_of_getElem? there) role a adder has
    exact ⟨x, (originAt_eq_some adder).mpr ⟨p, a, there, has, first⟩⟩

/-- The members from which the accessors of properties come: for each property and role the place of a member
of the description. -/
structure Origins (d : TypeDescriptor) (ps : List Property) (origin : Nat → AccessorRole → Option Nat) : Prop where
  /-- Every accessor comes from a member. -/
  present : ∀ k p role a, ps[k]? = some p → p.accessors.get? role = some a → (origin k role).isSome
  /-- The member has what the property says. -/
  serves : ∀ k role n, origin k role = some n →
    ∃ p m, ps[k]? = some p ∧ d.members[n]? = some m ∧ Serves m role p
  /-- No member is used twice. -/
  once : ∀ k role k' role' n, origin k role = some n → origin k' role' = some n → k = k' ∧ role = role'
  /-- An adder is that of one property, or its name is taken. -/
  adders : ∀ n m u, d.members[n]? = some m → m.use? = some u → u.role = .adder →
    (∃! k, origin k .adder = some n) ∨ u.name ∈ ps.map Property.name

/-- The places of what `originAt` gives are origins. -/
theorem origins_originAt {taken : List (AccessorUse × Nat)} (given : List.Forall₂ HasAdder ps slots)
    (dealt : (slots.reduceOption ++ taken).Perm (placedAdders d))
    (named : ∀ x ∈ taken, x.1.name ∈ ps.map Property.name)
    (drafted : ∀ p ∈ ps, Drafted (placedUses d) p) (nodup : (ps.map Property.name).Nodup) :
    Origins d ps fun k role => (originAt (placedUses d) ps slots k role).map Prod.snd := by
  have spec : ∀ {k role x}, originAt (placedUses d) ps slots k role = some x → _ := fun h =>
    originAt_spec given (fun x mem => dealt.subset (List.mem_append_left _ mem)) drafted h
  have apart : slots.reduceOption.Nodup :=
    have all : (placedAdders d).Nodup := (List.Nodup.of_map _ (nodup_places d)).filter _
    (dealt.nodup_iff.mpr all).of_append_left
  have once : ∀ k role k' role' n, (originAt (placedUses d) ps slots k role).map Prod.snd = some n →
      (originAt (placedUses d) ps slots k' role').map Prod.snd = some n → k = k' ∧ role = role' := by
    intro k role k' role' n first second
    obtain ⟨⟨u, n⟩, at_k, rfl⟩ := Option.map_eq_some_iff.mp first
    obtain ⟨⟨u', n'⟩, at_k', same⟩ := Option.map_eq_some_iff.mp second
    obtain rfl : n' = n := same
    obtain ⟨mem, role_eq, p, there, -, -, name_eq⟩ := spec at_k
    obtain ⟨mem', role_eq', p', there', -, -, name_eq'⟩ := spec at_k'
    obtain rfl := use_eq_of_place mem mem'
    obtain rfl : role = role' := role_eq.symm.trans role_eq'
    refine ⟨?_, rfl⟩
    by_cases adder : role = .adder
    · subst adder
      exact place_eq_of_slot apart (originAt_adder_eq_some.mp at_k) (originAt_adder_eq_some.mp at_k')
    · exact place_eq_of_key nodup there there' ((name_eq adder).symm.trans (name_eq' adder))
  refine ⟨fun k p role a there has => ?_, fun k role n h => ?_, once, fun n m u there used adder => ?_⟩
  · obtain ⟨x, found⟩ := exists_originAt given drafted there has
    rw [found]
    rfl
  · obtain ⟨⟨u, n⟩, at_k, rfl⟩ := Option.map_eq_some_iff.mp h
    obtain ⟨mem, role_eq, p, there, accessor_eq, type_eq, name_eq⟩ := spec at_k
    obtain ⟨m, member, used⟩ := mem_placedUses.mp mem
    obtain ⟨accessor, type⟩ := MemberDescriptor.use?_eq_some used
    subst role_eq
    exact ⟨p, m, there, member, accessor_eq.trans (congrArg some accessor), type_eq.trans type.symm,
      u, used, rfl, name_eq⟩
  · have mem : (u, n) ∈ placedAdders d :=
      List.mem_filter.mpr ⟨mem_placedUses.mpr ⟨m, there, used⟩, beq_iff_eq.mpr adder⟩
    rcases List.mem_append.mp (dealt.mem_iff.mpr mem) with kept | lost
    · obtain ⟨k, slot⟩ := List.mem_iff_getElem?.mp (List.reduceOption_mem_iff.mp kept)
      have at_k : (originAt (placedUses d) ps slots k .adder).map Prod.snd = some n := by
        rw [originAt_adder_eq_some.mpr slot]
        rfl
      exact Or.inl ⟨k, at_k, fun k' at_k' => (once _ _ _ _ _ at_k' at_k).1⟩
    · exact Or.inr (named _ lost)

/-- **A shape accounts for the members of its bean.** Its properties have a name each. Their accessors come
from members, none of them used twice, and have the names, the failures and the types of these; a property
with an adder alone is a vector of what that takes. Each adder is that of one property, or its name is a
property's. -/
theorem shape_accounts_for_members (i : Inflector) (d : TypeDescriptor) (bean : d.isBean = true) :
    ((describedShape i d).properties.map Property.name).Nodup ∧
      (∃ origin, Origins d (describedShape i d).properties origin) ∧
      ∀ p ∈ (describedShape i d).properties, p.accessors.getter = none → p.accessors.setter = none →
        ∃ type, p.elementType = some type ∧ p.valueType = .vecOf type := by
  have nodup := (sound_describedShape i d).nodup
  have properties_eq : (describedShape i d).properties = propertiesOf i d := if_pos bean
  rw [properties_eq] at nodup ⊢
  obtain ⟨slots, taken, given, dealt, named⟩ := propertiesOf_deals i d
  refine ⟨nodup, ⟨_, origins_originAt given dealt named (fun _ => drafted_of_mem_propertiesOf) nodup⟩,
    fun p mem unread unset => ?_⟩
  obtain ⟨a, rfl⟩ := eq_adderProperty mem unread unset
  exact ⟨a.type, rfl, rfl⟩

/-! ### A dentist -/

/-- A dentist, with a setter of another type than the getter's and with an adder for the name of the teeth
beside that for one tooth. -/
def dentist : TypeDescriptor where
  name := ⟨"Dentist"⟩
  kind := .bean
  members := [.getter "getTeeth" (.vecOf ⟨"Tooth"⟩), .getter "teeth" ⟨"i64"⟩, .writer "setTeeth" ⟨"String"⟩,
    .writer "addTeeth" ⟨"Tooth"⟩, { name := "addTooth", parameter := some ⟨"Tooth"⟩, failures := [⟨"Pain"⟩] },
    .writer "addDrill" ⟨"Drill"⟩]

/-- The teeth have the first getter and the adder of a tooth; the drills have an adder alone. -/
theorem shape_accounts_for_members_of_dentist :
    (describedShape ⟨.ofList []⟩ dentist).properties =
      [⟨"teeth", .vecOf ⟨"Tooth"⟩, some ⟨"Tooth"⟩,
          { getter := some ⟨"getTeeth", []⟩, adder := some ⟨"addTooth", [⟨"Pain"⟩]⟩ }⟩,
        ⟨"drill", .vecOf ⟨"Drill"⟩, some ⟨"Drill"⟩, { adder := some ⟨"addDrill", []⟩ }⟩] ∧
    dentist.isBean = true ∧
    ∃ origin, Origins dentist (describedShape ⟨.ofList []⟩ dentist).properties origin := by
  have bean : dentist.isBean = true := by decide
  obtain ⟨-, origins, -⟩ := shape_accounts_for_members ⟨.ofList []⟩ dentist bean
  exact ⟨by decide +kernel, bean, origins⟩

end Introspection

end BeanMapping
