import BeanMapping.Conversion.Rule
import BeanMapping.Proofs.IntrospectedShapes
import BeanMapping.Proofs.Verification
import BeanMapping.Resolution

/-!
# Types with their members in another order

Two registries with the same types, of which the descriptions list their members in another order
(`Registry.Reordered`). Only beans without adders are reordered, in which a property has one member for
each role: an adder would go to the collection that comes first, and of two getters the first one counts.

Nothing that looks at kinds and supertypes can tell the two registries apart, and the properties of a bean
are the same in another order.

Results:
* **`Registry.Reordered.route_eq`**, **`Registry.Reordered.targetType_eq`**: conversions and hints;
* **`Registry.Reordered.unchecked_iff`**, **`Registry.Reordered.covered_iff`**: failures;
* **`Registry.Reordered.shapeOf`**: shapes.
-/

namespace BeanMapping

open Introspection (usesOf addersOf draftsOf propertiesOf describedShape firstUse? propertyNames property?)

/-! ## Descriptions -/

/-- Each property of the bean has one member for each role, and none has an adder. -/
structure TypeDescriptor.Unambiguous (d : TypeDescriptor) : Prop where
  bean : d.isBean = true
  unique : ((usesOf d).map fun u => (u.role, u.name)).Nodup
  no_adders : addersOf d = []

/-- **Two descriptions are the same but for the order of their members**, which only an unambiguous one may
have changed. -/
structure TypeDescriptor.SameButOrder (d d' : TypeDescriptor) : Prop where
  name_eq : d.name = d'.name
  kind_eq : d.kind = d'.kind
  supertypes_eq : d.supertypes = d'.supertypes
  members : d.members.Perm d'.members
  plain : d = d' ∨ d.Unambiguous

namespace TypeDescriptor

variable {d d' : TypeDescriptor}

instance : Decidable d.Unambiguous :=
  decidable_of_iff (d.isBean = true ∧ ((usesOf d).map fun u => (u.role, u.name)).Nodup ∧ addersOf d = [])
    ⟨fun ⟨bean, unique, no_adders⟩ => ⟨bean, unique, no_adders⟩,
      fun ⟨bean, unique, no_adders⟩ => ⟨bean, unique, no_adders⟩⟩

instance : Decidable (d.SameButOrder d') :=
  decidable_of_iff (d.name = d'.name ∧ d.kind = d'.kind ∧ d.supertypes = d'.supertypes ∧
      d.members.Perm d'.members ∧ (d = d' ∨ d.Unambiguous))
    ⟨fun ⟨name, kind, supertypes, members, plain⟩ => ⟨name, kind, supertypes, members, plain⟩,
      fun ⟨name, kind, supertypes, members, plain⟩ => ⟨name, kind, supertypes, members, plain⟩⟩

theorem SameButOrder.uses (h : d.SameButOrder d') : (usesOf d).Perm (usesOf d') :=
  h.members.filterMap _

theorem SameButOrder.isBean_eq (h : d.SameButOrder d') : d.isBean = d'.isBean := by
  unfold isBean
  rw [h.kind_eq]

theorem SameButOrder.unambiguous (h : d.SameButOrder d') (plain : d.Unambiguous) : d'.Unambiguous := by
  refine ⟨h.isBean_eq ▸ plain.bean, (h.uses.map _).nodup_iff.mp plain.unique, ?_⟩
  have adders : (addersOf d).Perm (addersOf d') := h.uses.filter _
  rw [plain.no_adders] at adders
  exact adders.nil_eq.symm

theorem SameButOrder.symm (h : d.SameButOrder d') : d'.SameButOrder d :=
  ⟨h.name_eq.symm, h.kind_eq.symm, h.supertypes_eq.symm, h.members.symm,
    h.plain.imp Eq.symm h.unambiguous⟩

end TypeDescriptor

/-! ## Properties -/

namespace Introspection

variable {i : Inflector} {d d' : TypeDescriptor} {uses uses' : List AccessorUse}

/-- Where each property has one member for each role, the order of the members does not matter. -/
theorem firstUse?_perm (perm : uses.Perm uses') (unique : (uses.map fun u => (u.role, u.name)).Nodup)
    (role : AccessorRole) (name : String) : firstUse? uses role name = firstUse? uses' role name := by
  unfold firstUse?
  cases found : uses.find? fun u => u.role == role && u.name == name with
  | none =>
    refine (List.find?_eq_none.mpr fun u hu => ?_).symm
    exact List.find?_eq_none.mp found u (perm.mem_iff.mpr hu)
  | some u =>
    have test := List.find?_some found
    have mem := perm.mem_iff.mp (List.mem_of_find?_eq_some found)
    have some : (uses'.find? fun u => u.role == role && u.name == name).isSome = true :=
      List.find?_isSome.mpr ⟨u, mem, test⟩
    obtain ⟨w, other⟩ := Option.isSome_iff_exists.mp some
    have test' := List.find?_some other
    simp only [Bool.and_eq_true, beq_iff_eq] at test test'
    have key : (u.role, u.name) = (w.role, w.name) :=
      Prod.ext (test.1.trans test'.1.symm) (test.2.trans test'.2.symm)
    have hw := perm.mem_iff.mpr (List.mem_of_find?_eq_some other)
    rw [other, List.inj_on_of_nodup_map unique (perm.mem_iff.mpr mem) hw key]

theorem propertyNames_perm (perm : uses.Perm uses') : (propertyNames uses).Perm (propertyNames uses') := by
  unfold propertyNames
  refine (List.perm_ext_iff_of_nodup (nodup_eraseDups _) (nodup_eraseDups _)).mpr fun name => ?_
  rw [List.mem_eraseDups, List.mem_eraseDups]
  exact ((perm.filter _).map _).mem_iff

/-- Without adders the properties of a bean are those of its getters and setters. -/
theorem propertiesOf_of_no_adders (h : addersOf d = []) : propertiesOf i d = draftsOf d := by
  have attached : ∀ ps : List Property, attachAdders i ps [] = (ps.map fun p => ⟨p, none⟩, []) := by
    intro ps
    induction ps with
    | nil => rfl
    | cons p rest ih =>
      have none : leastTier (fittingAdders i p []) = .none := rfl
      rw [attachAdders, none, List.map_cons]
      dsimp only
      rw [ih]
  unfold propertiesOf
  rw [h, attached]
  show ((draftsOf d).map fun p => (⟨p, none⟩ : Attachment)).map Attachment.result = draftsOf d
  rw [List.map_map]
  exact List.map_id _

/-- The properties of a bean whose members are reordered are reordered. -/
theorem properties_perm (same : d.SameButOrder d') (i : Inflector) :
    (describedShape i d).properties.Perm (describedShape i d').properties := by
  rcases same.plain with rfl | plain
  · exact List.Perm.refl _
  · have plain' := same.unambiguous plain
    unfold describedShape
    rw [if_pos plain.bean, if_pos plain'.bean]
    dsimp only
    rw [propertiesOf_of_no_adders plain.no_adders, propertiesOf_of_no_adders plain'.no_adders]
    have property : ∀ name, property? (usesOf d') name = property? (usesOf d) name := by
      intro name
      unfold property?
      rw [firstUse?_perm same.uses plain.unique, firstUse?_perm same.uses plain.unique]
    unfold draftsOf
    rw [funext property]
    exact (propertyNames_perm same.uses).filterMap _

end Introspection

/-! ## Registries -/

namespace Registry

open TypeDescriptor (SameButOrder)

/-- **Two registries are the same but for the order of members.** -/
def Reordered (r r' : Registry) : Prop := List.Forall₂ SameButOrder r.items r'.items

variable {r r' : Registry} {t u : TypeName} {i : Inflector}

instance : Decidable (r.Reordered r') :=
  inferInstanceAs (Decidable (List.Forall₂ SameButOrder r.items r'.items))

theorem Reordered.symm (h : r.Reordered r') : r'.Reordered r :=
  List.Forall₂.flip (List.Forall₂.imp (fun _ _ same => same.symm) h)

theorem Reordered.describe (h : r.Reordered r') (t : TypeName) :
    Option.Rel SameButOrder (r.describe t) (r'.describe t) := by
  refine find?_rel h fun d d' same => ?_
  rw [same.name_eq]

/-- What is the same of descriptions is the same of types. -/
theorem Reordered.bind_describe_eq {α : Type} (h : r.Reordered r') (t : TypeName)
    {f : TypeDescriptor → Option α} (same : ∀ d d', d.SameButOrder d' → f d = f d') :
    (r.describe t).bind f = (r'.describe t).bind f := by
  have described := h.describe t
  cases left : r.describe t <;> cases right : r'.describe t <;> rw [left, right] at described <;>
    cases described
  exact same _ _ ‹_›

theorem Reordered.isBean_eq (h : r.Reordered r') (t : TypeName) : r.isBean t = r'.isBean t := by
  have described := h.describe t
  unfold isBean
  cases left : r.describe t <;> cases right : r'.describe t <;> rw [left, right] at described <;>
    cases described
  rename_i same
  exact same.isBean_eq

theorem Reordered.parents_eq (h : r.Reordered r') : r.parents = r'.parents := by
  funext t
  have described := h.describe t
  unfold parents
  cases left : r.describe t <;> cases right : r'.describe t <;> rw [left, right] at described <;>
    cases described
  rename_i same
  exact same.supertypes_eq

theorem Reordered.leads_iff (h : r.Reordered r') : r.Leads t u ↔ r'.Leads t u := by
  unfold Leads Parent
  rw [h.parents_eq]

theorem Reordered.isAssignable_eq (h : r.Reordered r') (t u : TypeName) :
    r.isAssignable t u = r'.isAssignable t u := by
  rw [Bool.eq_iff_iff, isAssignable_iff, isAssignable_iff]
  exact h.leads_iff

/-! ### Conversions -/

theorem Reordered.builtin_eq (h : r.Reordered r') (source target : TypeName) :
    Builtin.find? r source target = Builtin.find? r' source target := by
  have variants : Builtin.variants? r = Builtin.variants? r' := by
    funext t
    refine h.bind_describe_eq t fun d d' same => ?_
    rw [same.kind_eq]
  unfold Builtin.find? Builtin.enum?
  rw [variants]

/-- **Values are converted by the same.** -/
theorem Reordered.route_eq (h : r.Reordered r') (book : RuleBook) (source target : TypeName) :
    Resolution.route r book source target = Resolution.route r' book source target := by
  have generic : book.generic? r source target = book.generic? r' source target := by
    unfold RuleBook.generic?
    simp only [h.isAssignable_eq]
  unfold Resolution.route
  rw [generic, h.builtin_eq]

/-- **Hints fit the same types.** -/
theorem Reordered.targetType_eq (h : r.Reordered r') (property : String) (declared : TypeName)
    (hint : Option TypeName) :
    Resolution.targetType r property declared hint = Resolution.targetType r' property declared hint := by
  unfold Resolution.targetType
  simp only [h.isAssignable_eq]

/-! ### Failures -/

/-- **The same failures are unchecked.** -/
theorem Reordered.unchecked_iff (h : r.Reordered r') (f : TypeName) :
    Contract.Unchecked r f ↔ Contract.Unchecked r' f := by
  have along : ∀ {r r' : Registry}, r.Reordered r' → Contract.Unchecked r f → Contract.Unchecked r' f := by
    rintro r r' h ⟨u, d, leads, described, kind⟩
    have same := h.describe u
    rw [described] at same
    cases other : r'.describe u with
    | none => rw [other] at same; cases same
    | some d' =>
      rw [other] at same
      have kind_eq : d.kind = d'.kind := by cases same; exact SameButOrder.kind_eq ‹_›
      exact ⟨u, d', h.leads_iff.mp leads, other, kind_eq ▸ kind⟩
  exact ⟨along h, along h.symm⟩

/-- **The same failures are covered.** -/
theorem Reordered.covered_iff (h : r.Reordered r') (f : TypeName) (declared : List TypeName) :
    Contract.Covered r f declared ↔ Contract.Covered r' f declared := by
  rw [Contract.covered_iff_leads, Contract.covered_iff_leads]
  exact exists_congr fun d => and_congr_right fun _ => h.leads_iff

/-! ### Shapes -/

/-- **A type has its properties in another order**, and in the same order where its description is the
same. -/
theorem Reordered.shapeOf (h : r.Reordered r') {s : BeanShape} (shape : Introspection.shapeOf r i t = .ok s) :
    ∃ s', Introspection.shapeOf r' i t = .ok s' ∧ s.properties.Perm s'.properties ∧
      (r.describe t = r'.describe t → s = s') := by
  have described := h.describe t
  unfold Introspection.shapeOf at shape ⊢
  cases left : r.describe t <;> cases right : r'.describe t <;> rw [left, right] at described <;>
    cases described
  · rw [left] at shape
    exact ⟨s, shape, List.Perm.refl _, fun _ => rfl⟩
  · rename_i same
    rw [left] at shape
    obtain rfl := Except.ok.inj shape
    refine ⟨_, rfl, Introspection.properties_perm same i, fun eq => ?_⟩
    rw [Option.some.inj eq]

end Registry

end BeanMapping
