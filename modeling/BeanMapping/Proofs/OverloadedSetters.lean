import BeanMapping.Proofs.MemberOrigins

/-!
# Overloaded setters

A description may have several setters for one property, which differ in what they take. The first of them is
the only one that a property looks at, and its type is compared once all members are read, so neither the number
of the getters nor their places among the setters matter.

Results:
* **`setter_iff_first_takes`**: a property that is read has the first setter of its name if that takes what the
  first getter returns, and otherwise no setter;
* **`usable_setter_is_lost`**: a setter that takes it does not help behind one that does not.
-/

namespace BeanMapping

/-- The member stands for the property in the role. -/
def MemberDescriptor.IsFor (m : MemberDescriptor) (role : AccessorRole) (name : String) : Prop :=
  ∃ u, m.use? = some u ∧ u.role = role ∧ u.name = name

/-- What a member makes that stands for a property has the type of its role. -/
theorem MemberDescriptor.IsFor.accessor_eq {m : MemberDescriptor} {role : AccessorRole} {name : String}
    {u : AccessorUse} (h : m.IsFor role name) (used : m.use? = some u) :
    u.accessor = ⟨m.name, m.failures⟩ ∧ m.typeFor? role = some u.type := by
  obtain ⟨u', used', rfl, -⟩ := h
  obtain rfl := Option.some.inj (used'.symm.trans used)
  exact use?_eq_some used

namespace Introspection

variable {i : Inflector} {d : TypeDescriptor} {p : Property} {uses : List AccessorUse} {role : AccessorRole}
  {name : String} {a : Accessor} {u g : AccessorUse}

/-! ## First members -/

/-- The member at a place is the first that stands for the property in the role. -/
structure First (d : TypeDescriptor) (role : AccessorRole) (name : String) (n : Nat) (m : MemberDescriptor) :
    Prop where
  there : d.members[n]? = some m
  isFor : m.IsFor role name
  first : ∀ n' < n, ∀ m', d.members[n']? = some m' → ¬ m'.IsFor role name

theorem any_use?_iff {m : MemberDescriptor} :
    (m.use?.any fun u => u.role == role && u.name == name) = true ↔ m.IsFor role name := by
  unfold MemberDescriptor.IsFor
  rw [Option.any_eq_true]
  simp only [Bool.and_eq_true, beq_iff_eq]

/-- The first accessor of a property in a role is what its first member makes. -/
theorem firstUse?_eq_some_iff :
    firstUse? (usesOf d) role name = some u ↔ ∃ n m, First d role name n m ∧ m.use? = some u := by
  unfold firstUse? usesOf
  rw [List.find?_filterMap, Option.bind_eq_some_iff]
  constructor
  · rintro ⟨m, found, used⟩
    obtain ⟨isFor, n, lt, rfl, before⟩ := List.find?_eq_some_iff_getElem.mp found
    refine ⟨n, _, ⟨List.getElem?_eq_getElem lt, any_use?_iff.mp isFor, fun n' less m' there other => ?_⟩, used⟩
    obtain ⟨lt', rfl⟩ := List.getElem?_eq_some_iff.mp there
    have not_for := before n' less
    rw [any_use?_iff.mpr other] at not_for
    cases not_for
  · rintro ⟨n, m, first, used⟩
    obtain ⟨lt, rfl⟩ := List.getElem?_eq_some_iff.mp first.there
    refine ⟨_, List.find?_eq_some_iff_getElem.mpr ⟨any_use?_iff.mpr first.isFor, n, lt, rfl,
      fun n' less => ?_⟩, used⟩
    have there := List.getElem?_eq_getElem (Nat.lt_trans less lt)
    rw [Bool.not_eq_true', Bool.eq_false_iff]
    exact fun other => first.first n' less _ there (any_use?_iff.mp other)

/-- The first accessor has the type and the name of the first member. -/
theorem exists_firstUse?_iff {t : TypeName} :
    (∃ u, firstUse? (usesOf d) role name = some u ∧ u.type = t ∧ u.accessor = a) ↔
      ∃ n m, First d role name n m ∧ m.typeFor? role = some t ∧ a = ⟨m.name, m.failures⟩ := by
  constructor
  · rintro ⟨u, found, rfl, rfl⟩
    obtain ⟨n, m, first, used⟩ := firstUse?_eq_some_iff.mp found
    obtain ⟨accessor_eq, type_eq⟩ := first.isFor.accessor_eq used
    exact ⟨n, m, first, type_eq, accessor_eq⟩
  · rintro ⟨n, m, first, type_eq, rfl⟩
    obtain ⟨u, used, -⟩ := first.isFor
    obtain ⟨accessor_eq, type_eq'⟩ := first.isFor.accessor_eq used
    exact ⟨u, firstUse?_eq_some_iff.mpr ⟨n, m, first, used⟩, Option.some.inj (type_eq'.symm.trans type_eq),
      accessor_eq⟩

/-! ## Setters of properties -/

/-- A property that is read has the first getter of its name, and the type of that. -/
theorem getter_of_property? (h : property? uses name = some p) (read : p.accessors.getter ≠ none) :
    ∃ g, firstUse? uses .getter name = some g ∧ g.type = p.valueType ∧ p.accessors.getter = some g.accessor := by
  obtain ⟨type, getter, setter, rfl, -, get, -⟩ := property?_cases h
  cases getter with
  | none => exact absurd rfl read
  | some g =>
    obtain ⟨found, rfl⟩ := get g rfl
    exact ⟨g, found, rfl, rfl⟩

/-- A property that is read keeps the first setter of its name if that has the type of the first getter. -/
theorem setter_of_property? (h : property? uses name = some p) (getter : firstUse? uses .getter name = some g) :
    p.accessors.setter = some a ↔
      ∃ s, firstUse? uses .setter name = some s ∧ s.type = g.type ∧ s.accessor = a := by
  unfold property? at h
  rw [getter] at h
  cases setter : firstUse? uses .setter name with
  | none =>
    rw [setter] at h
    obtain rfl := Option.some.inj h
    constructor
    · rintro ⟨⟩
    · rintro ⟨s, ⟨⟩, -⟩
  | some s =>
    rw [setter] at h
    obtain rfl := Option.some.inj h
    split
    · rename_i same
      constructor
      · rintro ⟨⟩
        exact ⟨s, rfl, same.symm, rfl⟩
      · rintro ⟨_, ⟨⟩, -, rfl⟩
        rfl
    · rename_i other
      constructor
      · rintro ⟨⟩
      · rintro ⟨_, ⟨⟩, same, -⟩
        exact absurd same.symm other

/-- A property of a bean that is read has the accessors that the first ones of its name give it. -/
theorem exists_property?_of_read (mem : p ∈ propertiesOf i d) (read : p.accessors.getter ≠ none) :
    ∃ p', property? (usesOf d) p.name = some p' ∧ p.valueType = p'.valueType ∧
      p.accessors.getter = p'.accessors.getter ∧ p.accessors.setter = p'.accessors.setter := by
  rcases mem_adoptAdders mem with mem | ⟨a, rfl⟩
  · obtain ⟨a, attached, rfl⟩ := List.mem_map.mp mem
    obtain ⟨name, -, made⟩ := List.mem_filterMap.mp (property_mem_of_attached attached)
    obtain ⟨name_eq, type_eq, -, getter_eq, setter_eq⟩ := a.result_eq
    obtain ⟨rfl, -⟩ := property?_eq_some made
    exact ⟨a.property, name_eq ▸ made, type_eq, getter_eq, setter_eq⟩
  · exact absurd rfl read

/-- **A property has the first setter or none.** A property that is read has the first getter of its name, and a
setter just when the first setter of its name takes what that getter returns; it then has this setter. -/
theorem setter_iff_first_takes (i : Inflector) (d : TypeDescriptor) (p : Property)
    (mem : p ∈ (describedShape i d).properties) (read : p.accessors.getter ≠ none) :
    ∃ n g, First d .getter p.name n g ∧ p.accessors.getter = some ⟨g.name, g.failures⟩ ∧
      g.returns = some p.valueType ∧
      ∀ a, p.accessors.setter = some a ↔
        ∃ n' s, First d .setter p.name n' s ∧ s.parameter = g.returns ∧ a = ⟨s.name, s.failures⟩ := by
  have bean : d.isBean = true := by
    by_contra other
    rw [describedShape, if_neg other] at mem
    exact List.not_mem_nil mem
  rw [describedShape, if_pos bean] at mem
  obtain ⟨p', made, type_eq, getter_eq, setter_eq⟩ := exists_property?_of_read mem read
  obtain ⟨u, getter, used_type, used⟩ := getter_of_property? made (getter_eq ▸ read)
  obtain ⟨n, g, first, returns, accessor_eq⟩ := exists_firstUse?_iff.mp ⟨u, getter, rfl, rfl⟩
  rw [type_eq, getter_eq, setter_eq, ← used_type, used, accessor_eq]
  refine ⟨n, g, first, rfl, returns, fun a => ?_⟩
  rw [setter_of_property? made getter, exists_firstUse?_iff]
  -- What the first setter takes is compared with what the first getter returns.
  rw [show g.returns = some u.type from returns]
  rfl

/-! ### Accounts -/

/-- An account: its setters of numbers stand on both sides of the getter of a number, its second getter returns a
text, and a setter of a text comes last. -/
def account : TypeDescriptor where
  name := ⟨"Account"⟩
  kind := .bean
  members := [{ name := "setBalance", parameter := some ⟨"i64"⟩, failures := [⟨"Overdraft"⟩] },
    .getter "getBalance" ⟨"i64"⟩, .writer "set_balance" ⟨"i64"⟩, .getter "balance" ⟨"String"⟩,
    .writer "setBalance" ⟨"String"⟩]

/-- The balance of an account, with the setter of a number that may overdraw. -/
def balance : Property :=
  ⟨"balance", ⟨"i64"⟩, none, { getter := some ⟨"getBalance", []⟩, setter := some ⟨"setBalance", [⟨"Overdraft"⟩]⟩ }⟩

/-- The balance has the first of its setters. -/
theorem setter_iff_first_takes_of_account :
    balance ∈ (describedShape ⟨.ofList []⟩ account).properties ∧ balance.accessors.getter ≠ none ∧
      ∃ n g, First account .getter "balance" n g ∧ g.returns = some ⟨"i64"⟩ ∧
        ∃ n' s, First account .setter "balance" n' s ∧ s.parameter = g.returns ∧
          (⟨"setBalance", [⟨"Overdraft"⟩]⟩ : Accessor) = ⟨s.name, s.failures⟩ := by
  have mem : balance ∈ (describedShape ⟨.ofList []⟩ account).properties := by decide +kernel
  have read : balance.accessors.getter ≠ none := by decide
  obtain ⟨n, g, first, -, returns, setter_iff⟩ := setter_iff_first_takes ⟨.ofList []⟩ account balance mem read
  exact ⟨mem, read, n, g, first, returns, (setter_iff _).mp rfl⟩

/-- A person whose name may be set to a number, or else to a text as it is read. -/
def person : TypeDescriptor where
  name := ⟨"Person"⟩
  kind := .bean
  members := [.getter "getName" ⟨"String"⟩, .writer "setName" ⟨"i32"⟩, .writer "setName" ⟨"String"⟩]

/-- **A usable setter is lost.** The name of a person has no setter, though one takes what its getter returns. -/
theorem usable_setter_is_lost :
    person.isBean = true ∧
      ∃ p ∈ (describedShape ⟨.ofList []⟩ person).properties, p.accessors.getter = some ⟨"getName", []⟩ ∧
        p.accessors.setter = none ∧
        ∃ m ∈ person.members, m.IsFor .setter p.name ∧ m.parameter = some p.valueType :=
  ⟨by decide, ⟨"name", ⟨"String"⟩, none, { getter := some ⟨"getName", []⟩ }⟩, by decide +kernel, rfl, rfl,
    .writer "setName" ⟨"String"⟩, by decide, ⟨⟨.setter, "name", ⟨"String"⟩, ⟨"setName", []⟩⟩, by decide +kernel,
      rfl, rfl⟩, rfl⟩

end Introspection

end BeanMapping
