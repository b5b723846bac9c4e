import BeanMapping.Config
import BeanMapping.Conversion.Rule
import BeanMapping.Method
import BeanMapping.Plan.Document
import BeanMapping.Proofs.JsonTexts
import BeanMapping.Shape

/-!
# Documents

What is written as a JSON value reads back as it was (`Lossless`). Lists, maps and options of what reads back
read back, and so does a record of such fields: each field is found under its name, which no other field has.
The records of the project are settled one by one from that, in the order in which they hold one another.

The kind of a type is written into the record of its description, a plain alternative as its name, any other
as an object of its name, and a plan into the conversion that embeds it. A plan is read down to the depth of
its value, by induction on the plan.

All but plans are also read back from their texts. How deep a text may be nested is up to its reader, and a
plan may be of any depth. The only number is the depth in a configuration, which has to fit into 64 bits.

Results:
* **`MappingPlan.lossless`**: plans of any depth read back;
* **`documents_are_lossless`**: so do all documents, and a configuration if it is valid.
-/

namespace BeanMapping

/-! ## Values that read back -/

namespace Json

variable {α : Type} {write : α → Json} {read : Json → Option α} {fields : List (String × Json)}
  {name : String} {a : α} {as : List α} {o : Option α}

/-- **What is written reads back.** It is never `null`, which stands for what is missing, and its numbers
are integers. -/
structure Lossless (write : α → Json) (read : Json → Option α) : Prop where
  reads : ∀ a, read (write a) = some a
  integral : ∀ a, (write a).Integral
  nonnull : ∀ a, write a ≠ .null

theorem listOf?_map (reads : ∀ a ∈ as, read (write a) = some a) :
    listOf? read (.arr (as.map write)) = some as := by
  unfold listOf? asItems?
  dsimp only [Option.bind_eq_bind, Option.bind_some]
  induction as with
  | nil => rfl
  | cons a as ih =>
    obtain ⟨first, others⟩ := List.forall_mem_cons.mp reads
    rw [List.map_cons, List.mapM_cons, first, ih others]
    rfl

theorem optionOf?_ofOption (reads : ∀ a, o = some a → read (write a) = some a)
    (nonnull : ∀ a, o = some a → write a ≠ .null) : optionOf? read (ofOption write o) = some o := by
  cases o with
  | none => rfl
  | some a =>
    have reads := reads a rfl
    have nonnull := nonnull a rfl
    rw [ofOption, optionOf?, reads]
    · rfl
    · exact nonnull

theorem required_of_found {v : Json} (found : field? fields name = some (some v)) :
    required read fields name = read v := by
  simp [required, found]

theorem defaulted_of_found {v : Json} {d : α} (found : field? fields name = some (some v)) :
    defaulted read d fields name = read v := by
  simp [defaulted, found]

theorem optional_of_found {v : Json} (found : field? fields name = some (some v)) :
    optional read fields name = optionOf? read v := by
  simp [optional, found]

theorem integral_ofOption (integral : ∀ a, o = some a → (write a).Integral) :
    (ofOption write o).Integral := by
  cases o with
  | none => exact .null
  | some a => exact integral a rfl

theorem integral_single {v : Json} (name : String) (h : v.Integral) : (Json.obj [(name, v)]).Integral :=
  .obj (List.forall_mem_singleton.mpr h)

namespace Lossless

/-- What is written reads back from its text. -/
theorem text (h : Lossless write read) (a : α) : (Json.read? (print (write a))).bind read = some a := by
  rw [read?_print (h.integral a), Option.bind_some, h.reads]

theorem list (h : Lossless write read) : Lossless (fun as => .arr (as.map write)) (listOf? read) where
  reads as := listOf?_map fun a _ => h.reads a
  integral as := .arr fun v hv => by
    obtain ⟨a, -, rfl⟩ := List.mem_map.mp hv
    exact h.integral a
  nonnull as := by simp

theorem required_eq (h : Lossless write read) (found : field? fields name = some (some (write a))) :
    required read fields name = some a := by
  rw [required_of_found found, h.reads]

theorem defaulted_eq (h : Lossless write read) {d : α}
    (found : field? fields name = some (some (write a))) : defaulted read d fields name = some a := by
  rw [defaulted_of_found found, h.reads]

theorem optional_eq (h : Lossless write read) (found : field? fields name = some (some (ofOption write o))) :
    optional read fields name = some o := by
  rw [optional_of_found found, optionOf?_ofOption (fun a _ => h.reads a) fun a _ => h.nonnull a]

theorem integral_option (h : Lossless write read) (o : Option α) : (ofOption write o).Integral :=
  integral_ofOption fun a _ => h.integral a

end Lossless

theorem lossless_text : Lossless .str asText? := ⟨fun _ => rfl, .str, by simp⟩

theorem lossless_bool : Lossless .bool asBool? := ⟨fun _ => rfl, .bool, by simp⟩

end Json

open Json

/-! ## Maps from names and lists with keys -/

namespace NameMap

variable {α : Type} {write : α → Json} {read : Json → Option α}

theorem insertEntry_of_greatest {name : String} {value : α} {entries : List (String × α)}
    (greatest : ∀ e ∈ entries, e.1 < name) : insertEntry name value entries = entries ++ [(name, value)] := by
  induction entries with
  | nil => rfl
  | cons e rest ih =>
    obtain ⟨first, others⟩ := List.forall_mem_cons.mp greatest
    rw [insertEntry, if_neg (String.lt_asymm first), if_pos first, ih others]
    rfl

/-- Entries in the order of their names are put in one after the other. -/
theorem entries_foldl_insert {entries : List (String × α)} (m : NameMap α)
    (ordered : (m.entries ++ entries).Pairwise fun a b => a.1 < b.1) :
    (entries.foldl (fun m e => m.insert e.1 e.2) m).entries = m.entries ++ entries := by
  induction entries generalizing m with
  | nil => exact (List.append_nil _).symm
  | cons e rest ih =>
    have greatest : ∀ f ∈ m.entries, f.1 < e.1 := fun f hf =>
      (List.pairwise_append.mp ordered).2.2 f hf e List.mem_cons_self
    have inserted : (m.insert e.1 e.2).entries = m.entries ++ [e] := insertEntry_of_greatest greatest
    rw [List.foldl_cons, ih, inserted, List.append_assoc]
    · rfl
    · rw [inserted, List.append_assoc]
      exact ordered

/-- A map is that of its entries. -/
theorem ofList_entries (m : NameMap α) : ofList m.entries = m := by
  have entries : (m.entries.foldl (fun m e => m.insert e.1 e.2) (.empty : NameMap α)).entries = m.entries :=
    entries_foldl_insert .empty m.ordered
  cases m
  unfold ofList
  rw [NameMap.mk.injEq]
  exact entries

theorem mapM_entries (h : Lossless write read) (entries : List (String × α)) :
    (entries.map fun e => (e.1, write e.2)).mapM (fun f => (read f.2).map (f.1, ·)) = some entries := by
  induction entries with
  | nil => rfl
  | cons e rest ih =>
    rw [List.map_cons, List.mapM_cons, ih, h.reads]
    rfl

theorem lossless (h : Lossless write read) : Lossless (toJson write) (ofJson? read) where
  reads m := by
    unfold toJson ofJson? asFields?
    simp only [Option.bind_eq_bind, Option.bind_some, mapM_entries h, ofList_entries]
    rfl
  integral m := .obj fun f hf => by
    obtain ⟨e, -, rfl⟩ := List.mem_map.mp hf
    exact h.integral e.2
  nonnull m := by simp [toJson]

end NameMap

namespace Keyed

variable {α κ : Type} [DecidableEq κ] {key : α → κ}

theorem putItem_of_free {a : α} {items : List α} (free : key a ∉ items.map key) :
    putItem key a items = items ++ [a] := by
  induction items with
  | nil => rfl
  | cons b rest ih =>
    rw [List.map_cons, List.mem_cons, not_or] at free
    rw [putItem, if_neg fun same => free.1 same.symm, ih free.2]
    rfl

/-- Items with free keys are put in one after the other. -/
theorem items_foldl_insert {items : List α} (c : Keyed key) (distinct : ((c.items ++ items).map key).Nodup) :
    (items.foldl insert c).items = c.items ++ items := by
  induction items generalizing c with
  | nil => exact (List.append_nil _).symm
  | cons a rest ih =>
    have free : key a ∉ c.items.map key := fun mem => by
      rw [List.map_append, List.map_cons] at distinct
      exact (List.nodup_append.mp distinct).2.2 _ mem _ List.mem_cons_self rfl
    have inserted : (c.insert a).items = c.items ++ [a] := putItem_of_free free
    rw [List.foldl_cons, ih, inserted, List.append_assoc]
    · rfl
    · rw [inserted, List.append_assoc]
      exact distinct

/-- A list with keys is that of its items, in their order. -/
theorem ofLasts_items (c : Keyed key) : ofLasts c.items = c := by
  have items : (c.items.foldl insert (.empty : Keyed key)).items = c.items :=
    items_foldl_insert .empty c.distinct
  cases c
  unfold ofLasts
  rw [Keyed.mk.injEq]
  exact items

end Keyed

/-! ## Types -/

theorem TypeName.lossless : Lossless TypeName.toJson TypeName.ofJson? :=
  ⟨fun _ => rfl, fun t => .str t.text, by simp [TypeName.toJson]⟩

theorem TypeName.lossless_list : Lossless TypeName.listToJson (listOf? TypeName.ofJson?) :=
  TypeName.lossless.list

theorem MemberDescriptor.lossless : Lossless MemberDescriptor.toJson MemberDescriptor.ofJson? where
  reads m := by
    unfold toJson ofJson? asRecord?
    dsimp only [Option.bind_eq_bind, Option.bind_some]
    rw [lossless_text.required_eq rfl, TypeName.lossless.optional_eq (o := m.parameter) rfl,
      TypeName.lossless.optional_eq (o := m.returns) rfl, TypeName.lossless_list.defaulted_eq rfl]
    rfl
  integral m := by
    refine .obj ?_
    simp [Integral.str, TypeName.lossless.integral_option, TypeName.lossless_list.integral]
  nonnull m := by simp [toJson]

theorem MemberDescriptor.lossless_list : Lossless (fun ms => .arr (ms.map MemberDescriptor.toJson))
    (listOf? MemberDescriptor.ofJson?) := MemberDescriptor.lossless.list

namespace TypeKind

variable {kind : TypeKind}

theorem lossless_variants : Lossless strs (listOf? asText?) := lossless_text.list

theorem isFit_strs (texts : List String) : (strs texts).isFit = true := by
  unfold strs isFit
  induction texts with
  | nil => rfl
  | cons text rest ih =>
    rw [List.map_cons, areFit, ih]
    rfl

/-- The fields of a kind are readable. -/
theorem isFit_of_mem_extraFields {f : String × Json} (h : f ∈ kind.extraFields) : f.2.isFit = true := by
  cases kind with
  | bean | value => cases h
  | enum variants =>
    rw [List.mem_singleton.mp h]
    exact isFit_strs variants
  | failure unchecked =>
    rw [List.mem_singleton.mp h]
    rfl

theorem integral_of_mem_extraFields {f : String × Json} (h : f ∈ kind.extraFields) : f.2.Integral := by
  cases kind with
  | bean | value => cases h
  | enum variants =>
    rw [List.mem_singleton.mp h]
    exact lossless_variants.integral variants
  | failure unchecked =>
    rw [List.mem_singleton.mp h]
    exact .bool unchecked

/-- The kind reads back from among the fields of a description. -/
theorem ofFields?_toJson (kind : TypeKind) (name supertypes members : Json) :
    ofFields? ([("name", name), ("kind", .str kind.name)] ++ kind.extraFields ++
      [("supertypes", supertypes), ("members", members)]) = some kind := by
  unfold ofFields?
  cases kind with
  | bean | value =>
    rw [lossless_text.required_eq rfl]
    rfl
  | enum variants =>
    rw [lossless_text.required_eq rfl]
    simp only [Option.bind_eq_bind, Option.bind_some, TypeKind.name]
    rw [lossless_variants.required_eq (a := variants) rfl]
    rfl
  | failure unchecked =>
    rw [lossless_text.required_eq rfl]
    simp only [Option.bind_eq_bind, Option.bind_some, TypeKind.name]
    rw [lossless_bool.defaulted_eq (a := unchecked) rfl]
    rfl

/-- The fields of a description, whatever its kind adds. -/
theorem field?_description (kind : TypeKind) (name supertypes members : Json) :
    let fields := [("name", name), ("kind", .str kind.name)] ++ kind.extraFields ++
      [("supertypes", supertypes), ("members", members)]
    field? fields "name" = some (some name) ∧ field? fields "supertypes" = some (some supertypes) ∧
      field? fields "members" = some (some members) := by
  cases kind <;> exact ⟨rfl, rfl, rfl⟩

end TypeKind

theorem TypeDescriptor.lossless : Lossless TypeDescriptor.toJson TypeDescriptor.ofJson? where
  reads d := by
    obtain ⟨name, supertypes, members⟩ := TypeKind.field?_description d.kind d.name.toJson
      (TypeName.listToJson d.supertypes) (.arr (d.members.map MemberDescriptor.toJson))
    unfold toJson ofJson? asFields?
    dsimp only [Option.bind_eq_bind, Option.bind_some]
    rw [TypeName.lossless.required_eq name, TypeKind.ofFields?_toJson,
      TypeName.lossless_list.defaulted_eq supertypes, MemberDescriptor.lossless_list.defaulted_eq members]
    have fit : (([("name", d.name.toJson), ("kind", .str d.kind.name)] ++ d.kind.extraFields ++
        [("supertypes", TypeName.listToJson d.supertypes),
          ("members", .arr (d.members.map MemberDescriptor.toJson))]).all fun f =>
        ["name", "supertypes", "members"].contains f.1 || f.2.isFit) = true := by
      simp only [List.all_append, List.all_cons, List.all_nil, Bool.and_eq_true, List.all_eq_true]
      exact ⟨⟨⟨rfl, rfl, trivial⟩,
        fun f hf => by rw [TypeKind.isFit_of_mem_extraFields hf, Bool.or_true]⟩, rfl, rfl, trivial⟩
    rw [fit]
    rfl
  integral d := by
    refine .obj fun f hf => ?_
    simp only [List.mem_append, List.mem_cons, List.not_mem_nil, or_false] at hf
    rcases hf with ((rfl | rfl) | hf) | rfl | rfl
    · exact TypeName.lossless.integral d.name
    · exact .str d.kind.name
    · exact TypeKind.integral_of_mem_extraFields hf
    · exact TypeName.lossless_list.integral d.supertypes
    · exact MemberDescriptor.lossless_list.integral d.members
  nonnull d := by simp [toJson]

/-- **A registry reads back**, with its types in their order. -/
theorem Registry.lossless : Lossless Registry.toJson Registry.ofJson? where
  reads r := by
    unfold toJson ofJson?
    rw [listOf?_map fun d _ => TypeDescriptor.lossless.reads d, Option.map_some]
    exact congrArg some (Keyed.ofLasts_items r)
  integral r := TypeDescriptor.lossless.list.integral r.items
  nonnull r := by simp [toJson]

/-! ## Rules and methods -/

theorem ConversionRule.lossless : Lossless ConversionRule.toJson ConversionRule.ofJson? where
  reads r := by
    unfold toJson ofJson? asRecord?
    dsimp only [Option.bind_eq_bind, Option.bind_some]
    rw [TypeName.lossless.required_eq (a := r.source) rfl, TypeName.lossless.required_eq (a := r.target) rfl,
      lossless_text.required_eq rfl, TypeName.lossless_list.defaulted_eq rfl, lossless_bool.defaulted_eq rfl]
    rfl
  integral r := by
    refine .obj ?_
    simp [Integral.str, Integral.bool, TypeName.lossless.integral, TypeName.lossless_list.integral]
  nonnull r := by simp [toJson]

theorem CollectionStrategy.lossless : Lossless CollectionStrategy.toJson CollectionStrategy.ofJson? :=
  ⟨fun s => by cases s <;> rfl, fun s => .str s.name, by simp [CollectionStrategy.toJson]⟩

theorem NamePrecedence.lossless : Lossless NamePrecedence.toJson NamePrecedence.ofJson? :=
  ⟨fun p => by cases p <;> rfl, fun p => .str p.name, by simp [NamePrecedence.toJson]⟩

theorem PropertyOption.lossless : Lossless PropertyOption.toJson PropertyOption.ofJson? where
  reads o := by
    unfold toJson ofJson? asRecord?
    dsimp only [Option.bind_eq_bind, Option.bind_some]
    rw [TypeName.lossless.optional_eq (o := o.targetTypeHint) rfl, lossless_bool.defaulted_eq rfl]
    rfl
  integral o := by
    refine .obj ?_
    simp [Integral.bool, TypeName.lossless.integral_option]
  nonnull o := by simp [toJson]

theorem MappingMethod.lossless : Lossless MappingMethod.toJson MappingMethod.ofJson? where
  reads m := by
    unfold toJson ofJson? asRecord?
    dsimp only [Option.bind_eq_bind, Option.bind_some]
    rw [lossless_text.required_eq rfl, TypeName.lossless.required_eq (a := m.sourceType) rfl,
      TypeName.lossless.required_eq (a := m.targetType) rfl, lossless_bool.defaulted_eq rfl,
      TypeName.lossless_list.defaulted_eq rfl, CollectionStrategy.lossless.optional_eq (o := m.strategy) rfl,
      (NameMap.lossless PropertyOption.lossless).defaulted_eq rfl]
    rfl
  integral m := by
    refine .obj ?_
    simp [Integral.str, Integral.bool, TypeName.lossless.integral, TypeName.lossless_list.integral,
      CollectionStrategy.lossless.integral_option, (NameMap.lossless PropertyOption.lossless).integral]
  nonnull m := by simp [toJson]

/-! ## Shapes -/

theorem Accessor.lossless : Lossless Accessor.toJson Accessor.ofJson? where
  reads a := by
    unfold toJson ofJson? asRecord?
    dsimp only [Option.bind_eq_bind, Option.bind_some]
    rw [lossless_text.required_eq rfl, TypeName.lossless_list.required_eq rfl]
    rfl
  integral a := by
    refine .obj ?_
    simp [Integral.str, TypeName.lossless_list.integral]
  nonnull a := by simp [toJson]

theorem Accessors.lossless : Lossless Accessors.toJson Accessors.ofJson? where
  reads a := by
    unfold toJson ofJson? asRecord?
    dsimp only [Option.bind_eq_bind, Option.bind_some]
    rw [Accessor.lossless.optional_eq (o := a.getter) rfl, Accessor.lossless.optional_eq (o := a.setter) rfl,
      Accessor.lossless.optional_eq (o := a.adder) rfl]
    rfl
  integral a := by
    refine .obj ?_
    simp [Accessor.lossless.integral_option]
  nonnull a := by simp [toJson]

theorem Property.lossless : Lossless Property.toJson Property.ofJson? where
  reads p := by
    unfold toJson ofJson? asRecord?
    dsimp only [Option.bind_eq_bind, Option.bind_some]
    rw [lossless_text.required_eq rfl, TypeName.lossless.required_eq (a := p.valueType) rfl,
      TypeName.lossless.optional_eq (o := p.elementType) rfl, Accessors.lossless.required_eq rfl]
    rfl
  integral p := by
    refine .obj ?_
    simp [Integral.str, TypeName.lossless.integral, TypeName.lossless.integral_option,
      Accessors.lossless.integral]
  nonnull p := by simp [toJson]

theorem BeanShape.lossless : Lossless BeanShape.toJson BeanShape.ofJson? where
  reads s := by
    unfold toJson ofJson? asRecord?
    dsimp only [Option.bind_eq_bind, Option.bind_some]
    rw [TypeName.lossless.required_eq rfl, Property.lossless.list.required_eq rfl]
    rfl
  integral s := by
    refine .obj ?_
    simp [TypeName.lossless.integral, Property.lossless.list.integral]
  nonnull s := by simp [toJson]

/-! ## Plans -/

theorem MergeVia.lossless : Lossless (fun via => .str (MergeVia.name via)) MergeVia.ofJson? :=
  ⟨fun via => by cases via <;> rfl, fun via => .str via.name, by simp⟩

theorem PropertyAction.lossless : Lossless PropertyAction.toJson PropertyAction.ofJson? where
  reads action := by
    cases action with
    | mergeAdd via => cases via <;> rfl
    | assign | convertAssign | replaceSet => rfl
  integral action := by
    cases action with
    | mergeAdd via => exact integral_single _ (integral_single _ (.str via.name))
    | assign | convertAssign | replaceSet => exact .str _
  nonnull action := by cases action <;> simp [toJson]

theorem Builtin.lossless : Lossless Builtin.toJson Builtin.ofJson? where
  reads b := by
    cases b with
    | enumByName variants =>
      show (required (listOf? asText?) [("variants", strs variants)] "variants").map enumByName = _
      rw [TypeKind.lossless_variants.required_eq rfl]
      rfl
    | identity | widening | boxing | unboxing => rfl
  integral b := by
    cases b with
    | enumByName variants =>
      exact integral_single _ (integral_single _ (TypeKind.lossless_variants.integral variants))
    | identity | widening | boxing | unboxing => exact .str _
  nonnull b := by cases b <;> simp [toJson]

section Parts

variable {ρ : Type} {write : ρ → Json} {readPlan : Json → Option ρ}

theorem getD_map (plan : Option ρ) : (plan.map write).getD .null = ofOption write plan := by
  cases plan <;> rfl

namespace NestedMapping

variable {n : NestedMapping ρ}

/-- A mapping reads back, if its plan does. -/
theorem ofJson?_toJson (reads : ∀ q, n.plan = some q → readPlan (write q) = some q)
    (nonnull : ∀ q, write q ≠ .null) : ofJson? readPlan (n.toJson (n.plan.map write)) = some n := by
  have plan := optionOf?_ofOption reads fun q _ => nonnull q
  unfold toJson ofJson? asRecord?
  simp only [Option.bind_eq_bind, Option.bind_some, getD_map]
  rw [lossless_text.required_eq rfl, TypeName.lossless.required_eq (a := n.sourceType) rfl,
    TypeName.lossless.required_eq (a := n.targetType) rfl, TypeName.lossless_list.required_eq rfl,
    optional_of_found (v := ofOption write n.plan) rfl, plan]
  rfl

theorem integral_toJson (integral : ∀ q, n.plan = some q → (write q).Integral) :
    (n.toJson (n.plan.map write)).Integral := by
  refine .obj ?_
  rw [getD_map]
  simp [Integral.str, TypeName.lossless.integral, TypeName.lossless_list.integral,
    integral_ofOption integral]

end NestedMapping

namespace Conversion

variable {c : Conversion ρ}

/-- A conversion reads back, if its plan does. -/
theorem ofJson?_toJson (reads : ∀ q, c.plan? = some q → readPlan (write q) = some q)
    (nonnull : ∀ q, write q ≠ .null) : ofJson? readPlan (c.toJson (c.plan?.map write)) = some c := by
  cases c with
  | builtin b =>
    show (Builtin.ofJson? b.toJson).map builtin = _
    rw [Builtin.lossless.reads, Option.map_some]
  | converter path target failures =>
    unfold toJson ofJson?
    simp only [Option.bind_eq_bind]
    rw [lossless_text.required_eq rfl, TypeName.lossless.optional_eq (o := target) rfl,
      TypeName.lossless_list.required_eq rfl]
    rfl
  | nested n =>
    show (NestedMapping.ofJson? readPlan (n.toJson (n.plan.map write))).map nested = _
    rw [NestedMapping.ofJson?_toJson reads nonnull, Option.map_some]

theorem integral_toJson (integral : ∀ q, c.plan? = some q → (write q).Integral) :
    (c.toJson (c.plan?.map write)).Integral := by
  cases c with
  | builtin b => exact integral_single _ (Builtin.lossless.integral b)
  | converter path target failures =>
    refine integral_single _ (.obj ?_)
    simp [Integral.str, TypeName.lossless.integral_option, TypeName.lossless_list.integral]
  | nested n => exact integral_single _ (NestedMapping.integral_toJson integral)

theorem toJson_ne_null (c : Conversion ρ) (plan : Option Json) : c.toJson plan ≠ .null := by
  cases c <;> simp [toJson]

end Conversion

namespace PlannedProperty

variable {x : PlannedProperty ρ}

/-- A planned property reads back, if the plan that it embeds does. -/
theorem ofJson?_toJson (reads : ∀ q, x.plan? = some q → readPlan (write q) = some q)
    (nonnull : ∀ q, write q ≠ .null) : ofJson? readPlan (x.toJson (x.plan?.map write)) = some x := by
  have conversion : optionOf? (Conversion.ofJson? readPlan)
      (ofOption (·.toJson (x.plan?.map write)) x.conversion) = some x.conversion := by
    refine optionOf?_ofOption (fun c converts => ?_) fun c _ => c.toJson_ne_null _
    have plan : x.plan? = c.plan? := by rw [plan?, converts, Option.bind_some]
    rw [plan] at reads ⊢
    exact Conversion.ofJson?_toJson reads nonnull
  unfold toJson ofJson? asRecord?
  dsimp only [Option.bind_eq_bind, Option.bind_some]
  rw [Property.lossless.required_eq (a := x.source) rfl, Property.lossless.required_eq (a := x.target) rfl,
    PropertyAction.lossless.required_eq rfl, optional_of_found rfl, conversion]
  rfl

theorem integral_toJson (integral : ∀ q, x.plan? = some q → (write q).Integral) :
    (x.toJson (x.plan?.map write)).Integral := by
  have conversion : (ofOption (·.toJson (x.plan?.map write)) x.conversion).Integral := by
    refine integral_ofOption fun c converts => ?_
    have plan : x.plan? = c.plan? := by rw [plan?, converts, Option.bind_some]
    rw [plan] at integral ⊢
    exact Conversion.integral_toJson integral
  refine .obj ?_
  simp [Property.lossless.integral, PropertyAction.lossless.integral, conversion]

/-- The record of a planned property is deeper than that of the plan that it embeds. -/
theorem depth_lt_toJson {q : ρ} (embeds : x.plan? = some q) :
    (write q).depth < (x.toJson (x.plan?.map write)).depth := by
  obtain ⟨c, converts, plan⟩ := Option.bind_eq_some_iff.mp embeds
  cases c with
  | builtin | converter => cases plan
  | nested n =>
    have planned : find? [("method", .str n.method), ("source_type", n.sourceType.toJson),
        ("target_type", n.targetType.toJson),
        ("declared_failures", TypeName.listToJson n.declaredFailures), ("plan", write q)] "plan" =
        some (write q) := rfl
    have nested : find? [("Nested", n.toJson (some (write q)))] "Nested" =
        some (n.toJson (some (write q))) := rfl
    have conversion : find? [("source", x.source.toJson), ("target", x.target.toJson),
        ("action", x.action.toJson), ("conversion", .obj [("Nested", n.toJson (some (write q)))])]
        "conversion" = some (.obj [("Nested", n.toJson (some (write q)))]) := rfl
    have whole : x.toJson (x.plan?.map write) = .obj [("source", x.source.toJson),
        ("target", x.target.toJson), ("action", x.action.toJson),
        ("conversion", .obj [("Nested", n.toJson (some (write q)))])] := by
      rw [embeds, toJson, converts]
      rfl
    rw [whole]
    exact Nat.lt_trans (depth_lt_of_find? planned)
      (Nat.lt_trans (depth_lt_of_find? nested) (depth_lt_of_find? conversion))

end PlannedProperty

end Parts

namespace MappingPlan

theorem toJson_ne_null (p : MappingPlan) : p.toJson ≠ .null := by
  rw [toJson_eq]
  simp

theorem integral_toJson (p : MappingPlan) : p.toJson.Integral := by
  induction p using inductionOn with
  | step p ih =>
    have properties : (Json.arr (p.properties.map propertyToJson)).Integral := .arr fun v hv => by
      obtain ⟨x, hx, rfl⟩ := List.mem_map.mp hv
      exact PlannedProperty.integral_toJson fun q embeds => ih q (List.mem_filterMap.mpr ⟨x, hx, embeds⟩)
    rw [toJson_eq]
    refine .obj ?_
    simp [Integral.str, Integral.bool, TypeName.lossless.integral, TypeName.lossless_list.integral,
      properties]

/-- The record of a plan is deeper than those of the plans that it embeds. -/
theorem depth_lt_toJson {p q : MappingPlan} (h : q ∈ p.nested) : q.toJson.depth < p.toJson.depth := by
  obtain ⟨x, hx, embeds⟩ := List.mem_filterMap.mp h
  have inside : q.toJson.depth < (propertyToJson x).depth := PlannedProperty.depth_lt_toJson embeds
  have item : (propertyToJson x).depth < (Json.arr (p.properties.map propertyToJson)).depth :=
    depth_lt_of_mem_arr (List.mem_map_of_mem hx)
  have field : find? [("method", .str p.method), ("source_type", p.sourceType.toJson),
      ("target_type", p.targetType.toJson), ("updates_existing_target", .bool p.updatesTarget),
      ("declared_failures", TypeName.listToJson p.declaredFailures),
      ("properties", .arr (p.properties.map propertyToJson))] "properties" =
      some (.arr (p.properties.map propertyToJson)) := rfl
  rw [toJson_eq p]
  exact Nat.lt_trans (Nat.lt_trans inside item) (depth_lt_of_find? field)

/-- **A plan reads back from its record**, wherever one so deep is read: by induction on the plan. -/
theorem ofJsonWithin?_toJson (p : MappingPlan) :
    ∀ {depth : Nat}, p.toJson.depth ≤ depth → ofJsonWithin? depth p.toJson = some p := by
  induction p using inductionOn with
  | step p ih =>
    intro depth bound
    have deep : 0 < p.toJson.depth := by
      rw [toJson_eq]
      exact Nat.succ_pos _
    obtain ⟨less, rfl⟩ := Nat.exists_eq_succ_of_ne_zero (show depth ≠ 0 by omega)
    have properties : listOf? (PlannedProperty.ofJson? (ofJsonWithin? less))
        (.arr (p.properties.map propertyToJson)) = some p.properties := by
      refine listOf?_map fun x hx => PlannedProperty.ofJson?_toJson (fun q embeds => ?_) toJson_ne_null
      have mem : q ∈ p.nested := List.mem_filterMap.mpr ⟨x, hx, embeds⟩
      have := depth_lt_toJson mem
      exact ih q mem (by omega)
    rw [toJson_eq]
    unfold ofJsonWithin? asRecord?
    dsimp only [Option.bind_eq_bind, Option.bind_some]
    rw [lossless_text.required_eq rfl, TypeName.lossless.required_eq (a := p.sourceType) rfl,
      TypeName.lossless.required_eq (a := p.targetType) rfl, lossless_bool.required_eq rfl,
      TypeName.lossless_list.required_eq rfl, required_of_found rfl, properties]
    cases p
    rfl

/-- **Plans read back**, however deep they are. -/
theorem lossless : Lossless toJson ofJson? :=
  ⟨fun p => p.ofJsonWithin?_toJson (Nat.le_refl _), integral_toJson, toJson_ne_null⟩

end MappingPlan

/-! ## Configurations -/

namespace GeneratorConfig

variable {c : GeneratorConfig}

/-- A configuration reads back, if its depth is a number of 64 bits. -/
theorem ofJson?_toJson (sized : c.maxNestingDepth < UInt64.size) : ofJson? c.toJson = some c := by
  have depth : asSize? (.nat c.maxNestingDepth) = some c.maxNestingDepth := if_pos sized
  unfold toJson ofJson? asRecord?
  dsimp only [Option.bind_eq_bind, Option.bind_some]
  rw [CollectionStrategy.lossless.defaulted_eq rfl, NamePrecedence.lossless.defaulted_eq rfl,
    (NameMap.lossless lossless_text).defaulted_eq rfl, defaulted_of_found rfl, depth]
  rfl

theorem integral_toJson (sized : c.maxNestingDepth < UInt64.size) : c.toJson.Integral := by
  have depth : (Json.nat c.maxNestingDepth).Integral := by
    have low : -((Nat.pow 2 63 : Nat) : Int) ≤ c.maxNestingDepth := by omega
    exact .int low (Int.ofNat_lt.mpr sized)
  refine .obj ?_
  simp [CollectionStrategy.lossless.integral, NamePrecedence.lossless.integral,
    (NameMap.lossless lossless_text).integral, depth]

/-- **The text of a configuration is read as what its validation gives.** -/
theorem ofText_print (sized : c.maxNestingDepth < UInt64.size) : ofText (print c.toJson) = c.validate := by
  unfold ofText read
  rw [read?_print (integral_toJson sized), Option.bind_some, ofJson?_toJson sized]

/-- Validation gives the configuration itself, or a fault. -/
theorem validate_eq_ok_iff : c.validate = .ok c ↔ c.validate.isOk = true := by
  unfold validate
  cases c.fault? with
  | none => exact ⟨fun _ => rfl, fun _ => rfl⟩
  | some fault => exact ⟨nofun, nofun⟩

end GeneratorConfig

/-- **Documents are lossless.** Registries, rules, methods and shapes read back from their values and from
the texts of these, plans of any depth from their values. The text of a configuration is read as that
configuration exactly if it is valid. -/
theorem documents_are_lossless :
    (∀ r : Registry, Registry.ofJson? r.toJson = some r ∧
      (Json.read? (Json.print r.toJson)).bind Registry.ofJson? = some r) ∧
    (∀ r : ConversionRule, ConversionRule.ofJson? r.toJson = some r ∧
      (Json.read? (Json.print r.toJson)).bind ConversionRule.ofJson? = some r) ∧
    (∀ m : MappingMethod, MappingMethod.ofJson? m.toJson = some m ∧
      (Json.read? (Json.print m.toJson)).bind MappingMethod.ofJson? = some m) ∧
    (∀ s : BeanShape, BeanShape.ofJson? s.toJson = some s ∧
      (Json.read? (Json.print s.toJson)).bind BeanShape.ofJson? = some s) ∧
    (∀ p : MappingPlan, MappingPlan.ofJson? p.toJson = some p) ∧
    ∀ c : GeneratorConfig, c.maxNestingDepth < UInt64.size →
      (GeneratorConfig.ofText (Json.print c.toJson) = .ok c ↔ c.validate.isOk = true) := by
  refine ⟨fun r => ⟨Registry.lossless.reads r, Registry.lossless.text r⟩,
    fun r => ⟨ConversionRule.lossless.reads r, ConversionRule.lossless.text r⟩,
    fun m => ⟨MappingMethod.lossless.reads m, MappingMethod.lossless.text m⟩,
    fun s => ⟨BeanShape.lossless.reads s, BeanShape.lossless.text s⟩,
    MappingPlan.lossless.reads, fun c sized => ?_⟩
  rw [GeneratorConfig.ofText_print sized, GeneratorConfig.validate_eq_ok_iff]

/-! ### A configuration with a singular of its own, and one without nesting -/

namespace GeneratorConfig

/-- The defaults, except that teeth are of a tooth. -/
def dental : GeneratorConfig := { default with singularOverrides := .ofList [("teeth", "tooth")] }

/-- The defaults, except that no method may be planned. -/
def unnested : GeneratorConfig := { default with maxNestingDepth := 0 }

/-- The configuration for teeth is read as it was written, and the other one is refused. -/
theorem documents_are_lossless_for_dental :
    dental.maxNestingDepth < UInt64.size ∧ unnested.maxNestingDepth < UInt64.size ∧
      ofText (Json.print dental.toJson) = .ok dental ∧
      ¬ofText (Json.print unnested.toJson) = .ok unnested := by
  have sized : dental.maxNestingDepth < UInt64.size := by decide
  have small : unnested.maxNestingDepth < UInt64.size := by decide
  have valid : dental.validate.isOk = true := by decide +kernel
  have invalid : ¬unnested.validate.isOk = true := by decide
  exact ⟨sized, small, (documents_are_lossless.2.2.2.2.2 _ sized).mpr valid,
    fun read => invalid ((documents_are_lossless.2.2.2.2.2 _ small).mp read)⟩

end GeneratorConfig

end BeanMapping
