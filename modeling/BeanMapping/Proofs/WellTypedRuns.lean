import BeanMapping.Proofs.Conversions
import BeanMapping.Proofs.FreshRuns
import BeanMapping.Proofs.LinkComplete
import BeanMapping.Proofs.MethodNames
import BeanMapping.Proofs.PlannedShapes

/-!
# Well-typed sources

A value conforms to a bean type if it is an object whose members conform to the properties of the shape
of the type: a collection is an array of values that conform to the element type. A type that is no bean
says nothing about its values (`conforms`).

A compiled mapping is well-typed when its plans fit the shapes of their types, work element by element
exactly where source and target are collections, and refer to a plan for the very type of the values that
they hand over, which is a bean (`WellTyped`). This is what the planner sees to
(`wellTyped_of_compiled`), if each name of the tree stands for one pair of types.

Over an object that conforms, a method of a well-typed mapping reads collections where its plan expects
them and objects where a nested method does; so nothing can go wrong but a converter, by induction on the
depth of the source. A value of a bean type is an object anyway.

Results:
* **`WellTyped.run_ends`**: a method of a well-typed mapping over an object that conforms succeeds or
  ends with a raised failure;
* **`well_typed_runs`**: so does a compiled root method, over a source that conforms exactly when that is
  an object;
* `plain_source_goes_wrong`: a source type that is no bean.
-/

namespace BeanMapping

/-! ## Values that conform -/

/-- No type whose name is that of a collection is described as a bean. -/
def Registry.NoBeanContainers (types : Registry) : Prop :=
  ∀ d ∈ types.items, d.isBean = true → d.name.isCollection = false

instance (types : Registry) : Decidable types.NoBeanContainers :=
  inferInstanceAs (Decidable (∀ d ∈ types.items, d.isBean = true → d.name.isCollection = false))

theorem Registry.describe_of_isBean {types : Registry} {t : TypeName} (bean : types.isBean t = true) :
    ∃ d, types.describe t = some d ∧ d.isBean = true := by
  unfold isBean at bean
  cases described : types.describe t with
  | none =>
    rw [described] at bean
    exact absurd bean Bool.false_ne_true
  | some d =>
    rw [described] at bean
    exact ⟨d, rfl, bean⟩

theorem Registry.NoBeanContainers.element?_eq_none {types : Registry} (h : types.NoBeanContainers)
    {t : TypeName} (bean : types.isBean t = true) : t.element? = none := by
  obtain ⟨d, described, bean⟩ := describe_of_isBean bean
  have plain := h d (Keyed.mem_of_find? described) bean
  rw [name_of_describe described] at plain
  unfold TypeName.isCollection at plain
  unfold TypeName.element?
  rw [Option.isSome_eq_false_iff, Option.isNone_iff_eq_none] at plain
  rw [plain]

/-- Whether the members of an object conform to a property; `below` decides for values inside. -/
def memberConforms (fields : Members)
    (below : TypeName → (w : Json) → w.depth < (Json.obj fields).depth → Bool) (p : Property) : Bool :=
  match h : Json.find? fields p.name with
  | none | some .null => true
  | some w =>
    match p.elementType with
    | none => below p.valueType w (Json.depth_lt_of_find? h)
    | some element =>
      match w, Json.depth_lt_of_find? h with
      | .arr items, inside =>
        items.attach.all fun u => below element u.1 (Nat.lt_trans (Json.depth_lt_of_mem_arr u.2) inside)
      | _, _ => false

/-- Whether a value conforms to a type; `below` decides for values inside. -/
def conformsWith (types : Registry) (i : Inflector) (t : TypeName) (v : Json)
    (below : TypeName → (w : Json) → w.depth < v.depth → Bool) : Bool :=
  !types.isBean t ||
    match Introspection.shapeOf types i t, v, below with
    | .ok s, .obj fields, below => s.properties.all (memberConforms fields below)
    | _, _, _ => false

/-- Whether a value conforms to a type. -/
def conforms (types : Registry) (i : Inflector) (t : TypeName) (v : Json) : Bool :=
  conformsWith types i t v fun t w _ => conforms types i t w
termination_by v.depth

/-- The value of a property conforms: a collection is an array of values that conform to the element
type. -/
def ValueConforms (types : Registry) (i : Inflector) (p : Property) (w : Json) : Prop :=
  match p.elementType with
  | none => conforms types i p.valueType w = true
  | some element => ∃ items, w = .arr items ∧ ∀ u ∈ items, conforms types i element u = true

variable {types : Registry} {i : Inflector}

theorem memberConforms_iff {fields : Members} {p : Property} :
    memberConforms fields (fun t w _ => conforms types i t w) p = true ↔
      ∀ w, Json.find? fields p.name = some w → w ≠ .null → ValueConforms types i p w := by
  unfold memberConforms
  split
  · rename_i absent
    refine iff_of_true rfl fun w found => ?_
    rw [absent] at found
    cases found
  · rename_i null
    refine iff_of_true rfl fun w found nonnull => ?_
    rw [null] at found
    exact absurd (Option.some.inj found).symm nonnull
  · rename_i w nonnull held
    have single : (∀ v, Json.find? fields p.name = some v → v ≠ .null → ValueConforms types i p v) ↔
        ValueConforms types i p w := by
      refine ⟨fun h => h w held nonnull, fun h v found _ => ?_⟩
      obtain rfl := Option.some.inj (held.symm.trans found)
      exact h
    rw [single]
    unfold ValueConforms
    cases p.elementType with
    | none => exact Iff.rfl
    | some element =>
      cases w with
      | arr items => simp
      | _ => simp

/-- **When a value conforms to a type**: for a bean it is an object, and what it holds for a property of
the shape, if anything, conforms to the property. -/
theorem conforms_iff {t : TypeName} {v : Json} :
    conforms types i t v = true ↔ (types.isBean t = true → ∃ s fields,
      Introspection.shapeOf types i t = .ok s ∧ v = .obj fields ∧ ∀ p ∈ s.properties, ∀ w,
        Json.find? fields p.name = some w → w ≠ .null → ValueConforms types i p w) := by
  rw [conforms]
  unfold conformsWith
  rw [Bool.or_eq_true, Bool.not_eq_true', ← Bool.not_eq_true, ← imp_iff_not_or]
  refine imp_congr_right fun bean => ?_
  obtain ⟨d, described, -⟩ := Registry.describe_of_isBean bean
  rw [Introspection.shapeOf_of_describe described]
  cases v with
  | obj fields =>
    dsimp only
    rw [List.all_eq_true]
    constructor
    · exact fun h => ⟨_, fields, rfl, rfl, fun p hp => memberConforms_iff.mp (h p hp)⟩
    · rintro ⟨s, fields', same, object, h⟩
      obtain rfl := Except.ok.inj same
      obtain rfl := Json.obj.inj object
      exact fun p hp => memberConforms_iff.mpr (h p hp)
  | _ =>
    refine iff_of_false Bool.false_ne_true ?_
    rintro ⟨s, fields, -, object, -⟩
    cases object

/-- A value of a bean type is an object. -/
theorem object_of_conforms {t : TypeName} {v : Json} (bean : types.isBean t = true)
    (h : conforms types i t v = true) : ∃ fields, v = .obj fields := by
  obtain ⟨s, fields, -, object, -⟩ := conforms_iff.mp h bean
  exact ⟨fields, object⟩

/-! ## Well-typed mappings -/

namespace CompiledMapping

/-- **A mapping is well-typed**: its plans fit the shapes of their types, work element by element on
collections, and hand over beans to plans for just their type. -/
structure WellTyped (types : Registry) (i : Inflector) (c : CompiledMapping) : Prop where
  fits : ∀ {name q}, c.plans.find? name = some q → q.Fits types i
  isElementWise_eq : ∀ {name q}, c.plans.find? name = some q → ∀ {x}, x ∈ q.properties →
    x.action.isElementWise = (x.source.isCollection && x.target.isCollection)
  nested : ∀ {name q}, c.plans.find? name = some q → ∀ {x}, x ∈ q.properties → ∀ {n},
    x.nested? = some n → types.isBean x.sourceValueType = true ∧
      ∃ r, c.plans.find? n.method = some r ∧ r.sourceType = x.sourceValueType
  supplied : c.Supplied

/-- The error is a failure that a converter raised. -/
def IsRaised (e : ExecutionError) : Prop := ∃ f, e = .raised f

variable {c : CompiledMapping} {method name : String} {q : MappingPlan}
  {x : PlannedProperty MappingPlan}

/-- A property of an object that conforms carries values, which conform to the type that is handed over
wherever a nested method converts them. -/
theorem WellTyped.exists_carries (typed : c.WellTyped types i) (plain : types.NoBeanContainers)
    (found : c.plans.find? name = some q) (hx : x ∈ q.properties) {fields : Members}
    (conforming : conforms types i q.sourceType (.obj fields) = true) {w : Json}
    (held : Json.find? fields x.source.name = some w) (nonnull : w ≠ .null) :
    ∃ us, Carries x w us ∧ ∀ u ∈ us, ∀ n, x.nested? = some n →
      conforms types i x.sourceValueType u = true := by
  obtain ⟨s, shape, mem, element_eq⟩ := (typed.fits found).exists_source hx
  have bean : types.isBean q.sourceType = true := by
    by_contra other
    rw [Introspection.properties_eq_nil shape (Bool.eq_false_iff.mpr other)] at mem
    exact absurd mem List.not_mem_nil
  obtain ⟨s', fields', shape', object, each⟩ := conforms_iff.mp conforming bean
  obtain rfl := Json.obj.inj object
  obtain rfl := Except.ok.inj (shape.symm.trans shape')
  have value := each x.source mem w held nonnull
  unfold ValueConforms at value
  have elementWise := typed.isElementWise_eq found hx
  unfold Carries
  cases acts : x.action.isElementWise with
  | true =>
    rw [acts] at elementWise
    obtain ⟨collection, -⟩ := Bool.and_eq_true_iff.mp elementWise.symm
    obtain ⟨element, element_type⟩ := Option.isSome_iff_exists.mp collection
    rw [element_type] at value
    obtain ⟨items, rfl, conforming⟩ := value
    have handed : x.sourceValueType = element := by
      unfold PlannedProperty.sourceValueType PlannedProperty.valueTypeOf
      rw [element_type, acts]
    exact ⟨items, rfl, fun u hu n _ => handed ▸ conforming u hu⟩
  | false =>
    have handed : x.sourceValueType = x.source.valueType := by
      unfold PlannedProperty.sourceValueType PlannedProperty.valueTypeOf
      rw [acts]
      cases x.source.elementType <;> rfl
    refine ⟨[w], rfl, fun u hu n refers => ?_⟩
    obtain rfl := List.mem_singleton.mp hu
    have bean := (typed.nested found hx refers).1
    rw [handed] at bean ⊢
    rw [element_eq, plain.element?_eq_none bean] at value
    exact value

/-- A value is converted, or a converter raises a failure, if a nested method ends so. -/
theorem WellTyped.convert_ends (typed : c.WellTyped types i) (found : c.plans.find? name = some q)
    (hx : x ∈ q.properties) {depth : Nat} {below : RunsBelow depth} {u : Json}
    (nested : ∀ n, x.nested? = some n → ∀ h,
      (below n.method u h).Ends (.obj []) (fun _ _ => True) IsRaised) :
    c.ConvertsTo below x IsRaised u := by
  intro h s
  unfold convert
  split
  · exact Narrated.ends_pure rfl
  · exact Narrated.ends_pure rfl
  · rename_i path target failures hc
    have calls := PlannedProperty.converterPath?_eq_some_iff.mpr ⟨target, failures, hc⟩
    unfold callConverter
    cases registered : c.converters.find? path with
    | none => exact absurd registered (typed.supplied name q found x hx path calls)
    | some convert =>
      dsimp only
      cases convert u target with
      | ok w => exact Narrated.ends_pure rfl
      | error failure => exact Narrated.ends_reject ⟨failure, rfl⟩
  · rename_i n hc
    exact Narrated.ends_apart (nested n (PlannedProperty.nested?_eq_some_iff.mpr hc) h) s

/-- **Well-typed mappings do not go wrong**: a method over an object that conforms to its source type
succeeds or ends with a raised failure, by induction on the depth of the source. -/
theorem WellTyped.run_ends (typed : c.WellTyped types i) (plain : types.NoBeanContainers)
    (method : String) (q : MappingPlan) (found : c.plans.find? method = some q) (source : Json)
    (conforming : conforms types i q.sourceType source = true)
    (object : ∃ fields, source = .obj fields) :
    (c.run method source).Ends (.obj []) (fun _ _ => True) IsRaised := by
  obtain ⟨fields, rfl⟩ := object
  rw [run_eq]
  unfold runWith
  rw [found]
  refine overTarget_ends (applyAll_ends _ _ (typed.fits found).distinct (fun _ _ => rfl) ?_)
  intro x hx w held nonnull
  obtain ⟨us, carries, conforming⟩ := typed.exists_carries plain found hx conforming held nonnull
  refine ⟨us, carries, fun u hu => typed.convert_ends found hx fun n refers inside => ?_⟩
  obtain ⟨bean, r, bound, source_eq⟩ := typed.nested found hx refers
  have conforms_u := conforming u hu n refers
  exact typed.run_ends plain n.method r bound u (source_eq ▸ conforms_u)
    (object_of_conforms bean conforms_u)
termination_by source.depth

/-- A method takes nothing but objects. -/
theorem run_fails_of_plain {source : Json} (found : c.plans.find? method = some q)
    (plain : ¬ ∃ fields, source = .obj fields) (s : Json) :
    (c.run method source).Fails s (.notAnObject q.sourceType source.kindName) := by
  rw [run_eq]
  unfold runWith
  rw [found]
  cases source with
  | obj fields => exact absurd ⟨fields, rfl⟩ plain
  | _ => exact Narrated.fails_reject _ _

end CompiledMapping

/-! ## Compiled root methods -/

namespace Planner

variable {p : Planner} {root : MappingMethod} {plan q : MappingPlan}
  {x : PlannedProperty MappingPlan} {n : NestedMapping MappingPlan}

/-- Where no methods are declared, a reference is for the type of the values that are handed over, which
is a bean. -/
theorem ConvertedTree.sourceType_eq (h : p.ConvertedTree root plan) (nothing : p.declared = [])
    (hq : q ∈ plan.nodes) (hx : x ∈ q.properties) (refers : x.nested? = some n) :
    p.types.isBean x.sourceValueType = true ∧ n.sourceType = x.sourceValueType := by
  have converted : ∃ m, p.Converted m x := by
    rcases MappingPlan.mem_nodes_iff_embedded.mp hq with rfl | hq
    · exact ⟨_, h.root x hx⟩
    · exact ⟨_, h.derived q hq x hx⟩
  obtain ⟨m, target, -, converts⟩ := converted
  rw [PlannedProperty.nested?_eq_some_iff.mp refers] at converts
  cases converts with
  | direct direct => cases direct
  | declared _ declared =>
    obtain ⟨d, hd, -⟩ := declaredMapping?_eq_some declared
    rw [nothing] at hd
    exact absurd hd List.not_mem_nil
  | supplied nestable pair_eq => exact ⟨nestable.source_bean, congrArg Prod.fst pair_eq⟩

end Planner

namespace Generator

variable {g : Generator} {m : MappingMethod} {v : VerifiedPlan} {converters : ConverterTable}
  {c : CompiledMapping} {shapes : ShapeCache} {σ : Type} {s : σ}

/-- **The planner makes well-typed mappings**, where each name of the tree stands for one pair of types
and nothing is declared. -/
theorem wellTyped_of_compiled {after : ShapeCache} {t : σ} (faithful : g.Faithful shapes)
    (planned : (g.plan [] m).Gives shapes v after) (binds : PlanTable.BindsOwn v.plan)
    (made : (CompiledMapping.compile converters m v).Gives s c t) :
    c.WellTyped g.types ⟨g.config.singularOverrides⟩ := by
  have supplied := CompiledMapping.supplied_of_compile made
  obtain rfl := CompiledMapping.compile_gives made
  have accepted := accepted_of_gives planned
  have converted := convertedTree_of_gives planned
  have node : ∀ {name q}, (PlanTable.ofPlan v.plan).find? name = some q → q ∈ v.plan.nodes :=
    fun found => (PlanTable.find?_ofPlan_some found).1
  refine ⟨fun found => fits_of_gives faithful planned _ (node found), fun found x hx => ?_,
    fun found x hx n refers => ?_, supplied⟩
  · exact (accepted.planned.prescribed _ (node found) x hx).isElementWise_eq
  · obtain ⟨bean, source_eq⟩ := converted.sourceType_eq rfl (node found) hx refers
    have hn := MappingPlan.mem_references_iff.mpr ⟨x, hx, refers⟩
    obtain ⟨r, bound, pair_eq⟩ := Option.map_eq_some_iff.mp (binds.reference _ (node found) n hn)
    have same : r.sourceType = n.sourceType := congrArg Prod.fst pair_eq
    exact ⟨bean, r, bound, same.trans source_eq⟩

/-- **Over a well-typed source nothing goes wrong but a converter**, if the source is an object. A root
method was planned over a faithful cache with nothing declared, each name of its tree stands for one pair
of types, and no collection is described as a bean. A source that conforms to a bean type is an object;
to another type every value conforms, and one that is no object is refused. -/
theorem well_typed_runs {source : Json} (faithful : g.Faithful shapes)
    (plain : g.types.NoBeanContainers) (planned : ((g.plan [] m).run shapes).result = .ok v)
    (identify : v.plan.NamesIdentify)
    (compiled : ((CompiledMapping.compile converters m v).run s).result = .ok c)
    (conforming : conforms g.types ⟨g.config.singularOverrides⟩ m.sourceType source = true) :
    ((∃ fields, source = .obj fields) →
      (c.map source).result = .ok () ∨ ∃ f, (c.map source).result = .error (.raised f)) ∧
    (g.types.isBean m.sourceType = true → ∃ fields, source = .obj fields) ∧
    ((¬ ∃ fields, source = .obj fields) →
      (c.map source).result = .error (.notAnObject m.sourceType source.kindName)) := by
  have given := Narrated.gives_of_result planned
  have made := Narrated.gives_of_result compiled
  have tree := (accepted_of_gives given).planned
  have binds := (tree.bindsOwn_iff rfl).mpr ((tree.namesIdentify_iff rfl).mp identify)
  have typed := wellTyped_of_compiled faithful given binds made
  have own : c.plans.find? c.method = some v.plan ∧ v.plan.sourceType = m.sourceType := by
    obtain rfl := CompiledMapping.compile_gives made
    obtain ⟨xs, root⟩ := tree.root_eq
    have name_eq : v.plan.method = m.name := by rw [root]; rfl
    exact ⟨name_eq ▸ binds.root, by rw [root]; rfl⟩
  obtain ⟨found, source_eq⟩ := own
  refine ⟨fun object => ?_, fun bean => object_of_conforms bean conforming, fun other => ?_⟩
  · rcases typed.run_ends plain c.method v.plan found source (source_eq ▸ conforming) object with
      ⟨⟨⟩, t, succeeded, -⟩ | ⟨e, failed, f, rfl⟩
    · exact Or.inl succeeded.1
    · exact Or.inr ⟨f, failed⟩
  · exact source_eq ▸ CompiledMapping.run_fails_of_plain found other (.obj [])

/-! ### Households -/

/-- Persons with a name, friends, tags, and a home of which a person is the owner; plain labels. -/
def households : Generator where
  types := .ofList [
    ⟨⟨"Person"⟩, .bean, [], [.getter "getName" ⟨"String"⟩, .getter "getFriends" ⟨"Vec<Person>"⟩,
      .getter "getTags" ⟨"HashSet<String>"⟩, .getter "getHome" ⟨"Home"⟩]⟩,
    ⟨⟨"PersonDto"⟩, .bean, [], [.writer "setName" ⟨"String"⟩, .writer "addFriend" ⟨"PersonDto"⟩,
      .getter "getTags" ⟨"Vec<String>"⟩, .writer "setHome" ⟨"HomeDto"⟩]⟩,
    ⟨⟨"Home"⟩, .bean, [], [.getter "getOwner" ⟨"Person"⟩, .getter "getSizes" ⟨"Vec<String>"⟩]⟩,
    ⟨⟨"HomeDto"⟩, .bean, [], [.writer "setOwner" ⟨"PersonDto"⟩, .writer "setSizes" ⟨"Vec<i64>"⟩]⟩,
    ⟨⟨"Label"⟩, .value, [], []⟩,
    ⟨⟨"LabelDto"⟩, .bean, [], [.writer "setText" ⟨"String"⟩]⟩]
  config := .default
  book := .ofFirsts [⟨⟨"String"⟩, ⟨"i64"⟩, "parse", [], false⟩]
  valid := GeneratorConfig.fault?_default

/-- A method of the households. -/
def mapInHouseholds (name : String) (source target : TypeName) : MappingMethod where
  name := name
  sourceType := source
  targetType := target

/-- What the generator plans for a method. -/
def householdsPlanned (m : MappingMethod) : Except Report VerifiedPlan :=
  ((households.plan [] m).run .empty).result

/-- What is compiled for a method. -/
def householdsCompiled (m : MappingMethod) (v : VerifiedPlan) : Except Report CompiledMapping :=
  ((CompiledMapping.compile reading m v).run ()).result

/-- Maps a person. -/
def mapPerson : MappingMethod := mapInHouseholds "person_to_dto" ⟨"Person"⟩ ⟨"PersonDto"⟩

/-- Maps a label. -/
def mapLabel : MappingMethod := mapInHouseholds "label_to_dto" ⟨"Label"⟩ ⟨"LabelDto"⟩

/-- A person with a friend without a name, whose home has an owner. -/
def personWithFriend : Json :=
  .obj [("name", .str "Ann"), ("tags", .arr [.str "a", .null]),
    ("friends", .arr [.obj [("name", .null), ("friends", .arr []),
      ("home", .obj [("sizes", .arr [.str "3"]), ("owner", .obj [("name", .str "Bob")])])]])]

theorem well_typed_person : ∃ v c, householdsPlanned mapPerson = .ok v ∧
    householdsCompiled mapPerson v = .ok c ∧
    ((c.map personWithFriend).result = .ok () ∨
      ∃ f, (c.map personWithFriend).result = .error (.raised f)) := by
  have plain : households.types.NoBeanContainers := by decide +kernel
  have bean : households.types.isBean mapPerson.sourceType = true := by decide +kernel
  have conforming : conforms households.types ⟨households.config.singularOverrides⟩
    mapPerson.sourceType personWithFriend = true := by decide +kernel
  obtain ⟨v, planned, evaluated⟩ := Narrated.exists_ok_of_any
    (show (householdsPlanned mapPerson).toOption.any (fun v =>
      decide v.plan.NamesIdentify && (householdsCompiled mapPerson v).isOk) = true by decide +kernel)
  rw [Bool.and_eq_true] at evaluated
  obtain ⟨c, compiled⟩ := Narrated.isOk_eq_true_iff.mp evaluated.2
  refine ⟨v, c, planned, compiled, ?_⟩
  unfold householdsPlanned at planned
  unfold householdsCompiled at compiled
  obtain ⟨runs, object, -⟩ := well_typed_runs households.faithful_empty plain planned
    (of_decide_eq_true evaluated.1) compiled conforming
  exact runs (object bean)

/-- A text conforms to the type of labels, which is no bean, and is refused by the method. -/
theorem plain_source_goes_wrong : ∃ v c, householdsPlanned mapLabel = .ok v ∧
    householdsCompiled mapLabel v = .ok c ∧ households.types.NoBeanContainers ∧
    v.plan.NamesIdentify ∧
    conforms households.types ⟨households.config.singularOverrides⟩ mapLabel.sourceType (.str "x") =
      true ∧
    (c.map (.str "x")).result = .error (.notAnObject ⟨"Label"⟩ "string") := by
  have plain : households.types.NoBeanContainers := by decide +kernel
  have conforming : conforms households.types ⟨households.config.singularOverrides⟩
    mapLabel.sourceType (.str "x") = true := by decide +kernel
  obtain ⟨v, planned, evaluated⟩ := Narrated.exists_ok_of_any
    (show (householdsPlanned mapLabel).toOption.any (fun v =>
      decide v.plan.NamesIdentify && (householdsCompiled mapLabel v).toOption.any fun c =>
        decide ((c.map (.str "x")).result = .error (.notAnObject ⟨"Label"⟩ "string"))) = true
      by decide +kernel)
  rw [Bool.and_eq_true] at evaluated
  obtain ⟨c, compiled, refused⟩ := Narrated.exists_ok_of_any evaluated.2
  exact ⟨v, c, planned, compiled, plain, of_decide_eq_true evaluated.1, conforming,
    of_decide_eq_true refused⟩

end Generator

end BeanMapping
