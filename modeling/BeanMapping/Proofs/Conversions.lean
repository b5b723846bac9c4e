import BeanMapping.Proofs.Accepted

/-!
# How planned properties are converted

A planned property says by what its value is converted, not why. `Converts` is the reason: what the
resolution of the two types gives, without the place in the tree. It is directly one of the rules or
built-in conversions, or a declared mapping, or, for two beans that no declared mapping is for, a mapping
that the planner supplies.

The types that are resolved are those of the property itself (`Prescribed.conversionTypes_eq`), but for
the target, which a hint of the method may replace. A derived method has no hints.

Result:
* **`convertedTree_of_gives`**: every property of a planned tree is converted by what the resolution of
  its types gives.
-/

namespace BeanMapping

/-- Collections are written element by element. -/
theorem CorrelatedProperty.isElementWise_of_collectionAction? {strategy : CollectionStrategy}
    {target : Property} {action : PropertyAction}
    (h : collectionAction? strategy target = some action) : action.isElementWise = true := by
  unfold collectionAction? at h
  split at h
  · split at h <;> rw [← Option.some.inj h] <;> rfl
  · rw [← Option.some.inj h]
    rfl
  · rw [← Option.some.inj h]
    rfl
  · split at h
    · rw [← Option.some.inj h]
      rfl
    · exact absurd h (by simp)

/-- An action that a strategy prescribes works element by element exactly where both properties are
collections. -/
theorem PlannedProperty.Prescribed.isElementWise_eq {x : PlannedProperty MappingPlan}
    {strategy : CollectionStrategy} (h : x.Prescribed strategy) :
    x.action.isElementWise = CorrelatedProperty.isCollectionPair ⟨x.source, x.target, .exact⟩ := by
  unfold Prescribed CorrelatedProperty.action? at h
  split at h
  · rename_i collections
    rw [collections]
    exact CorrelatedProperty.isElementWise_of_collectionAction? h
  · rename_i single
    rw [Bool.eq_false_iff.mpr single]
    split at h
    · rw [← Option.some.inj h]
      split <;> rfl
    · exact absurd h (by simp)

/-- A property that is written as a strategy prescribes is converted between its own types: those of
the elements exactly where both properties are collections. -/
theorem PlannedProperty.Prescribed.conversionTypes_eq {x : PlannedProperty MappingPlan}
    {strategy : CollectionStrategy} (h : x.Prescribed strategy) :
    Planner.conversionTypes ⟨x.source, x.target, .exact⟩ = (x.sourceValueType, x.targetValueType) := by
  have elementWise := h.isElementWise_eq
  unfold CorrelatedProperty.isCollectionPair Property.isCollection at elementWise
  unfold Planner.conversionTypes sourceValueType targetValueType valueTypeOf
  rw [elementWise]
  cases x.source.elementType <;> cases x.target.elementType <;> rfl

namespace Planner

open MappingPlan (embedded)

variable {p : Planner} {deeper : Nat} {frames : List Frame} {m : MappingMethod}
  {pair : CorrelatedProperty} {pairs : List CorrelatedProperty} {source target : TypeName}
  {s t : PlanState} {xs : List (PlannedProperty MappingPlan)} {x : PlannedProperty MappingPlan}
  {n : NestedMapping MappingPlan} {conversion : Option (Conversion MappingPlan)}
  {action : PropertyAction}

/-- What converts a value of one type into another. -/
inductive Converts (p : Planner) (source target : TypeName) :
    Option (Conversion MappingPlan) → Prop
  | direct {conversion : Option (Conversion MappingPlan)} (h : p.Direct source target conversion) :
      Converts p source target conversion
  | declared {n : NestedMapping MappingPlan}
      (route_eq : Resolution.route p.types p.book source target = .ask)
      (h : p.declaredMapping? source target = some n) : Converts p source target (some (.nested n))
  | supplied {n : NestedMapping MappingPlan} (nestable : p.Nestable source target)
      (pair_eq : n.pair = (source, target)) : Converts p source target (some (.nested n))

/-- A property is converted by what the resolution of its types gives, with the hints of a method. -/
def Converted (p : Planner) (m : MappingMethod) (x : PlannedProperty MappingPlan) : Prop :=
  ∃ target, Resolution.targetType p.types x.target.name x.targetValueType
      (m.options.hint? x.target.name) = .ok target ∧
    p.Converts x.sourceValueType target x.conversion

theorem Known.converts {derived : List (NestedMapping MappingPlan)}
    (h : p.Known frames derived source target n) :
    p.Converts source target (some (.nested n)) := by
  cases h with
  | declared route_eq h => exact .declared route_eq h
  | inProgress nestable _ source_eq target_eq =>
    exact .supplied nestable (Prod.ext source_eq target_eq)
  | again nestable _ pair_eq => exact .supplied nestable pair_eq

theorem converted_of_wants (wants : p.Wants m pair source target)
    (writes : pair.action? (p.strategyOf m) conversion.isSome = some action)
    (converts : p.Converts source target conversion) :
    p.Converted m ⟨pair.source, pair.target, action, conversion⟩ := by
  have prescribed : PlannedProperty.Prescribed (p.strategyOf m)
      ⟨pair.source, pair.target, action, conversion⟩ := writes
  have types : conversionTypes pair = _ := prescribed.conversionTypes_eq
  obtain ⟨rfl, target_eq⟩ := wants
  rw [types] at target_eq converts
  exact ⟨target, target_eq, converts⟩

/-- **Every property is converted by what the resolution of its types gives.** -/
theorem Planned.converted (h : p.Planned deeper frames m pairs s xs t) :
    ∀ x ∈ xs, p.Converted m x := by
  induction h with
  | nil => exact fun x mem => absurd mem List.not_mem_nil
  | skip _ _ ih => exact ih
  | direct wants direct writes _ ih =>
    exact List.forall_mem_cons.mpr ⟨converted_of_wants wants writes (.direct direct), ih⟩
  | known wants known writes _ ih =>
    exact List.forall_mem_cons.mpr ⟨converted_of_wants wants writes known.converts, ih⟩
  | fresh wants fresh writes _ _ _ _ ihRest =>
    exact List.forall_mem_cons.mpr
      ⟨converted_of_wants wants writes (.supplied fresh.toNestable rfl), ihRest⟩

/-- How the properties of a planned tree are converted: those of the root with its hints, those of an
embedded plan with the hints of the method that is derived for its types, which has none. -/
structure ConvertedTree (p : Planner) (root : MappingMethod) (plan : MappingPlan) : Prop where
  root : ∀ x ∈ plan.properties, p.Converted root x
  derived : ∀ q ∈ embedded plan.properties, ∀ x ∈ q.properties,
    p.Converted (p.derivedMethod q.sourceType q.targetType) x

/-- **The properties of a planned tree are converted by what the resolution of their types gives.** -/
theorem convertedTree_of_gives {root : MappingMethod} {plan : MappingPlan} (nothing : s.derived = [])
    (h : (p.planRoot root).Gives s plan t) : p.ConvertedTree root plan := by
  obtain ⟨pairs, u, xs, opens, planned, rfl⟩ := planRoot_gives h
  have bare : Bare u := bare_of_nil (opens.derived_eq.trans nothing)
  refine ⟨planned.converted, fun q mem => ?_⟩
  obtain ⟨source, target, _, _, _, _, ys, _, -, inner, rfl⟩ := planned.hasDerivation bare q mem
  exact inner.converted

end Planner

/-- The properties of an accepted tree are converted by what the resolution of their types gives. -/
theorem Generator.convertedTree_of_gives {g : Generator} {declared : List MappingMethod}
    {m : MappingMethod} {v : VerifiedPlan} {s t : ShapeCache} (h : (g.plan declared m).Gives s v t) :
    (g.planner declared m).ConvertedTree m v.plan := by
  obtain ⟨w, hp, -⟩ := plan_gives h
  exact Planner.convertedTree_of_gives rfl hp

end BeanMapping
