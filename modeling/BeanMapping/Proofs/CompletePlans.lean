import BeanMapping.Proofs.Conversions
import BeanMapping.Proofs.PlannedShapes
import BeanMapping.Proofs.ShapeViews

/-!
# Plans lose nothing

The planner chooses how a pair is written twice: before its conversion is resolved, where a pair that
cannot be written is left out, and again when it is known whether something converts. Both choices agree on
what can be written (`action?_isSome`), so the second leaves nothing out, and the planned properties are the
pairs of the method less those whose target offers no member for them (`Planned.sides_eq`).

What is chosen is well-formed whatever the strategy (`Prescribed.wellFormed`): there is a member to call, and
the action tells whether elements are written and whether something converts.

Result:
* **`plan_is_complete`**: the plan of a root, and each plan that was derived for it, has all that its method
  can write and is well-formed.
-/

namespace BeanMapping

/-! ## Pairs that can be written -/

namespace CorrelatedProperty

variable {strategy : CollectionStrategy} {pair : CorrelatedProperty}

/-- Whether the target can be written: a collection from a collection through a setter, an adder or the
collection that a getter returns, anything else through a setter. -/
def canBeWritten (pair : CorrelatedProperty) : Bool :=
  if pair.isCollectionPair then
    pair.target.hasSetter || pair.target.hasAdder || pair.target.isReadable
  else pair.target.hasSetter

/-- **No strategy decides whether a pair is written**, nor does what converts it. -/
theorem action?_isSome (strategy : CollectionStrategy) (pair : CorrelatedProperty) (converts : Bool) :
    (pair.action? strategy converts).isSome = pair.canBeWritten := by
  unfold action? canBeWritten
  by_cases collections : pair.isCollectionPair = true
  · rw [if_pos collections, if_pos collections]
    unfold collectionAction?
    cases pair.target.hasSetter <;> cases pair.target.hasAdder <;> cases pair.target.isReadable <;>
      cases strategy <;> rfl
  · rw [if_neg collections, if_neg collections]
    cases pair.target.hasSetter <;> rfl

theorem canBeWritten_of_action? {converts : Bool} {action : PropertyAction}
    (writes : pair.action? strategy converts = some action) : pair.canBeWritten = true := by
  rw [← action?_isSome strategy pair converts, writes]
  rfl

end CorrelatedProperty

/-! ## Well-formed properties -/

namespace PlannedProperty

variable {x : PlannedProperty MappingPlan} {strategy : CollectionStrategy}

/-- Whether elements are written: both the source and the target are collections. -/
def OfCollections (x : PlannedProperty MappingPlan) : Prop :=
  x.source.isCollection = true ∧ x.target.isCollection = true

/-- **A planned property is well-formed**: its action has a member to call, works on elements exactly
between collections, and tells otherwise whether the value is converted. -/
structure WellFormed (x : PlannedProperty MappingPlan) : Prop where
  mutator : x.mutator?.isSome = true
  isElementWise_iff : x.action.isElementWise = true ↔ x.OfCollections
  assign_iff : x.action = .assign ↔ ¬ x.OfCollections ∧ x.conversion = none
  convertAssign_iff : x.action = .convertAssign ↔ ¬ x.OfCollections ∧ x.conversion ≠ none

/-- The member that a collection is written through is there. -/
theorem mutator_of_collectionAction?
    (h : CorrelatedProperty.collectionAction? strategy x.target = some x.action) :
    x.mutator?.isSome = true := by
  unfold CorrelatedProperty.collectionAction? at h
  unfold mutator?
  split at h
  · rename_i setter adder
    split at h
    · rw [← Option.some.inj h]
      exact adder
    · rw [← Option.some.inj h]
      exact setter
  · rename_i setter _
    rw [← Option.some.inj h]
    exact setter
  · rename_i _ adder
    rw [← Option.some.inj h]
    exact adder
  · split at h
    · rename_i readable
      rw [← Option.some.inj h]
      exact readable
    · cases h

/-- **What a strategy prescribes is well-formed.** -/
theorem Prescribed.wellFormed (h : x.Prescribed strategy) : x.WellFormed := by
  have elementWise : x.action.isElementWise = true ↔ x.OfCollections := by
    rw [h.isElementWise_eq]
    exact Bool.and_eq_true_iff
  unfold Prescribed CorrelatedProperty.action? at h
  split at h
  · rename_i collections
    have between : x.OfCollections := Bool.and_eq_true_iff.mp collections
    refine ⟨mutator_of_collectionAction? h, elementWise,
      iff_of_false (fun assigns => ?_) fun single => single.1 between,
      iff_of_false (fun assigns => ?_) fun single => single.1 between⟩ <;>
    · have element := elementWise.mpr between
      rw [assigns] at element
      cases element
  · rename_i collections
    have single : ¬ x.OfCollections := fun between => collections (Bool.and_eq_true_iff.mpr between)
    split at h
    · rename_i setter
      have action_eq := Option.some.inj h
      refine ⟨?_, elementWise, ?_, ?_⟩
      · unfold mutator?
        cases converts : x.conversion.isSome <;> rw [converts] at action_eq <;> rw [← action_eq] <;>
          exact setter
      · cases converts : x.conversion <;> rw [converts] at action_eq <;> simp [← action_eq, single]
      · cases converts : x.conversion <;> rw [converts] at action_eq <;> simp [← action_eq, single]
    · cases h

end PlannedProperty

/-! ## Planned pairs -/

namespace Planner

open MappingPlan (embedded)

variable {p : Planner} {deeper : Nat} {frames : List Frame} {m : MappingMethod}
  {pairs : List CorrelatedProperty} {s t : PlanState} {xs : List (PlannedProperty MappingPlan)}
  {shapes : ShapeView}

/-- **The planned properties are the pairs that can be written**, each once and in their order. -/
theorem Planned.sides_eq (h : p.Planned deeper frames m pairs s xs t) :
    xs.map PlannedProperty.sides =
      (pairs.filter CorrelatedProperty.canBeWritten).map CorrelatedProperty.sides := by
  induction h with
  | nil => rfl
  | @skip _ _ m pair _ _ _ _ unwritable _ ih =>
    have left : ¬ pair.canBeWritten = true := by
      rw [← CorrelatedProperty.action?_isSome (p.strategyOf m) pair false, unwritable]
      exact Bool.false_ne_true
    rw [List.filter_cons_of_neg left]
    exact ih
  | direct _ _ writes _ ih =>
    rw [List.filter_cons_of_pos (CorrelatedProperty.canBeWritten_of_action? writes)]
    exact congrArg (_ :: ·) ih
  | known _ _ writes _ ih =>
    rw [List.filter_cons_of_pos (CorrelatedProperty.canBeWritten_of_action? writes)]
    exact congrArg (_ :: ·) ih
  | fresh _ _ writes _ _ _ _ ihRest =>
    rw [List.filter_cons_of_pos (CorrelatedProperty.canBeWritten_of_action? writes)]
    exact congrArg (_ :: ·) ihRest

/-- The values of a property are converted between the types that the action asks for, but for a hint. -/
structure ResolvedFor (p : Planner) (m : MappingMethod) (x : PlannedProperty MappingPlan) : Prop where
  types_eq : ∀ kind, conversionTypes ⟨x.source, x.target, kind⟩ = (x.sourceValueType, x.targetValueType)
  converted : p.Converted m x

/-- **A plan of a method has all that the method can write**, by the shapes in a view, and is
well-formed. -/
structure Complete (p : Planner) (shapes : ShapeView) (m : MappingMethod) (q : MappingPlan) : Prop where
  plan_eq : q = planOf m q.properties
  /-- The properties are the correlated pairs whose target can be written, each once and in their order. -/
  properties_eq : ∃ pairs, p.OpensOver shapes m pairs ∧
    q.properties.map PlannedProperty.sides =
      (pairs.filter CorrelatedProperty.canBeWritten).map CorrelatedProperty.sides
  distinct : (q.properties.map (·.target.name)).Nodup
  readable : ∀ x ∈ q.properties, x.source.isReadable = true
  wellFormed : ∀ x ∈ q.properties, x.WellFormed
  resolved : ∀ x ∈ q.properties, p.ResolvedFor m x

/-- What is planned for a method that is opened over a sound view is complete. -/
theorem Planned.complete (h : p.Planned deeper frames m pairs s xs t)
    (opens : p.OpensOver shapes m pairs) (sound : shapes.Sound) : p.Complete shapes m (planOf m xs) := by
  refine ⟨rfl, ⟨pairs, opens, h.sides_eq⟩, h.distinct_targets opens sound, fun x hx => ?_,
    fun x hx => (h.prescribed x hx).wellFormed,
    fun x hx => ⟨fun _ => (h.prescribed x hx).conversionTypes_eq, h.converted x hx⟩⟩
  obtain ⟨source, target, -, shape, -, correlated⟩ := opens
  have sources := (Correlation.sides_of_correlate (sound _ _ shape).nodup correlated).sources
  obtain ⟨pair, mem, side⟩ := List.mem_map.mp (h.sublist.subset (List.mem_map_of_mem hx))
  have same : pair.source = x.source := congrArg Prod.fst side
  have read := (List.mem_filter.mp (sources.subset (List.mem_map_of_mem mem))).2
  rwa [same] at read

/-- **A plan loses nothing.** Where the planning of a root method succeeds, its plan is complete, and so is
each plan that was derived on the way, for the method that is derived for its types. The shapes are those
that introspection gives over the cache in the beginning. -/
theorem plan_is_complete {root : MappingMethod} {cache : ShapeCache} {plan : MappingPlan}
    (introspected : cache.Introspected) (succeeds : ((p.planRoot root).run ⟨cache, []⟩).result = .ok plan) :
    p.Complete (p.view ⟨cache, []⟩) root plan ∧
    ∀ q ∈ embedded plan.properties,
      p.Complete (p.view ⟨cache, []⟩) (p.derivedMethod q.sourceType q.targetType) q := by
  have sound : ShapeView.Sound (p.view ⟨cache, []⟩) := introspected.sound _ _
  obtain ⟨pairs, u, xs, opens, planned, rfl⟩ := planRoot_gives (Narrated.gives_of_result succeeds)
  obtain ⟨opensOver, opened⟩ := opens.opensOver
  refine ⟨planned.complete opensOver sound, fun q mem => ?_⟩
  have bare : Bare u := bare_of_nil opens.derived_eq
  have origin := planned.origin bare (contracted_of_nil opens.derived_eq) q mem
  rw [opened] at origin
  obtain ⟨-, _, _, _, _, ys, _, opensOver, -, planned, made⟩ := origin
  have complete := planned.complete opensOver sound
  rwa [← made] at complete

/-! ### Baskets of fruit -/

/-- Baskets of fruit: the count is converted, a fruit is mapped and added, notes are put into the list that
is there, and nothing writes the code. -/
def basketPlanner : Planner where
  types := .ofList [
    ⟨⟨"Basket"⟩, .bean, [], [.getter "getLabel" ⟨"String"⟩, .getter "getCount" ⟨"i64"⟩,
      .getter "getFruits" ⟨"Vec<Fruit>"⟩, .getter "getNotes" ⟨"Vec<String>"⟩, .getter "getCode" ⟨"String"⟩]⟩,
    ⟨⟨"BasketDto"⟩, .bean, [], [.writer "setLabel" ⟨"String"⟩, .writer "setCount" ⟨"String"⟩,
      .writer "addFruit" ⟨"FruitDto"⟩, .getter "getNotes" ⟨"Vec<String>"⟩, .getter "getCode" ⟨"String"⟩]⟩,
    ⟨⟨"Fruit"⟩, .bean, [], [.getter "getName" ⟨"String"⟩]⟩,
    ⟨⟨"FruitDto"⟩, .bean, [], [.writer "setName" ⟨"String"⟩]⟩]
  config := .default
  book := .ofFirsts [⟨⟨"i64"⟩, ⟨"String"⟩, "texts::of_count", [], false⟩]
  declared := []
  contract := []
  strategy := .setterOnly

/-- Maps a basket. -/
def mapBasket : MappingMethod where
  name := "map_basket"
  sourceType := ⟨"Basket"⟩
  targetType := ⟨"BasketDto"⟩

/-- What is written, how, and whether it is converted. -/
def outline (plan : MappingPlan) : List (String × PropertyAction × Bool) :=
  plan.properties.map fun x => (x.target.name, x.action, x.conversion.isSome)

/-- How a basket is written. -/
def basketOutline : List (String × PropertyAction × Bool) :=
  [("label", .assign, false), ("count", .convertAssign, true), ("fruit", .mergeAdd .adder, true),
    ("notes", .mergeAdd .getter, false)]

/-- The code is left out, and the plan embeds that of the fruit. -/
theorem plan_is_complete_for_basket : ∃ plan,
    ((basketPlanner.planRoot mapBasket).run ⟨.empty, []⟩).result = .ok plan ∧
    outline plan = basketOutline ∧ (embedded plan.properties).map (·.method) = ["map_fruit_to_fruit_dto"] ∧
    basketPlanner.Complete (basketPlanner.view ⟨.empty, []⟩) mapBasket plan ∧
    ∀ q ∈ embedded plan.properties, basketPlanner.Complete (basketPlanner.view ⟨.empty, []⟩)
      (basketPlanner.derivedMethod q.sourceType q.targetType) q := by
  obtain ⟨plan, planned, evaluated⟩ := Narrated.exists_ok_of_any
    (show ((basketPlanner.planRoot mapBasket).run ⟨.empty, []⟩).result.toOption.any (fun plan =>
      outline plan == basketOutline &&
        (embedded plan.properties).map (·.method) == ["map_fruit_to_fruit_dto"]) = true by decide +kernel)
  rw [Bool.and_eq_true, beq_iff_eq, beq_iff_eq] at evaluated
  exact ⟨plan, planned, evaluated.1, evaluated.2, plan_is_complete ShapeCache.introspected_empty planned⟩

end Planner

end BeanMapping
