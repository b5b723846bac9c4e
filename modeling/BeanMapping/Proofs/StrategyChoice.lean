import BeanMapping.Proofs.Linking
import BeanMapping.Proofs.NewTargets
import BeanMapping.Proofs.ShapeViews

/-!
# What the strategy for collections decides

A strategy chooses between the members of a target collection, and nothing else. So two plannings of a
method by different strategies go side by side: they see the same shapes and have derived the same methods,
and what they plan is the same but for actions (`SameButAction`, `MappingPlan.SameButActions`), of which
both work element by element or neither does (`action?_isElementWise`).

In a new target it makes no difference whether elements are appended or set. A run into a new target comes
to the same, by induction on the depth of the source: nested methods run over values inside of it.

Results:
* **`Planner.planRoot_follows`**: the planning of a root by other strategies;
* **`CompiledMapping.mapped_eq`**: mappings whose plans are the same but for actions give the same;
* **`Generator.map_ignores_strategy`**: a new target does not tell the strategy.
-/

namespace BeanMapping

/-! ## Plans that differ in actions -/

/-- The plans of the tree that a conversion may embed. -/
def Conversion.plans (c : Option (Conversion MappingPlan)) : List MappingPlan :=
  (c.bind Conversion.plan?).toList.flatMap MappingPlan.postorder

/-- **Two properties are the same but for the action and for plans that they embed.** -/
structure PlannedProperty.SameButAction (x y : PlannedProperty MappingPlan) : Prop where
  source_eq : x.source = y.source
  target_eq : x.target = y.target
  conversion_eq : x.conversion.map Conversion.bare = y.conversion.map Conversion.bare
  isElementWise_eq : x.action.isElementWise = y.action.isElementWise

/-- **Two plans are the same but for the actions of their properties**, and for plans that these embed. -/
structure MappingPlan.SameButActions (p q : MappingPlan) : Prop where
  method_eq : p.method = q.method
  sourceType_eq : p.sourceType = q.sourceType
  targetType_eq : p.targetType = q.targetType
  properties : List.Forall₂ PlannedProperty.SameButAction p.properties q.properties

open MappingPlan (SameButActions embedded)
open PlannedProperty (SameButAction)

theorem MappingPlan.SameButActions.refl (p : MappingPlan) : p.SameButActions p :=
  ⟨rfl, rfl, rfl, List.forall₂_same.mpr fun _ _ => ⟨rfl, rfl, rfl, rfl⟩⟩

/-- Conversions that are the same but for the actions in the trees that they embed. -/
structure SameConversion (c d : Option (Conversion MappingPlan)) : Prop where
  bare_eq : c.map Conversion.bare = d.map Conversion.bare
  plans : List.Forall₂ SameButActions (Conversion.plans c) (Conversion.plans d)

theorem SameConversion.refl (c : Option (Conversion MappingPlan)) : SameConversion c c :=
  ⟨rfl, List.forall₂_same.mpr fun p _ => .refl p⟩

/-- Properties that are the same but for the actions, also in the trees that they embed. -/
structure SameProperties (xs ys : List (PlannedProperty MappingPlan)) : Prop where
  each : List.Forall₂ SameButAction xs ys
  plans : List.Forall₂ SameButActions (embedded xs) (embedded ys)

/-- The plans of two trees are the same but for actions. -/
def SameTree (p q : MappingPlan) : Prop := List.Forall₂ SameButActions p.postorder q.postorder

section Plans

variable {xs ys xs' ys' : List (PlannedProperty MappingPlan)} {x y : PlannedProperty MappingPlan}

theorem embedded_singleton (x : PlannedProperty MappingPlan) :
    embedded [x] = Conversion.plans x.conversion := by
  unfold MappingPlan.embedded Conversion.plans
  show _ = x.plan?.toList.flatMap MappingPlan.postorder
  cases h : x.plan? with
  | none => rw [List.filterMap_cons_none h]; rfl
  | some q => rw [List.filterMap_cons_some h]; rfl

theorem plans_of_nested {n : NestedMapping MappingPlan} {q : MappingPlan} (h : n.plan = some q) :
    Conversion.plans (some (.nested n)) = q.postorder := by
  unfold Conversion.plans
  rw [Option.bind_some, Conversion.plan?, h, Option.toList_some, List.flatMap_singleton]

theorem SameProperties.nil : SameProperties [] [] := ⟨.nil, .nil⟩

theorem SameProperties.append (h : SameProperties xs ys) (h' : SameProperties xs' ys') :
    SameProperties (xs ++ xs') (ys ++ ys') := by
  refine ⟨List.rel_append h.each h'.each, ?_⟩
  rw [MappingPlan.embedded_append, MappingPlan.embedded_append]
  exact List.rel_append h.plans h'.plans

theorem SameProperties.singleton (same : SameConversion x.conversion y.conversion)
    (source_eq : x.source = y.source) (target_eq : x.target = y.target)
    (isElementWise_eq : x.action.isElementWise = y.action.isElementWise) : SameProperties [x] [y] := by
  refine ⟨.cons ⟨source_eq, target_eq, same.bare_eq, isElementWise_eq⟩ .nil, ?_⟩
  rw [embedded_singleton, embedded_singleton]
  exact same.plans

/-- Trees are the same if their roots and the properties of these are. -/
theorem SameProperties.sameTree {p q : MappingPlan} (h : SameProperties p.properties q.properties)
    (method_eq : p.method = q.method) (sourceType_eq : p.sourceType = q.sourceType)
    (targetType_eq : p.targetType = q.targetType) : SameTree p q := by
  unfold SameTree
  rw [MappingPlan.postorder_eq_embedded, MappingPlan.postorder_eq_embedded]
  exact List.rel_append h.plans (.cons ⟨method_eq, sourceType_eq, targetType_eq, h.each⟩ .nil)

end Plans

/-! ## Actions -/

/-- **Whatever the strategy is**, a pair can be written or not, and is written element by element or
not. -/
theorem CorrelatedProperty.action?_isElementWise (pair : CorrelatedProperty)
    (a b : CollectionStrategy) (converts : Bool) :
    (pair.action? a converts).map PropertyAction.isElementWise =
      (pair.action? b converts).map PropertyAction.isElementWise := by
  have collection : ∀ strategy, (collectionAction? strategy pair.target).map PropertyAction.isElementWise =
      if pair.target.hasSetter || pair.target.hasAdder || pair.target.isReadable then some true
      else none := by
    intro strategy
    unfold collectionAction?
    cases pair.target.hasSetter <;> cases pair.target.hasAdder <;> cases pair.target.isReadable <;>
      cases strategy <;> rfl
  unfold action?
  split
  · rw [collection, collection]
  · rfl

/-! ## Planning -/

/-- The method with another strategy. -/
def MappingMethod.withStrategy (m : MappingMethod) (strategy : Option CollectionStrategy) :
    MappingMethod :=
  { m with strategy }

namespace Planner

open Narrated

/-- The planner with other strategies: one for methods that have none of their own, and one for derived
methods. -/
def withStrategies (p : Planner) (common derived : CollectionStrategy) : Planner :=
  { p with config := { p.config with collectionStrategy := common }, strategy := derived }

variable {p : Planner} {a b : CollectionStrategy} {z : Option CollectionStrategy} {m : MappingMethod}
  {nested nested' : TypeName → TypeName → Plans (Option (NestedMapping MappingPlan))}
  {supply supply' : Supplier} {frames : List Frame}

theorem introspect_follows (t : TypeName) :
    (p.introspect t).Follows ((p.withStrategies a b).introspect t) Eq p.SameSight := by
  intro s s' sight shape u gives
  obtain ⟨view, derived⟩ := sight
  obtain ⟨found, rfl⟩ := introspect_gives_iff.mp gives
  refine ⟨shape, _, introspect_gives_iff.mpr ⟨?_, rfl⟩, rfl, ?_, derived⟩
  · show p.view s' t = .ok shape
    rw [view]
    exact found
  · have here := Introspection.introspect_cacheAfter p.types p.inflector s.shapes t
    have there := Introspection.introspect_cacheAfter p.types p.inflector s'.shapes t
    exact there.trans (view.trans here.symm)

theorem introspectTarget_follows (t : TypeName) :
    (p.introspectTarget t).Follows ((p.withStrategies a b).introspectTarget t) Eq p.SameSight := by
  unfold introspectTarget
  refine (introspect_follows t).bind fun shape _ same => ?_
  subst same
  exact follows_ofExcept _

theorem correlate_follows (source target : BeanShape) (o : PropertyOptions) :
    (p.correlate source target o).Follows ((p.withStrategies a b).correlate source target o) Eq
      p.SameSight := by
  unfold correlate
  exact (follows_tell _ _).bind fun _ _ _ => follows_ofExcept _

/-- Two answers to the question for a mapping. -/
def SameAnswer (n n' : Option (NestedMapping MappingPlan)) : Prop :=
  SameConversion (n.map .nested) (n'.map .nested)

theorem resolve_follows
    (h : ∀ source target, (nested source target).Follows (nested' source target) SameAnswer p.SameSight)
    (property : String) (source target : TypeName) (hint : Option TypeName) :
    (Resolution.resolve p.types p.book nested property source target hint).Follows
      (Resolution.resolve p.types p.book nested' property source target hint) SameConversion
      p.SameSight := by
  unfold Resolution.resolve
  refine (follows_ofExcept _).bind fun target _ same => ?_
  subst same
  refine (follows_tell _ _).bind fun _ _ _ => ?_
  unfold Resolution.follow
  split
  · exact follows_pure (.refl _)
  · exact follows_pure (.refl _)
  · exact follows_pure (.refl _)
  · exact follows_pure (.refl _)
  · refine (h source target).bind fun n n' same => ?_
    cases n with
    | none => exact follows_reject _ _
    | some n =>
      cases n' with
      | none => exact absurd same.bare_eq (by simp)
      | some n' => exact (follows_tell _ _).bind fun _ _ _ => follows_pure same

theorem planPair_follows
    (h : ∀ source target, (nested source target).Follows (nested' source target) SameAnswer p.SameSight)
    (pair : CorrelatedProperty) :
    (p.planPair nested m pair).Follows ((p.withStrategies a b).planPair nested' (m.withStrategy z) pair)
      (fun x y => SameProperties x.toList y.toList) p.SameSight := by
  unfold planPair
  refine (follows_tell _ _).bind fun _ _ _ => ?_
  have alike := pair.action?_isElementWise (m.strategy.getD p.config.collectionStrategy)
    ((m.withStrategy z).strategy.getD (p.withStrategies a b).config.collectionStrategy)
  have first := alike false
  split
  · rename_i unwritable
    rw [unwritable, Option.map_none, eq_comm, Option.map_eq_none_iff] at first
    rw [first]
    exact follows_pure .nil
  · rename_i writable
    rw [writable, Option.map_some] at first
    obtain ⟨action', writable', -⟩ := Option.map_eq_some_iff.mp first.symm
    rw [writable']
    refine ((resolve_follows h _ _ _ _).within _ _).bind fun c d same => ?_
    refine (follows_tell _ _).bind fun _ _ _ => follows_pure ?_
    have converts : c.isSome = d.isSome := by
      have same := congrArg Option.isSome same.bare_eq
      rwa [Option.isSome_map, Option.isSome_map] at same
    have second := alike c.isSome
    rw [← converts]
    cases action : pair.action? (m.strategy.getD p.config.collectionStrategy) c.isSome with
    | none =>
      rw [action, Option.map_none, eq_comm, Option.map_eq_none_iff] at second
      rw [second]
      exact .nil
    | some action =>
      rw [action, Option.map_some] at second
      obtain ⟨action', found, isElementWise_eq⟩ := Option.map_eq_some_iff.mp second.symm
      rw [found]
      exact .singleton same rfl rfl isElementWise_eq.symm

theorem planPairs_follows
    (h : ∀ source target, (nested source target).Follows (nested' source target) SameAnswer p.SameSight) :
    ∀ pairs : List CorrelatedProperty,
      (p.planPairs nested m pairs).Follows
        ((p.withStrategies a b).planPairs nested' (m.withStrategy z) pairs) SameProperties p.SameSight
  | [] => follows_pure .nil
  | pair :: rest => by
    unfold planPairs
    refine (planPair_follows h pair).bind fun x y first => ?_
    exact (planPairs_follows h rest).bind fun xs ys others => follows_pure (first.append others)

/-- One supplier answers as another, for methods with other strategies. -/
def SupplyFollows (p : Planner) (b : CollectionStrategy) (supply supply' : Supplier) : Prop :=
  ∀ frames m, (supply frames m).Follows (supply' frames (m.withStrategy (some b)))
    (Option.Rel SameTree) p.SameSight

theorem nestedMapping_follows (h : p.SupplyFollows b supply supply') (source target : TypeName) :
    (p.nestedMapping supply frames source target).Follows
      ((p.withStrategies a b).nestedMapping supply' frames source target) SameAnswer p.SameSight := by
  unfold nestedMapping
  rw [show (p.withStrategies a b).declaredMapping? source target = p.declaredMapping? source target
    from rfl]
  split
  · exact follows_pure (.refl _)
  · rw [show (p.withStrategies a b).types = p.types from rfl]
    split
    · exact follows_pure (.refl _)
    · split
      · exact (follows_tell _ _).bind fun _ _ _ => follows_pure (.refl _)
      · refine follows_get.bind fun s s' sight => ?_
        rw [sight.2]
        split
        · exact (follows_tell _ _).bind fun _ _ _ => follows_pure (.refl _)
        · refine (h frames (p.derivedMethod source target)).bind fun o o' answers => ?_
          cases answers with
          | none => exact follows_pure (.refl _)
          | some same =>
            refine (follows_modify fun s s' sight => ?_).bind fun _ _ _ => follows_pure ?_
            · exact ⟨sight.1, congrArg (· ++ [_]) sight.2⟩
            · refine ⟨rfl, ?_⟩
              rw [Option.map_some, Option.map_some, plans_of_nested rfl, plans_of_nested rfl]
              exact same

theorem planWith_follows (h : p.SupplyFollows b supply supply') :
    (p.planWith supply frames m).Follows
      ((p.withStrategies a b).planWith supply' frames (m.withStrategy z)) SameTree p.SameSight := by
  unfold planWith
  refine (introspect_follows _).bind fun source _ same => ?_
  subst same
  refine (introspectTarget_follows _).bind fun target _ same => ?_
  subst same
  refine (correlate_follows source target _).bind fun pairs _ same => ?_
  subst same
  refine (planPairs_follows (nestedMapping_follows h) pairs).bind fun xs ys same => ?_
  refine (follows_tell _ _).bind fun _ _ _ => follows_pure ?_
  exact SameProperties.sameTree same rfl rfl rfl

/-- Derived plans follow: by induction on how much deeper methods may be nested. -/
theorem derive_follows : ∀ deeper : Nat,
    p.SupplyFollows b (p.derive deeper) ((p.withStrategies a b).derive deeper)
  | 0 => fun frames m => by
    unfold derive
    exact (follows_tell _ _).bind fun _ _ _ => follows_pure .none
  | deeper + 1 => fun frames m => by
    unfold derive
    refine Follows.within (Follows.map (planWith_follows (derive_follows deeper)) ?_) _ _
    exact fun _ _ same => .some same

/-- **The planning of a root by other strategies**: it succeeds as well, with a tree that is the same but
for actions. -/
theorem planRoot_follows (root : MappingMethod) :
    (p.planRoot root).Follows ((p.withStrategies a b).planRoot (root.withStrategy z)) SameTree
      p.SameSight :=
  planWith_follows (derive_follows _)

end Planner

/-! ## Runs -/

namespace CompiledMapping

variable {c c' : CompiledMapping} {x y : PlannedProperty MappingPlan} {u v : Json} {n : Nat}
  {conversion : Option (Conversion MappingPlan)} {xs ys : List (PlannedProperty MappingPlan)}

/-- **Two mappings whose plans are the same but for actions**, and write each target property once. -/
structure SameMappings (c c' : CompiledMapping) : Prop where
  converters_eq : c.converters = c'.converters
  plans : ∀ name, Option.Rel SameButActions (c.plans.find? name) (c'.plans.find? name)
  distinct : ∀ name q, c.plans.find? name = some q → (q.properties.map (·.target.name)).Nodup

/-- The methods of two mappings give the same for all values of less than some depth. -/
def GiveSameBelow (c c' : CompiledMapping) (n : Nat) : Prop :=
  ∀ v : Json, v.depth < n → ∀ method, c.mapped method v = c'.mapped method v

/-- A conversion does not look at a plan that it embeds. -/
theorem converted_bare (c : CompiledMapping) (conversion : Option (Conversion MappingPlan)) (v : Json) :
    c.converted (conversion.map Conversion.bare) v = c.converted conversion v := by
  rcases conversion with _ | (b | ⟨path, target, failures⟩ | n) <;> rfl

theorem SameMappings.converted_eq (h : c.SameMappings c') (below : c.GiveSameBelow c' n)
    (hv : v.depth < n) (conversion : Option (Conversion MappingPlan)) :
    c.converted conversion v = c'.converted conversion v := by
  unfold converted
  rcases conversion with _ | (b | ⟨path, target, failures⟩ | nested)
  · rfl
  · rfl
  · rw [h.converters_eq]
  · exact below v hv nested.method

theorem convertedAll_congr :
    ∀ items : List Json, (∀ v ∈ items, c.converted conversion v = c'.converted conversion v) →
      c.convertedAll conversion items = c'.convertedAll conversion items
  | [], _ => rfl
  | v :: rest, same => by
    have others := convertedAll_congr rest fun w hw => same w (List.mem_cons_of_mem v hw)
    unfold convertedAll at others ⊢
    rw [List.mapM_cons, List.mapM_cons, same v List.mem_cons_self, others]

/-- **Properties that are the same but for their actions write the same.** -/
theorem SameMappings.written_eq (h : c.SameMappings c') (same : x.SameButAction y)
    (below : c.GiveSameBelow c' n) (hv : v.depth < n) : c.written x v = c'.written y v := by
  have conversion : ∀ w, c'.converted y.conversion w = c'.converted x.conversion w := by
    intro w
    rw [← converted_bare, ← same.conversion_eq, converted_bare]
  have conversions : ∀ items, c'.convertedAll y.conversion items = c'.convertedAll x.conversion items := by
    intro items
    unfold convertedAll
    rw [funext conversion]
  unfold written
  rw [← same.isElementWise_eq, ← same.source_eq, conversion, ← h.converted_eq below hv]
  split
  · cases found : elementsOf x.source.name v with
    | error e => rfl
    | ok items =>
      obtain rfl := eq_arr_of_elementsOf found
      have each : ∀ w ∈ items, c.converted x.conversion w = c'.converted x.conversion w :=
        fun w hw => h.converted_eq below (Nat.lt_trans (Json.depth_lt_of_mem_arr hw) hv) _
      show (c.convertedAll x.conversion items).map _ = (c'.convertedAll y.conversion items).map _
      rw [conversions, convertedAll_congr items each]
  · rfl

theorem SameMappings.filled_eq (h : c.SameMappings c') {source : Members}
    (below : c.GiveSameBelow c' (Json.obj source).depth)
    (same : List.Forall₂ SameButAction xs ys) (s : Members) :
    c.filled source xs s = c'.filled source ys s := by
  induction same generalizing s with
  | nil => rfl
  | cons same _ ih =>
    rename_i x y xs ys _
    rcases exists_hasValue_or source x with ⟨v, value⟩ | none
    · have value' : HasValue source y v := by
        unfold HasValue
        rw [← same.source_eq]
        exact value
      rw [filled_cons_of_hasValue value, filled_cons_of_hasValue value',
        h.written_eq same below (Json.depth_lt_of_find? value.1), same.target_eq]
      simp only [ih]
    · have none' : ∀ v, ¬ HasValue source y v := by
        unfold HasValue
        rw [← same.source_eq]
        exact none
      rw [filled_cons_of_absent none, filled_cons_of_absent none', ih]

theorem targets_eq (same : List.Forall₂ SameButAction xs ys) :
    xs.map (·.target.name) = ys.map (·.target.name) := by
  induction same with
  | nil => rfl
  | cons same _ ih => rw [List.map_cons, List.map_cons, same.target_eq, ih]

/-- **Mappings whose plans are the same but for actions give the same**: by induction on the depth of the
value. -/
theorem SameMappings.giveSameBelow (h : c.SameMappings c') : ∀ n, c.GiveSameBelow c' n := by
  intro n
  induction n with
  | zero => exact fun v hv => absurd hv (Nat.not_lt_zero _)
  | succ n ih =>
    intro v hv method
    have plans := h.plans method
    have distinct := h.distinct method
    cases found : c.plans.find? method with
    | none =>
      rw [found] at plans
      cases found' : c'.plans.find? method with
      | some => rw [found'] at plans; cases plans
      | none => rw [mapped_of_unknown found, mapped_of_unknown found']
    | some p =>
      rw [found] at plans
      cases found' : c'.plans.find? method with
      | none => rw [found'] at plans; cases plans
      | some q =>
        rw [found'] at plans
        obtain same : p.SameButActions q := by cases plans; assumption
        by_cases object : ∃ fields, v = .obj fields
        · obtain ⟨fields, rfl⟩ := object
          have below : c.GiveSameBelow c' (Json.obj fields).depth := fun w hw =>
            ih w (Nat.lt_of_lt_of_le hw (Nat.le_of_lt_succ hv))
          have distinct' := distinct p found
          rw [mapped_eq_filled found distinct', h.filled_eq below same.properties]
          rw [targets_eq same.properties] at distinct'
          rw [mapped_eq_filled found' distinct']
        · have plain : ∀ fields, v ≠ .obj fields := fun fields same => object ⟨fields, same⟩
          rw [mapped_of_plain found plain, mapped_of_plain found' plain, same.sourceType_eq]

theorem SameMappings.mapped_eq (h : c.SameMappings c') (method : String) (v : Json) :
    c.mapped method v = c'.mapped method v :=
  h.giveSameBelow (v.depth + 1) v (Nat.lt_succ_self _) method

/-- A run into a new target comes to what its method gives. -/
theorem map_eq_of_mapped {source : Json} (h : c.mapped c.method source = c'.mapped c'.method source) :
    (c.map source).result = (c'.map source).result ∧
      ((c.map source).result = .ok () → (c.map source).state = (c'.map source).state) := by
  have results : (c.map source).result.map (fun _ => (c.map source).state) =
      (c'.map source).result.map fun _ => (c'.map source).state := h
  cases left : (c.map source).result <;> cases right : (c'.map source).result <;>
    simp_all [Except.map]

end CompiledMapping

/-! ## Roots -/

namespace Generator

open CompiledMapping (compile)

/-- The generator with another strategy. -/
def withStrategy (g : Generator) (strategy : CollectionStrategy) : Generator :=
  { g with config := { g.config with collectionStrategy := strategy }, valid := g.valid }

variable {g : Generator} {declared : List MappingMethod} {m : MappingMethod}
  {shapes shapes' : ShapeCache} {v v' : VerifiedPlan} {c c' : CompiledMapping}
  {converters : ConverterTable} {σ : Type} {s s' : σ}

/-- Roots that differ in strategies are compiled to mappings that are the same but for actions. -/
theorem sameMappings_of_compiled (a : CollectionStrategy) (z : Option CollectionStrategy)
    (introspected : shapes.Introspected) (view : g.view shapes' = g.view shapes)
    (planned : ((g.plan declared m).run shapes).result = .ok v)
    (planned' : (((g.withStrategy a).plan declared (m.withStrategy z)).run shapes').result = .ok v')
    (compiled : ((compile converters m v).run s).result = .ok c)
    (compiled' : ((compile converters (m.withStrategy z) v').run s').result = .ok c') :
    c.SameMappings c' ∧ c.method = c'.method := by
  obtain ⟨w, gives, -⟩ := plan_gives (Narrated.gives_of_result planned)
  obtain ⟨w', gives', -⟩ := plan_gives (Narrated.gives_of_result planned')
  have sight : (g.planner declared m).SameSight ⟨shapes, []⟩ ⟨shapes', []⟩ := ⟨view, rfl⟩
  have follows := Planner.planRoot_follows (p := g.planner declared m) (a := a) (b := z.getD a) (z := z) m
  obtain ⟨plan, t, second, same, -⟩ := follows _ _ sight v.plan w gives
  obtain ⟨rfl, -⟩ := second.unique gives'
  have sound : ShapeView.Sound ((g.planner declared m).view ⟨shapes, []⟩) := introspected.sound _ _
  have distinct := Planner.distinct_targets_of_gives sound rfl gives
  obtain rfl := CompiledMapping.compile_gives (Narrated.gives_of_result compiled)
  obtain rfl := CompiledMapping.compile_gives (Narrated.gives_of_result compiled')
  refine ⟨⟨rfl, fun name => ?_, fun name q found => ?_⟩, rfl⟩
  · dsimp only
    rw [PlanTable.find?_ofPlan, PlanTable.find?_ofPlan]
    refine find?_rel same fun p q alike => ?_
    rw [alike.method_eq]
  · exact distinct q (PlanTable.find?_ofPlan_some found).1

/-- **A new target does not tell the strategy.** Whatever two strategies a method is accepted under, of the
generator or its own, the mappings that are compiled over the same converters come to the same for every
source: to the same target, or to the same error. The caches that the two were planned over show the same
shapes. -/
theorem map_ignores_strategy (a : CollectionStrategy) (z : Option CollectionStrategy)
    (introspected : shapes.Introspected) (view : g.view shapes' = g.view shapes)
    (planned : ((g.plan declared m).run shapes).result = .ok v)
    (planned' : (((g.withStrategy a).plan declared (m.withStrategy z)).run shapes').result = .ok v')
    (compiled : ((compile converters m v).run s).result = .ok c)
    (compiled' : ((compile converters (m.withStrategy z) v').run s').result = .ok c') (source : Json) :
    (c.map source).result = (c'.map source).result ∧
      ((c.map source).result = .ok () → (c.map source).state = (c'.map source).state) := by
  obtain ⟨same, method_eq⟩ :=
    sameMappings_of_compiled a z introspected view planned planned' compiled compiled'
  refine CompiledMapping.map_eq_of_mapped ?_
  rw [← method_eq]
  exact same.mapped_eq c.method source

/-! ### Shelters -/

/-- Shelters with pets and tags, which can be set as a whole or added one by one. -/
def shelters : Generator where
  types := .ofList [
    ⟨⟨"Pet"⟩, .bean, [], [.getter "getName" ⟨"String"⟩, .getter "getToys" ⟨"Vec<String>"⟩]⟩,
    ⟨⟨"PetDto"⟩, .bean, [], [.writer "setName" ⟨"String"⟩, .writer "setToys" ⟨"Vec<String>"⟩,
      .writer "addToy" ⟨"String"⟩]⟩,
    ⟨⟨"Shelter"⟩, .bean, [], [.getter "getPets" ⟨"Vec<Pet>"⟩]⟩,
    ⟨⟨"ShelterDto"⟩, .bean, [], [.writer "setPets" ⟨"Vec<PetDto>"⟩, .writer "addPet" ⟨"PetDto"⟩]⟩]
  config := .default
  book := .empty
  valid := GeneratorConfig.fault?_default

/-- Maps a shelter. -/
def mapShelter : MappingMethod where
  name := "shelter_to_dto"
  sourceType := ⟨"Shelter"⟩
  targetType := ⟨"ShelterDto"⟩

/-- What is planned for a shelter, over some shapes. -/
def shelterPlanned : Narration Report Event ShapeCache VerifiedPlan :=
  (shelters.plan [] mapShelter).run .empty

/-- What is planned for a shelter by a strategy of its own, over the shapes that are left. -/
def shelterPlannedAdding : Narration Report Event ShapeCache VerifiedPlan :=
  ((shelters.withStrategy .preferSetter).plan []
    (mapShelter.withStrategy (some .preferAdder))).run shelterPlanned.state

/-- What is compiled for a shelter. -/
def shelterCompiled (v : VerifiedPlan) : Except Report CompiledMapping :=
  ((compile .empty mapShelter v).run ()).result

/-- The actions of a tree. -/
def actionsOf (p : MappingPlan) : List PropertyAction :=
  p.nodes.flatMap fun q => q.properties.map (·.action)

/-- The pets and toys of a shelter are set by one strategy and added by another, with the same outcome. -/
theorem map_ignores_strategy_in_shelters : ∃ v v' c c', shelterPlanned.result = .ok v ∧
    shelterPlannedAdding.result = .ok v' ∧ shelterCompiled v = .ok c ∧ shelterCompiled v' = .ok c' ∧
    actionsOf v.plan = [.replaceSet, .assign, .replaceSet] ∧
    actionsOf v'.plan = [.mergeAdd .adder, .assign, .mergeAdd .adder] ∧
    ∀ source, (c.map source).result = (c'.map source).result ∧
      ((c.map source).result = .ok () → (c.map source).state = (c'.map source).state) := by
  obtain ⟨v, planned, evaluated⟩ := Narrated.exists_ok_of_any
    (show shelterPlanned.result.toOption.any (fun v =>
      actionsOf v.plan == [.replaceSet, .assign, .replaceSet] && (shelterCompiled v).isOk) = true by
      decide +kernel)
  obtain ⟨v', planned', evaluated'⟩ := Narrated.exists_ok_of_any
    (show shelterPlannedAdding.result.toOption.any (fun v =>
      actionsOf v.plan == [.mergeAdd .adder, .assign, .mergeAdd .adder] &&
        (shelterCompiled v).isOk) = true by decide +kernel)
  rw [Bool.and_eq_true, beq_iff_eq] at evaluated evaluated'
  obtain ⟨c, compiled⟩ := Narrated.isOk_eq_true_iff.mp evaluated.2
  obtain ⟨c', compiled'⟩ := Narrated.isOk_eq_true_iff.mp evaluated'.2
  have keeps : (shelters.plan [] mapShelter).Keeps
    fun shapes => shelters.view shapes = shelters.view .empty := view_plan _
  refine ⟨v, v', c, c', planned, planned', compiled, compiled', evaluated.1, evaluated'.1,
    fun source => ?_⟩
  unfold shelterPlannedAdding at planned'
  unfold shelterPlanned at planned planned'
  unfold shelterCompiled at compiled compiled'
  exact map_ignores_strategy .preferSetter (some .preferAdder) ShapeCache.introspected_empty
    (keeps .empty rfl) planned planned' compiled compiled' source

end Generator

end BeanMapping
