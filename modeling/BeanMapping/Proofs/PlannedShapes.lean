import BeanMapping.Proofs.Correlated
import BeanMapping.Proofs.FaithfulCaches

/-!
# Plans and the shapes of their types

The properties of a plan are those of pairs that the shapes of its types correlate to (`OfPairs`): a
method is opened over a faithful cache, so with the shapes that introspection gives, and of its pairs
only those that cannot be written are left out.

Result:
* **`Generator.fits_of_gives`**: every plan of an accepted tree fits the shapes of its types.
-/

namespace BeanMapping

/-- The source and the target property of a pair. -/
def CorrelatedProperty.sides (c : CorrelatedProperty) : Property × Property := (c.source, c.target)

/-- The source and the target property of a planned property. -/
def PlannedProperty.sides {ρ : Type} (x : PlannedProperty ρ) : Property × Property :=
  (x.source, x.target)

namespace Planner

open MappingPlan (embedded)

variable {p : Planner} {deeper : Nat} {frames : List Frame} {m : MappingMethod}
  {pairs : List CorrelatedProperty} {s t u : PlanState} {xs : List (PlannedProperty MappingPlan)}

/-! ## Opened methods -/

/-- The pairs of a method: what the shapes of its types correlate to. -/
def Correlates (p : Planner) (m : MappingMethod) (pairs : List CorrelatedProperty) : Prop :=
  ∃ source target, Introspection.shapeOf p.types p.inflector m.sourceType = .ok source ∧
    Introspection.shapeOf p.types p.inflector m.targetType = .ok target ∧
    Correlation.correlate p.inflector p.config.namePrecedence source target m.options = .ok pairs

theorem introspect_gives {a : TypeName} {shape : BeanShape} (faithful : p.Faithful s)
    (h : (p.introspect a).Gives s shape u) :
    Introspection.shapeOf p.types p.inflector a = .ok shape ∧ p.Faithful u := by
  have kept : p.Faithful u := h.2 ▸ keeps_introspect p.keepsCaches_faithful a s faithful
  unfold introspect at h
  simp only [Narrated.gives_bind_iff, Narrated.gives_get_iff, Narrated.gives_tell_iff,
    Narrated.gives_modify_iff, Narrated.gives_ofExcept_iff] at h
  obtain ⟨_, _, ⟨rfl, rfl⟩, _, _, rfl, _, _, rfl, found, -⟩ := h
  rw [ShapeCache.Faithful.introspect_eq faithful] at found
  exact ⟨found, kept⟩

/-- **A method that is opened over a faithful cache has the pairs of its types**, and the cache stays
faithful. -/
theorem Opens.correlates (h : p.Opens m s pairs t) (faithful : p.Faithful s) :
    p.Correlates m pairs ∧ p.Faithful t := by
  obtain ⟨source, target, u, v, hs, ht, hc⟩ := h
  unfold introspectTarget at ht
  unfold correlate at hc
  simp only [Narrated.gives_bind_iff, Narrated.gives_tell_iff, Narrated.gives_ofExcept_iff] at ht hc
  obtain ⟨shape, w, ht, writable, rfl⟩ := ht
  obtain ⟨_, _, rfl, correlated, rfl⟩ := hc
  obtain ⟨source_eq, faithful⟩ := introspect_gives faithful hs
  obtain ⟨target_eq, faithful⟩ := introspect_gives faithful ht
  have same : shape = target := by
    unfold Introspection.writable? at writable
    split at writable
    · exact Except.ok.inj writable
    · cases writable
  exact ⟨⟨source, target, source_eq, same ▸ target_eq, correlated⟩, faithful⟩

/-! ## Planned pairs -/

/-- The properties are those of pairs of the method, in their order. -/
def OfPairs (p : Planner) (m : MappingMethod) (xs : List (PlannedProperty MappingPlan)) : Prop :=
  ∃ pairs, p.Correlates m pairs ∧
    (xs.map PlannedProperty.sides).Sublist (pairs.map CorrelatedProperty.sides)

theorem Planned.sublist (h : p.Planned deeper frames m pairs s xs t) :
    (xs.map PlannedProperty.sides).Sublist (pairs.map CorrelatedProperty.sides) := by
  induction h with
  | nil => exact List.Sublist.refl []
  | skip _ _ ih => exact ih.cons _
  | direct _ _ _ _ ih => exact ih.cons_cons _
  | known _ _ _ _ ih => exact ih.cons_cons _
  | fresh _ _ _ _ _ _ _ ihRest => exact ihRest.cons_cons _

theorem Planned.faithful (h : p.Planned deeper frames m pairs s xs t) (faithful : p.Faithful s) :
    p.Faithful t := by
  induction h with
  | nil => exact faithful
  | skip _ _ ih => exact ih faithful
  | direct _ _ _ _ ih => exact ih faithful
  | known _ _ _ _ ih => exact ih faithful
  | fresh _ _ _ opens _ _ ihInner ihRest =>
    exact ihRest (ihInner (opens.correlates faithful).2)

/-- **An embedded plan has properties of the pairs of the method that is derived for its types.** -/
theorem Planned.ofPairs (h : p.Planned deeper frames m pairs s xs t) (bare : Bare s)
    (faithful : p.Faithful s) :
    ∀ q ∈ embedded xs, p.OfPairs (p.derivedMethod q.sourceType q.targetType) q.properties := by
  induction h with
  | nil => exact fun q mem => absurd mem List.not_mem_nil
  | skip _ _ ih => exact ih bare faithful
  | direct _ direct _ _ ih =>
    rw [MappingPlan.embedded_cons_none direct.plan?_eq_none]
    exact ih bare faithful
  | known _ known _ _ ih =>
    rw [MappingPlan.embedded_cons_none (known.plan?_eq_none bare)]
    exact ih bare faithful
  | fresh _ _ _ opens planned _ ihInner ihRest =>
    have bareInner := opens.bare bare
    obtain ⟨correlates, opened⟩ := opens.correlates faithful
    rw [MappingPlan.embedded_cons_some rfl, List.forall_mem_append, List.forall_mem_cons]
    exact ⟨ihInner bareInner opened, ⟨_, correlates, planned.sublist⟩,
      ihRest (planned.bare bareInner).snoc (planned.faithful opened)⟩

end Planner

/-! ## Shapes -/

/-- **A plan fits the shapes of its types**: it reads properties of the source type that can be read,
each at most once and in their order, and writes properties of the target type, each at most once. -/
structure MappingPlan.Fits (types : Registry) (i : Inflector) (q : MappingPlan) : Prop where
  sources : ∃ s, Introspection.shapeOf types i q.sourceType = .ok s ∧
    (q.properties.map (·.source)).Sublist s.readable
  targets : ∃ t, Introspection.shapeOf types i q.targetType = .ok t ∧
    ∀ x ∈ q.properties, x.target ∈ t.properties
  distinct : (q.properties.map (·.target.name)).Nodup

namespace MappingPlan.Fits

variable {types : Registry} {i : Inflector} {q : MappingPlan} {x : PlannedProperty MappingPlan}

/-- A plan reads each property of its source once. -/
theorem distinct_sources (h : q.Fits types i) : (q.properties.map (·.source.name)).Nodup := by
  obtain ⟨s, shape, sources⟩ := h.sources
  have kept := (sources.trans List.filter_sublist).map Property.name
  rw [List.map_map] at kept
  exact kept.nodup (Introspection.sound_of_shapeOf shape).nodup

/-- What a plan reads is a property of the source type, a collection exactly when its value type is
one. -/
theorem exists_source (h : q.Fits types i) (hx : x ∈ q.properties) :
    ∃ s, Introspection.shapeOf types i q.sourceType = .ok s ∧ x.source ∈ s.properties ∧
      x.source.elementType = x.source.valueType.element? := by
  obtain ⟨s, shape, sources⟩ := h.sources
  obtain ⟨mem, readable⟩ := List.mem_filter.mp (sources.subset (List.mem_map_of_mem hx))
  exact ⟨s, shape, mem, (Introspection.sound_of_shapeOf shape).elementType_eq _ mem readable⟩

end MappingPlan.Fits

/-- A plan with properties of the pairs of a method for its types fits the shapes of these. -/
theorem Planner.OfPairs.fits {p : Planner} {m : MappingMethod} {q : MappingPlan}
    (h : p.OfPairs m q.properties) (source_eq : q.sourceType = m.sourceType)
    (target_eq : q.targetType = m.targetType) : q.Fits p.types p.inflector := by
  obtain ⟨pairs, ⟨source, target, source_shape, target_shape, correlated⟩, kept⟩ := h
  have sides := Correlation.sides_of_correlate
    (Introspection.sound_of_shapeOf target_shape).nodup correlated
  have sources := kept.map Prod.fst
  have targets := kept.map Prod.snd
  rw [List.map_map, List.map_map] at sources targets
  have names := targets.map Property.name
  rw [List.map_map, List.map_map] at names
  refine ⟨⟨source, source_eq ▸ source_shape, sources.trans sides.sources⟩,
    ⟨target, target_eq ▸ target_shape, fun x hx => ?_⟩, names.nodup sides.distinct⟩
  obtain ⟨pair, hpair, same⟩ := List.mem_map.mp (targets.subset (List.mem_map_of_mem hx))
  have target_eq : pair.target = x.target := same
  exact target_eq ▸ sides.targets pair hpair

/-- **Every plan of an accepted tree fits the shapes of its types**, if the method was planned over a
faithful cache. -/
theorem Generator.fits_of_gives {g : Generator} {declared : List MappingMethod} {m : MappingMethod}
    {v : VerifiedPlan} {s t : ShapeCache} (faithful : g.Faithful s)
    (h : (g.plan declared m).Gives s v t) :
    ∀ q ∈ v.plan.nodes, q.Fits g.types ⟨g.config.singularOverrides⟩ := by
  obtain ⟨w, hp, -⟩ := plan_gives h
  obtain ⟨pairs, u, xs, opens, planned, plan_eq⟩ := Planner.planRoot_gives hp
  have bare : Planner.Bare u := Planner.bare_of_nil opens.derived_eq
  have begun : (g.planner declared m).Faithful ⟨s, []⟩ := faithful
  obtain ⟨correlates, opened⟩ := opens.correlates begun
  intro q mem
  rw [plan_eq, MappingPlan.mem_nodes_iff_embedded] at mem
  rcases mem with rfl | mem
  · have pairs : (g.planner declared m).OfPairs m xs := ⟨_, correlates, planned.sublist⟩
    exact pairs.fits (q := Planner.planOf m xs) rfl rfl
  · exact (planned.ofPairs bare opened q mem).fits rfl rfl

end BeanMapping
