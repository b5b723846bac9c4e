import BeanMapping.Proofs.Correlated
import BeanMapping.Proofs.DerivedMethods
import BeanMapping.Proofs.FaithfulCaches

/-!
# What a planner sees of shapes

A planner looks at shapes through its cache only. What introspection gives for each type over a cache is
its view (`ShapeView`); introspecting a type fills the cache and leaves the view as it is. So a whole
planning goes by one view, whatever the cache held before, and a method is opened by what its two types
give there (`OpensOver`).

A cache may have been filled over other types. Each of its shapes is still one that introspection gives
somewhere (`ShapeCache.Introspected`), which is enough for its view to be sound. Every cache that generators
have filled, beginning with the empty one, is such a cache (`Generator.introspected_plan`,
`Generator.introspected_generateEach`).

Results:
* **`Introspection.introspect_cacheAfter`**: introspection leaves the view as it is;
* **`Planner.Planned.origin`**: every embedded plan was derived for a pair of beans that no declared
  method is for, from a method opened over the view that planning began with;
* **`Planner.distinct_targets_of_gives`**: over a sound view every plan of a tree writes each target
  property once.
-/

namespace BeanMapping

/-- What introspection gives for each type. -/
abbrev ShapeView := TypeName → Except Fault BeanShape

/-- Every shape of the view is sound. -/
def ShapeView.Sound (view : ShapeView) : Prop := ∀ t s, view t = .ok s → s.Sound

/-! ## Caches -/

namespace Introspection

variable {r : Registry} {i : Inflector} {c : ShapeCache} {t u : TypeName} {s : BeanShape}

/-- A shape is that of the type that it is introspected for. -/
theorem typeName_of_introspect (h : introspect r i c t = .ok s) : s.typeName = t := by
  unfold introspect at h
  split at h
  · rename_i found
    rw [← Except.ok.inj h]
    exact Keyed.key_of_find? found
  · exact typeName_of_shapeOf h

/-- **Introspecting a type leaves the view as it is.** -/
theorem introspect_cacheAfter (r : Registry) (i : Inflector) (c : ShapeCache) (t : TypeName) :
    introspect r i (cacheAfter r i c t) = introspect r i c := by
  funext u
  unfold cacheAfter
  cases h : introspect r i c t with
  | error fault => rfl
  | ok s =>
    have name_eq := typeName_of_introspect h
    dsimp only
    by_cases same : t = u
    · subst same
      have found : (c.insertIfAbsent s).find? t = some ((c.find? t).getD s) := by
        rw [← name_eq]
        exact Keyed.find?_insertIfAbsent_self c s
      unfold introspect at h ⊢
      rw [found]
      cases held : c.find? t with
      | some s' => rfl
      | none =>
        rw [held] at h
        exact h.symm
    · have kept : (c.insertIfAbsent s).find? u = c.find? u := by
        refine Keyed.find?_insertIfAbsent_of_ne c fun own => same ?_
        rw [own, name_eq]
      unfold introspect
      rw [kept]

end Introspection

namespace ShapeCache

open Introspection

/-- **Each shape of the cache is one that introspection gives**, of whatever types and with whatever
singular forms. -/
def Introspected (c : ShapeCache) : Prop :=
  ∀ t s, c.find? t = some s → ∃ r i, shapeOf r i t = .ok s

theorem introspected_empty : Introspected .empty := fun _ _ h => by cases h

variable {c : ShapeCache}

/-- A faithful cache holds shapes that introspection gives. -/
theorem Faithful.introspected {r : Registry} {i : Inflector} (h : Faithful r i c) : c.Introspected :=
  fun t s found => ⟨r, i, h t s found⟩

/-- What introspection over such a cache gives for a type, it gives somewhere. -/
theorem Introspected.exists_shapeOf (h : c.Introspected) {r : Registry} {i : Inflector} {t : TypeName}
    {s : BeanShape} (shape : introspect r i c t = .ok s) : ∃ r i, shapeOf r i t = .ok s := by
  unfold introspect at shape
  split at shape
  · rename_i found
    exact h t s (Except.ok.inj shape ▸ found)
  · exact ⟨r, i, shape⟩

theorem Introspected.cacheAfter (h : c.Introspected) (r : Registry) (i : Inflector) (t : TypeName) :
    (cacheAfter r i c t).Introspected := by
  unfold Introspection.cacheAfter
  split
  · rename_i s shape
    obtain ⟨r', i', made⟩ := h.exists_shapeOf shape
    intro u v found
    rw [Keyed.find?_insertIfAbsent, Option.or_eq_some_iff] at found
    rcases found with found | ⟨-, found⟩
    · exact h u v found
    · split at found
      · rename_i same
        obtain rfl := Option.some.inj found
        rw [← same, typeName_of_shapeOf made]
        exact ⟨r', i', made⟩
      · cases found
  · exact h

/-- Over such a cache every shape is sound. -/
theorem Introspected.sound (h : c.Introspected) (r : Registry) (i : Inflector) :
    ShapeView.Sound (introspect r i c) := by
  intro t s shape
  obtain ⟨r', i', made⟩ := h.exists_shapeOf shape
  exact sound_of_shapeOf made

end ShapeCache

/-! ## Planning -/

namespace Planner

open MappingPlan (embedded)

variable {p : Planner} {deeper : Nat} {frames : List Frame} {m : MappingMethod}
  {pairs : List CorrelatedProperty} {s t : PlanState} {xs : List (PlannedProperty MappingPlan)}
  {shapes : ShapeView}

/-- What introspection gives over the shapes of a state. -/
def view (p : Planner) (s : PlanState) : ShapeView :=
  Introspection.introspect p.types p.inflector s.shapes

/-- The methods that were derived are no part of the view. -/
theorem view_derived (p : Planner) (s : PlanState) (derived : List (NestedMapping MappingPlan)) :
    p.view { s with derived } = p.view s := rfl

/-- Two states in which the same shapes are seen and the same methods have been derived. -/
def SameSight (p : Planner) (s s' : PlanState) : Prop := p.view s' = p.view s ∧ s'.derived = s.derived

/-- The pairs of a method over a view: its types have shapes, of which the target can be written, and
these correlate to the pairs. -/
def OpensOver (p : Planner) (shapes : ShapeView) (m : MappingMethod)
    (pairs : List CorrelatedProperty) : Prop :=
  ∃ source target, shapes m.sourceType = .ok source ∧ shapes m.targetType = .ok target ∧
    Introspection.writable? m.targetType target = .ok target ∧
    Correlation.correlate p.inflector p.config.namePrecedence source target m.options = .ok pairs

theorem introspect_gives_iff {a : TypeName} {shape : BeanShape} :
    (p.introspect a).Gives s shape t ↔ p.view s a = .ok shape ∧
      { s with shapes := Introspection.cacheAfter p.types p.inflector s.shapes a } = t := by
  unfold introspect view
  simp only [Narrated.gives_bind_iff, Narrated.gives_get_iff, Narrated.gives_tell_iff,
    Narrated.gives_modify_iff, Narrated.gives_ofExcept_iff]
  constructor
  · rintro ⟨_, _, ⟨rfl, rfl⟩, _, _, rfl, _, _, rfl, found, rfl⟩
    exact ⟨found, rfl⟩
  · rintro ⟨found, rfl⟩
    exact ⟨s, s, ⟨rfl, rfl⟩, (), s, rfl, (), _, rfl, found, rfl⟩

theorem view_of_introspect {a : TypeName} {shape : BeanShape} (h : (p.introspect a).Gives s shape t) :
    p.view t = p.view s := by
  obtain ⟨-, rfl⟩ := introspect_gives_iff.mp h
  exact Introspection.introspect_cacheAfter _ _ _ _

theorem eq_of_writable? {a : TypeName} {shape shape' : BeanShape}
    (h : Introspection.writable? a shape = .ok shape') : shape = shape' := by
  unfold Introspection.writable? at h
  split at h
  · exact Except.ok.inj h
  · cases h

/-- **A method is opened by what its types give in the view**, which stays as it is. -/
theorem Opens.opensOver (h : p.Opens m s pairs t) :
    p.OpensOver (p.view s) m pairs ∧ p.view t = p.view s := by
  obtain ⟨source, target, u, v, hs, ht, hc⟩ := h
  unfold introspectTarget at ht
  unfold correlate at hc
  simp only [Narrated.gives_bind_iff, Narrated.gives_tell_iff, Narrated.gives_ofExcept_iff] at ht hc
  obtain ⟨shape, w, ht, writable, rfl⟩ := ht
  obtain ⟨_, _, rfl, correlated, rfl⟩ := hc
  have same := eq_of_writable? writable
  subst same
  have kept := view_of_introspect hs
  have source_eq := (introspect_gives_iff.mp hs).1
  have target_eq := (introspect_gives_iff.mp ht).1
  rw [kept] at target_eq
  exact ⟨⟨source, shape, source_eq, target_eq, writable, correlated⟩,
    (view_of_introspect ht).trans kept⟩

/-- Planning leaves the view as it is. -/
theorem Planned.view_eq (h : p.Planned deeper frames m pairs s xs t) : p.view t = p.view s := by
  induction h with
  | nil => rfl
  | skip _ _ ih => exact ih
  | direct _ _ _ _ ih => exact ih
  | known _ _ _ _ ih => exact ih
  | fresh _ _ _ opens _ _ ihInner ihRest =>
    exact ihRest.trans (ihInner.trans opens.opensOver.2)

/-- The methods that were derived declare the failures of the root. -/
def Contracted (p : Planner) (s : PlanState) : Prop := ∀ n ∈ s.derived, n.declaredFailures = p.contract

theorem contracted_of_nil (nothing : s.derived = []) : p.Contracted s := by
  unfold Contracted
  rw [nothing]
  exact fun n mem => absurd mem List.not_mem_nil

theorem Opens.contracted {opened : PlanState} (h : p.Opens m s pairs opened) (contracted : p.Contracted s) :
    p.Contracted opened := by
  unfold Contracted
  rw [h.derived_eq]
  exact contracted

theorem Contracted.snoc {source target : TypeName} (contracted : p.Contracted s) :
    p.Contracted { s with derived := s.derived ++ [p.derivedReference source target] } :=
  List.forall_mem_append.mpr ⟨contracted, List.forall_mem_singleton.mpr rfl⟩

/-- The methods that planning derives declare the failures of the root. -/
theorem Planned.contracted (h : p.Planned deeper frames m pairs s xs t) (contracted : p.Contracted s) :
    p.Contracted t := by
  induction h with
  | nil => exact contracted
  | skip _ _ ih => exact ih contracted
  | direct _ _ _ _ ih => exact ih contracted
  | known _ _ _ _ ih => exact ih contracted
  | fresh _ _ _ opens _ _ ihInner ihRest => exact ihRest (ihInner (opens.contracted contracted)).snoc

/-- **Where an embedded plan comes from**: only a mapping converts its types, it was derived for them
from a method opened over the view, and its pairs have a derivation of their own. -/
structure Origin (p : Planner) (shapes : ShapeView) (q : MappingPlan) : Prop where
  nestable : p.Nestable q.sourceType q.targetType
  derivation : ∃ deeper frames pairs s xs t,
    p.OpensOver shapes (p.derivedMethod q.sourceType q.targetType) pairs ∧ p.Contracted s ∧
    p.Planned deeper frames (p.derivedMethod q.sourceType q.targetType) pairs s xs t ∧
    q = planOf (p.derivedMethod q.sourceType q.targetType) xs

/-- **Every embedded plan has an origin over the view that planning began with.** -/
theorem Planned.origin (h : p.Planned deeper frames m pairs s xs t) (bare : Bare s)
    (contracted : p.Contracted s) : ∀ q ∈ embedded xs, p.Origin (p.view s) q := by
  induction h with
  | nil => exact fun q mem => absurd mem List.not_mem_nil
  | skip _ _ ih => exact ih bare contracted
  | direct _ direct _ _ ih =>
    rw [MappingPlan.embedded_cons_none direct.plan?_eq_none]
    exact ih bare contracted
  | known _ known _ _ ih =>
    rw [MappingPlan.embedded_cons_none (known.plan?_eq_none bare)]
    exact ih bare contracted
  | fresh _ fresh _ opens planned _ ihInner ihRest =>
    have bareInner := opens.bare bare
    have contractedInner := opens.contracted contracted
    obtain ⟨opensOver, opened⟩ := opens.opensOver
    have kept := planned.view_eq.trans opened
    have inner := ihInner bareInner contractedInner
    have rest := ihRest (planned.bare bareInner).snoc (planned.contracted contractedInner).snoc
    rw [opened] at inner
    rw [view_derived, kept] at rest
    rw [MappingPlan.embedded_cons_some rfl, List.forall_mem_append, List.forall_mem_cons]
    exact ⟨inner, ⟨fresh.toNestable, _, _, _, _, _, _, opensOver, contractedInner, planned, rfl⟩, rest⟩

/-! ## Targets -/

theorem Planned.targets_sublist (h : p.Planned deeper frames m pairs s xs t) :
    (xs.map (·.target.name)).Sublist (pairs.map (·.target.name)) := by
  induction h with
  | nil => exact List.Sublist.refl []
  | skip _ _ ih => exact ih.cons _
  | direct _ _ _ _ ih => exact ih.cons_cons _
  | known _ _ _ _ ih => exact ih.cons_cons _
  | fresh _ _ _ _ _ _ _ ihRest => exact ihRest.cons_cons _

/-- A method that is opened over a sound view writes each target property once. -/
theorem Planned.distinct_targets (h : p.Planned deeper frames m pairs s xs t)
    (opens : p.OpensOver shapes m pairs) (sound : shapes.Sound) : (xs.map (·.target.name)).Nodup := by
  obtain ⟨source, target, -, shape, -, correlated⟩ := opens
  have sides := Correlation.sides_of_correlate (sound _ _ shape).nodup correlated
  exact h.targets_sublist.nodup sides.distinct

/-- **Over a sound view every plan of a tree writes each target property once.** -/
theorem distinct_targets_of_gives {root : MappingMethod} {plan : MappingPlan}
    (sound : ShapeView.Sound (p.view s)) (nothing : s.derived = [])
    (h : (p.planRoot root).Gives s plan t) :
    ∀ q ∈ plan.nodes, (q.properties.map (·.target.name)).Nodup := by
  obtain ⟨pairs, u, xs, opens, planned, rfl⟩ := planRoot_gives h
  have none := opens.derived_eq.trans nothing
  have bare : Bare u := bare_of_nil none
  obtain ⟨opensOver, opened⟩ := opens.opensOver
  intro q mem
  rcases MappingPlan.mem_nodes_iff_embedded.mp mem with rfl | mem
  · exact planned.distinct_targets opensOver sound
  · have origin := planned.origin bare (contracted_of_nil none) q mem
    rw [opened] at origin
    obtain ⟨-, _, _, _, _, ys, _, opensOver, -, planned, made⟩ := origin
    rw [made]
    exact planned.distinct_targets opensOver sound

end Planner

/-! ## Generators -/

namespace Generator

variable {g : Generator} {declared : List MappingMethod} {m : MappingMethod} {ε α : Type}
  {emit : Emitter ε α}

/-- What introspection gives a generator over a cache. -/
def view (g : Generator) (shapes : ShapeCache) : ShapeView :=
  Introspection.introspect g.types ⟨g.config.singularOverrides⟩ shapes

/-- Planning a method leaves the view as it is. -/
theorem view_plan (view : ShapeView) : (g.plan declared m).Keeps fun shapes => g.view shapes = view :=
  keeps_plan fun _ _ h => (Introspection.introspect_cacheAfter _ _ _ _).trans h

/-- Planning a method leaves shapes that introspection gives. -/
theorem introspected_plan : (g.plan declared m).Keeps ShapeCache.Introspected :=
  keeps_plan fun _ _ h => h.cacheAfter _ _ _

/-- Generating methods leaves shapes that introspection gives. -/
theorem introspected_generateEach (methods : List MappingMethod) :
    (g.generateEach emit declared methods).Keeps fun w => w.shapes.Introspected :=
  keeps_generateEach (fun _ _ _ h => h.cacheAfter _ _ _) methods

end Generator

end BeanMapping
