import BeanMapping.Proofs.IntrospectedShapes
import BeanMapping.Proofs.ShapeViews

/-!
# Derivations are plannings

`Planned` relates pairs to the properties that are planned for them. What the planner plans has a
derivation (`planned_of_gives`); here is the converse. A derivation does not say which of several methods
in progress, or of several derived ones, a reference is to. Where these methods are for different types there
is only one for each pair of types, and the planner finds it.

So whatever can be said of two plannings may be shown by turning the derivation of the one into one of
the other. Two planners with another limit and another contract (`revised`) open methods alike, and
what is said of a pair is the same for both.

Results:
* **`Planner.gives_of_planned`**: the planner plans what has a derivation;
* **`Planner.planRoot_gives_iff`**: a root is planned exactly as it is opened and its pairs are derived;
* `Generator.plan_result_of_gives`: a generator verifies what its planner plans.
-/

namespace BeanMapping

namespace Planner

open Narrated

variable {p : Planner} {deeper : Nat} {frames : List Frame} {m root : MappingMethod}
  {pair : CorrelatedProperty} {pairs : List CorrelatedProperty} {source target : TypeName}
  {s t u : PlanState} {xs : List (PlannedProperty MappingPlan)} {supply : Supplier}
  {nested : TypeName → TypeName → Plans (Option (NestedMapping MappingPlan))}
  {conversion : Option (Conversion MappingPlan)} {n : NestedMapping MappingPlan} {plan : MappingPlan}

/-! ## Conversions -/

/-- The methods in progress and the derived ones are for different types. -/
def Apart (frames : List Frame) (s : PlanState) : Prop :=
  (s.derived.map NestedMapping.pair ++ frames.map Frame.pair).Nodup

/-- A conversion without a mapping asks nobody. -/
theorem Direct.follow_gives {property : String} (h : p.Direct source target conversion) :
    (Resolution.follow nested property source target
      (Resolution.route p.types p.book source target)).Gives s conversion s := by
  cases h with
  | rule route_eq | generic route_eq | identity route_eq =>
    rw [route_eq]
    exact gives_pure_iff.mpr ⟨rfl, rfl⟩
  | @builtin b route_eq other =>
    rw [route_eq]
    cases b <;> first | exact absurd rfl other | exact gives_pure_iff.mpr ⟨rfl, rfl⟩

/-- Where only a mapping converts, the answer to the question for one is the conversion. -/
theorem follow_gives_nested {property : String}
    (route_eq : Resolution.route p.types p.book source target = .ask)
    (answer : (nested source target).Gives s (some n) t) :
    (Resolution.follow nested property source target
      (Resolution.route p.types p.book source target)).Gives s (some (.nested n)) t := by
  rw [route_eq]
  unfold Resolution.follow
  exact gives_bind_iff.mpr ⟨some n, t, answer,
    gives_bind_iff.mpr ⟨(), t, gives_tell _ t, gives_pure_iff.mpr ⟨rfl, rfl⟩⟩⟩

theorem Known.route_eq (h : p.Known frames s.derived source target n) :
    Resolution.route p.types p.book source target = .ask := by
  cases h with
  | declared route_eq => exact route_eq
  | inProgress nestable | again nestable => exact nestable.route_eq

/-- Of things for different types, the one for some types is found. -/
theorem find?_of_pair {α : Type} (source target : α → TypeName) {l : List α} {a : α}
    (once : (l.map fun b => (source b, target b)).Nodup) (mem : a ∈ l) :
    l.find? (fun b => source b == source a && target b == target a) = some a := by
  refine Eq.trans (congrArg (fun test => l.find? test) (funext fun b => ?_)) (find?_of_nodup once mem)
  show _ = decide ((source b, target b) = (source a, target a))
  rw [Bool.eq_iff_iff, Bool.and_eq_true, beq_iff_eq, beq_iff_eq, decide_eq_true_iff, Prod.mk.injEq]

/-- **A known mapping is found**, as the methods that may be found are for different types. -/
theorem Known.nestedMapping_gives (h : p.Known frames s.derived source target n)
    (apart : Apart frames s) : (p.nestedMapping supply frames source target).Gives s (some n) s := by
  obtain ⟨derivedOnce, framesOnce, disjoint⟩ := List.nodup_append.mp apart
  unfold nestedMapping
  cases h with
  | declared _ declared =>
    rw [declared]
    exact gives_pure_iff.mpr ⟨rfl, rfl⟩
  | @inProgress f nestable mem source_eq target_eq =>
    subst source_eq target_eq
    have found := find?_of_pair Frame.source Frame.target framesOnce mem
    simp only [nestable.undeclared, nestable.source_bean, nestable.target_bean, Bool.not_true,
      Bool.or_self, Bool.false_eq_true, if_false, found]
    exact gives_bind_iff.mpr ⟨(), s, gives_tell _ s, gives_pure_iff.mpr ⟨rfl, rfl⟩⟩
  | again nestable mem pair_eq =>
    obtain ⟨rfl, rfl⟩ := Prod.mk.inj pair_eq
    have notInProgress : frames.find? (fun f => f.source == n.sourceType && f.target == n.targetType) =
        none := by
      refine List.find?_eq_none.mpr fun f hf same => ?_
      rw [Bool.and_eq_true, beq_iff_eq, beq_iff_eq] at same
      exact disjoint _ (List.mem_map_of_mem mem) _ (List.mem_map_of_mem hf)
        (Prod.ext same.1.symm same.2.symm)
    have found := find?_of_pair NestedMapping.sourceType NestedMapping.targetType derivedOnce mem
    simp only [nestable.undeclared, nestable.source_bean, nestable.target_bean, notInProgress]
    refine gives_bind_iff.mpr ⟨s, s, gives_get s, ?_⟩
    rw [found]
    exact gives_bind_iff.mpr ⟨(), s, gives_tell _ s, gives_pure_iff.mpr ⟨rfl, rfl⟩⟩

/-- **A mapping that is not known is derived.** -/
theorem Fresh.nestedMapping_gives (h : p.Fresh frames s.derived source target)
    (supplied : (supply frames (p.derivedMethod source target)).Gives s (some plan) u) :
    (p.nestedMapping supply frames source target).Gives s
      (some { p.derivedReference source target with plan := some plan })
      { u with derived := u.derived ++ [p.derivedReference source target] } := by
  have notInProgress : frames.find? (fun f => f.source == source && f.target == target) = none := by
    simpa using h.not_in_progress
  have notDerived : s.derived.find? (fun d => d.sourceType == source && d.targetType == target) =
      none := by
    simpa [NestedMapping.pair] using h.not_derived
  unfold nestedMapping
  simp only [h.undeclared, h.source_bean, h.target_bean, notInProgress]
  refine gives_bind_iff.mpr ⟨s, s, gives_get s, ?_⟩
  rw [notDerived]
  exact gives_bind_iff.mpr ⟨some plan, u, supplied,
    gives_bind_iff.mpr ⟨(), _, gives_modify _ u, gives_pure_iff.mpr ⟨rfl, rfl⟩⟩⟩

/-! ## Pairs -/

theorem planPair_gives_none (unwritable : pair.action? (p.strategyOf m) false = none) :
    (p.planPair nested m pair).Gives s none s := by
  unfold strategyOf at unwritable
  unfold planPair
  refine gives_bind_iff.mpr ⟨(), s, gives_tell _ s, ?_⟩
  rw [unwritable]
  exact gives_pure_iff.mpr ⟨rfl, rfl⟩

theorem planPair_gives_some {action : PropertyAction} (wants : p.Wants m pair source target)
    (followed : (Resolution.follow nested pair.target.name source target
      (Resolution.route p.types p.book source target)).Gives s conversion t)
    (writes : pair.action? (p.strategyOf m) conversion.isSome = some action) :
    (p.planPair nested m pair).Gives s (some ⟨pair.source, pair.target, action, conversion⟩) t := by
  obtain ⟨rfl, target_eq⟩ := wants
  have resolved : (Resolution.resolve p.types p.book nested pair.target.name (conversionTypes pair).1
      (conversionTypes pair).2 (m.options.hint? pair.target.name)).Gives s conversion t := by
    unfold Resolution.resolve
    refine gives_bind_iff.mpr ⟨target, s, gives_ofExcept_iff.mpr ⟨target_eq, rfl⟩, ?_⟩
    exact gives_bind_iff.mpr ⟨(), s, gives_tell _ s, followed⟩
  obtain ⟨first, writable⟩ : ∃ first, pair.action? (p.strategyOf m) false = some first := by
    refine Option.ne_none_iff_exists'.mp ?_
    rw [Ne, action?_eq_none_iff false conversion.isSome, writes]
    exact Option.some_ne_none _
  unfold strategyOf at writes writable
  unfold planPair
  refine gives_bind_iff.mpr ⟨(), s, gives_tell _ s, ?_⟩
  rw [writable]
  refine gives_bind_iff.mpr ⟨conversion, t, gives_within_iff.mpr resolved, ?_⟩
  refine gives_bind_iff.mpr ⟨(), t, gives_tell _ t, gives_pure_iff.mpr ⟨?_, rfl⟩⟩
  rw [writes]
  rfl

theorem planPair_gives_nested {action : PropertyAction} (wants : p.Wants m pair source target)
    (route_eq : Resolution.route p.types p.book source target = .ask)
    (answer : (nested source target).Gives s (some n) t)
    (writes : pair.action? (p.strategyOf m) true = some action) :
    (p.planPair nested m pair).Gives s
      (some ⟨pair.source, pair.target, action, some (.nested n)⟩) t :=
  planPair_gives_some wants (follow_gives_nested route_eq answer) writes

theorem planPairs_gives_cons {r : Option (PlannedProperty MappingPlan)}
    (first : (p.planPair nested m pair).Gives s r u)
    (others : (p.planPairs nested m pairs).Gives u xs t) :
    (p.planPairs nested m (pair :: pairs)).Gives s (r.toList ++ xs) t := by
  rw [planPairs]
  exact gives_bind_iff.mpr ⟨r, u, first,
    gives_bind_iff.mpr ⟨xs, t, others, gives_pure_iff.mpr ⟨rfl, rfl⟩⟩⟩

theorem planWith_gives_of (opens : p.Opens m s pairs u)
    (planned : (p.planPairs (p.nestedMapping supply (frames ++ [frameOf m])) m pairs).Gives u xs t) :
    (p.planWith supply frames m).Gives s (planOf m xs) t := by
  obtain ⟨source, target, a, b, hs, ht, hc⟩ := opens
  unfold planWith
  refine gives_bind_iff.mpr ⟨source, a, hs, gives_bind_iff.mpr ⟨target, b, ht, ?_⟩⟩
  refine gives_bind_iff.mpr ⟨pairs, u, hc, gives_bind_iff.mpr ⟨xs, t, planned, ?_⟩⟩
  exact gives_bind_iff.mpr ⟨(), t, gives_tell _ t, gives_pure_iff.mpr ⟨rfl, rfl⟩⟩

theorem derive_gives_of (planned : (p.planWith (p.derive deeper) frames m).Gives s plan t) :
    (p.derive (deeper + 1) frames m).Gives s (some plan) t := by
  unfold derive
  exact gives_within_iff.mpr (gives_map_iff.mpr ⟨plan, planned, rfl⟩)

/-! ## Derivations -/

/-- The methods stay for different types when one is opened for types of its own. -/
theorem Fresh.apart (h : p.Fresh frames s.derived source target) (apart : Apart frames s)
    (opens : p.Opens (p.derivedMethod source target) s pairs u) :
    Apart (frames ++ [frameOf (p.derivedMethod source target)]) u := by
  have free : (source, target) ∉ s.derived.map NestedMapping.pair ++ frames.map Frame.pair :=
    fun mem => (List.mem_append.mp mem).elim h.not_derived h.not_in_progress
  unfold Apart
  rw [opens.derived_eq, List.map_append, ← List.append_assoc]
  exact (List.perm_append_singleton _ _).nodup_iff.mpr (List.nodup_cons.mpr ⟨free, apart⟩)

/-- They stay so when the method is no longer in progress, and is derived. -/
theorem Apart.derived (apart : Apart (frames ++ [frameOf (p.derivedMethod source target)]) s) :
    Apart frames { s with derived := s.derived ++ [p.derivedReference source target] } := by
  unfold Apart at apart ⊢
  rw [List.map_append] at apart
  rw [List.map_append, List.append_assoc]
  exact (List.Perm.append_left _ List.perm_append_comm).nodup_iff.mp apart

/-- **The planner plans what has a derivation**: by induction on the derivation. -/
theorem gives_of_planned (h : p.Planned deeper frames m pairs s xs t) (apart : Apart frames s) :
    (p.planPairs (p.nestedMapping (p.derive deeper) frames) m pairs).Gives s xs t := by
  induction h with
  | nil => exact gives_pure_iff.mpr ⟨rfl, rfl⟩
  | skip unwritable _ ih => exact planPairs_gives_cons (planPair_gives_none unwritable) (ih apart)
  | direct wants direct writes _ ih =>
    exact planPairs_gives_cons (planPair_gives_some wants direct.follow_gives writes) (ih apart)
  | known wants known writes _ ih =>
    refine planPairs_gives_cons (planPair_gives_nested wants known.route_eq ?_ writes) (ih apart)
    exact known.nestedMapping_gives apart
  | fresh wants fresh writes opens planned _ ihInner ihRest =>
    have inner := fresh.apart apart opens
    have rest : Apart _ _ := Apart.derived (planned.nodup inner)
    have supplied := derive_gives_of (planWith_gives_of opens (ihInner inner))
    have answer := fresh.nestedMapping_gives supplied
    exact planPairs_gives_cons (planPair_gives_nested wants fresh.route_eq answer writes) (ihRest rest)

/-- **A root is planned exactly as it is opened and its pairs are derived.** -/
theorem planRoot_gives_iff (nothing : s.derived = []) :
    (p.planRoot root).Gives s plan t ↔ ∃ pairs u xs, p.Opens root s pairs u ∧
      p.Planned (p.config.maxNestingDepth - 1) [frameOf root] root pairs u xs t ∧
      plan = planOf root xs := by
  refine ⟨planRoot_gives, ?_⟩
  rintro ⟨pairs, u, xs, opens, planned, rfl⟩
  have apart : Apart [frameOf root] u := by
    unfold Apart
    rw [opens.derived_eq, nothing]
    exact List.nodup_singleton _
  exact planWith_gives_of opens (gives_of_planned planned apart)

/-! ## Another limit and another contract -/

/-- The planner with another limit and another contract. -/
def revised (p : Planner) (limit : Nat) (contract : List TypeName) : Planner :=
  { p with config := { p.config with maxNestingDepth := limit }, contract := contract }

section Revised

variable {limit : Nat} {contract failures : List TypeName}

theorem Wants.revised (h : p.Wants m pair source target) :
    (p.revised limit contract).Wants { m with declaredFailures := failures } pair source target :=
  ⟨h.source_eq, h.target_eq⟩

theorem Direct.revised (h : p.Direct source target conversion) :
    (p.revised limit contract).Direct source target conversion := by
  cases h with
  | rule route_eq => exact .rule route_eq
  | generic route_eq => exact .generic route_eq
  | identity route_eq => exact .identity route_eq
  | builtin route_eq other => exact .builtin route_eq other

theorem Nestable.revised (h : p.Nestable source target) : (p.revised limit contract).Nestable source target :=
  ⟨h.route_eq, h.undeclared, h.source_bean, h.target_bean⟩

/-- Whatever was derived, introspection changes the shapes alone. -/
theorem introspect_gives_over {a : TypeName} {shape : BeanShape} (h : (p.introspect a).Gives s shape t)
    (derived : List (NestedMapping MappingPlan)) :
    (p.introspect a).Gives { s with derived } shape { t with derived } := by
  obtain ⟨found, rfl⟩ := introspect_gives_iff.mp h
  exact introspect_gives_iff.mpr ⟨found, rfl⟩

/-- Whatever was derived, a method is opened by introspection alone. -/
theorem Opens.over (h : p.Opens m s pairs t) (derived : List (NestedMapping MappingPlan)) :
    p.Opens m { s with derived } pairs { t with derived } := by
  obtain ⟨source, target, u, v, hs, ht, hc⟩ := h
  unfold introspectTarget at ht
  unfold correlate at hc
  simp only [gives_bind_iff, gives_tell_iff, gives_ofExcept_iff] at ht hc
  obtain ⟨shape, w, ht, writable, rfl⟩ := ht
  obtain ⟨_, _, rfl, correlated, rfl⟩ := hc
  refine ⟨source, target, { u with derived }, { w with derived }, introspect_gives_over hs derived, ?_, ?_⟩
  · exact gives_bind_iff.mpr ⟨shape, _, introspect_gives_over ht derived,
      gives_ofExcept_iff.mpr ⟨writable, rfl⟩⟩
  · exact gives_bind_iff.mpr ⟨(), _, gives_tell _ _, gives_ofExcept_iff.mpr ⟨correlated, rfl⟩⟩

/-- **A method is opened alike**, whatever failures it declares. -/
theorem Opens.revised (h : p.Opens m s pairs t) :
    (p.revised limit contract).Opens { m with declaredFailures := failures } s pairs t := h

end Revised

end Planner

/-! ## Generators -/

namespace Generator

open Narrated

/-- **A generator verifies what its planner plans.** -/
theorem plan_result_of_gives {g : Generator} {declared : List MappingMethod} {m : MappingMethod}
    {shapes : ShapeCache} {plan : MappingPlan} {w : PlanState}
    (h : ((g.planner declared m).planRoot m).Gives ⟨shapes, []⟩ plan w) :
    ((g.plan declared m).run shapes).result =
      ((Contract.verify g.types m.name plan).run w.shapes).result := by
  have planned : (within ("Mapping method: " ++ m.name) (focus (fun shapes => ⟨shapes, []⟩)
      (fun s _ => s.shapes) ((g.planner declared m).planRoot m))).Gives shapes plan w.shapes :=
    gives_within_iff.mpr (gives_focus_iff.mpr ⟨w, h, rfl⟩)
  have verified := run_bind_ok (f := Contract.verify g.types m.name) planned.1
  rw [planned.2] at verified
  have results := congrArg Narration.result verified
  exact results

end Generator

end BeanMapping
