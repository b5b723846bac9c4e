import BeanMapping.Proofs.ExactDerivations
import BeanMapping.Proofs.NestingDepth
import BeanMapping.Proofs.SeenShapes

/-!
# Roots that declare more failures

The failures of a root are declared by all methods that are derived for it, and may be raised by every
reference to one of these. So a root that declares other failures has the same tree with these failures in
their place (`MappingPlan.redeclared`); only the references to methods that are declared elsewhere stay as
they are.

With more failures the tree is accepted as well: what was covered is still covered, and what a reference to
a derived method may raise anew is declared by each method that could call it.

Results:
* **`Planner.Planned.redeclared`**: what is planned for other failures, by induction on the derivation;
* **`MappingPlan.redeclared_honours`**: the tree with more failures honours its declarations;
* **`Generator.plan_of_more_failures`**: a method that is accepted is accepted with more failures, and the
  two trees are the same but for these.
-/

namespace BeanMapping

/-! ## Trees with other failures -/

/-- Whether one of the methods maps the first type into a new value of the second. -/
def MappingMethod.anyCreates (declared : List MappingMethod) (pair : TypeName × TypeName) : Bool :=
  declared.any fun d => d.maps pair.1 pair.2 && !d.updatesTarget

/-- The reference, with a plan in the place of its own. Its failures are others, unless the method is
declared elsewhere. -/
def NestedMapping.redeclared {ρ : Type} (declared : List MappingMethod) (failures : List TypeName)
    (plan : Option ρ) (n : NestedMapping ρ) : NestedMapping ρ :=
  { n with
    declaredFailures := if MappingMethod.anyCreates declared n.pair then n.declaredFailures else failures
    plan }

/-- The conversion, with a plan in the place of its own, and with other failures if it is a reference. -/
def Conversion.redeclared {ρ : Type} (declared : List MappingMethod) (failures : List TypeName)
    (plan : Option ρ) : Conversion ρ → Conversion ρ
  | .nested n => .nested (n.redeclared declared failures plan)
  | c => c

/-- **The tree with other failures**: those of each of its plans, and of the references to these. -/
def MappingPlan.redeclared (declared : List MappingMethod) (failures : List TypeName)
    (p : MappingPlan) : MappingPlan :=
  { p with
    declaredFailures := failures
    properties := p.properties.attach.map fun x =>
      { x.1 with
        conversion := x.1.conversion.map (Conversion.redeclared declared failures
          (x.1.plan?.attach.map fun q => q.1.redeclared declared failures)) } }
termination_by sizeOf p
decreasing_by
  exact Nat.lt_trans (PlannedProperty.sizeOf_lt_of_plan? q.2) (MappingPlan.sizeOf_lt_of_mem_properties x.2)

/-- The property with other failures. -/
def PlannedProperty.redeclared (declared : List MappingMethod) (failures : List TypeName)
    (x : PlannedProperty MappingPlan) : PlannedProperty MappingPlan :=
  { x with
    conversion := x.conversion.map (Conversion.redeclared declared failures
      (x.plan?.map (MappingPlan.redeclared declared failures))) }

section Trees

variable {declared : List MappingMethod} {failures : List TypeName}

theorem MappingPlan.redeclared_eq (declared : List MappingMethod) (failures : List TypeName)
    (p : MappingPlan) :
    p.redeclared declared failures =
      { p with
        declaredFailures := failures
        properties := p.properties.map (PlannedProperty.redeclared declared failures) } := by
  rw [redeclared]
  simp [PlannedProperty.redeclared]

theorem MappingPlan.declaredFailures_redeclared (p : MappingPlan) :
    (p.redeclared declared failures).declaredFailures = failures := by
  rw [redeclared_eq]

theorem PlannedProperty.plan?_redeclared (x : PlannedProperty MappingPlan) :
    (x.redeclared declared failures).plan? = x.plan?.map (MappingPlan.redeclared declared failures) := by
  rcases x with ⟨source, target, action, _ | (b | ⟨path, type, raised⟩ | n)⟩ <;> rfl

theorem MappingPlan.nested_redeclared (p : MappingPlan) :
    (p.redeclared declared failures).nested = p.nested.map (redeclared declared failures) := by
  unfold nested
  rw [redeclared_eq, List.filterMap_map, List.map_filterMap]
  exact List.filterMap_congr fun x _ => x.plan?_redeclared

/-- **The tree with other failures has the same plans with other failures.** -/
theorem MappingPlan.nodes_redeclared (p : MappingPlan) :
    (p.redeclared declared failures).nodes = p.nodes.map (redeclared declared failures) := by
  induction p using inductionOn with
  | step p ih =>
    rw [nodes_eq, nodes_eq p, nested_redeclared, List.map_cons, List.flatMap_map, List.map_flatMap]
    congr 1
    exact List.flatMap_congr ih

end Trees

/-! ## Planning -/

namespace Planner

variable {p : Planner} {deeper : Nat} {frames : List Frame} {m root : MappingMethod}
  {pairs : List CorrelatedProperty} {source target : TypeName} {s t : PlanState}
  {xs : List (PlannedProperty MappingPlan)} {n : NestedMapping MappingPlan} {plan : MappingPlan}
  {failures : List TypeName}

/-- The planner of a root that declares other failures. -/
def contracting (p : Planner) (failures : List TypeName) : Planner :=
  p.revised p.config.maxNestingDepth failures

/-- A reference with other failures, also in the tree that it may embed. -/
def redeclare (p : Planner) (failures : List TypeName) (n : NestedMapping MappingPlan) :
    NestedMapping MappingPlan :=
  n.redeclared p.declared failures (n.plan.map (MappingPlan.redeclared p.declared failures))

theorem anyCreates_eq (p : Planner) (source target : TypeName) :
    MappingMethod.anyCreates p.declared (source, target) = (p.declaredMapping? source target).isSome := by
  unfold MappingMethod.anyCreates declaredMapping?
  rw [Option.isSome_map, Bool.eq_iff_iff, List.any_eq_true, List.find?_isSome]

/-- The reference to a method that is declared elsewhere stays as it is. -/
theorem redeclare_of_declared (h : p.declaredMapping? source target = some n) :
    p.redeclare failures n = n := by
  have creates := p.anyCreates_eq source target
  rw [h, Option.isSome_some] at creates
  unfold declaredMapping? at h
  obtain ⟨d, found, rfl⟩ := Option.map_eq_some_iff.mp h
  have key := List.find?_some found
  unfold MappingMethod.maps at key
  simp only [Bool.and_eq_true, beq_iff_eq] at key
  obtain ⟨⟨rfl, rfl⟩, -⟩ := key
  unfold redeclare NestedMapping.redeclared reference NestedMapping.pair
  rw [if_pos creates]
  rfl

/-- The reference to a method that is planned has the other failures. -/
theorem redeclare_of_nestable (h : p.Nestable source target) (method : String) :
    p.redeclare failures (reference method source target p.contract) =
      reference method source target failures := by
  have creates := p.anyCreates_eq source target
  rw [h.undeclared, Option.isSome_none] at creates
  unfold redeclare NestedMapping.redeclared reference NestedMapping.pair
  rw [creates]
  rfl

theorem Known.redeclared (h : p.Known frames s.derived source target n) :
    (p.contracting failures).Known frames (s.derived.map (p.redeclare failures)) source target
      (p.redeclare failures n) := by
  cases h with
  | declared route_eq declared =>
    rw [redeclare_of_declared declared]
    exact .declared route_eq declared
  | @inProgress f nestable mem source_eq target_eq =>
    subst source_eq target_eq
    rw [show p.redeclare failures (p.referenceTo f) = (p.contracting failures).referenceTo f from
      redeclare_of_nestable nestable f.method]
    exact .inProgress nestable.revised mem rfl rfl
  | again nestable mem pair_eq =>
    exact .again nestable.revised (List.mem_map_of_mem mem) pair_eq

theorem Fresh.redeclared (h : p.Fresh frames s.derived source target) :
    (p.contracting failures).Fresh frames (s.derived.map (p.redeclare failures)) source target := by
  refine ⟨h.toNestable.revised, h.not_in_progress, fun mem => h.not_derived ?_⟩
  rw [List.map_map] at mem
  exact mem

theorem redeclared_planOf (declared : List MappingMethod) (failures : List TypeName) (m : MappingMethod)
    (xs : List (PlannedProperty MappingPlan)) :
    (planOf m xs).redeclared declared failures =
      planOf { m with declaredFailures := failures } (xs.map (PlannedProperty.redeclared declared failures)) := by
  rw [MappingPlan.redeclared_eq]
  rfl

/-- Where no mapping converts, the property stays as it is. -/
theorem redeclared_of_direct {x : PlannedProperty MappingPlan} (h : p.Direct source target x.conversion) :
    x.redeclared p.declared failures = x := by
  rcases x with ⟨sourceProperty, targetProperty, action, conversion⟩
  cases h <;> rfl

/-- Where a derived mapping converts, it is the one that is derived for the other failures. -/
theorem redeclared_of_nestable {x : PlannedProperty MappingPlan} (h : p.Nestable source target)
    (made : x.conversion = some (.nested { p.derivedReference source target with
      plan := some (planOf (p.derivedMethod source target) xs) })) :
    x.redeclared p.declared failures =
      ⟨x.source, x.target, x.action, some (.nested
        { (p.contracting failures).derivedReference source target with
          plan := some (planOf ((p.contracting failures).derivedMethod source target)
            (xs.map (PlannedProperty.redeclared p.declared failures))) })⟩ := by
  have tree := redeclared_planOf p.declared failures (p.derivedMethod source target) xs
  have reference : p.redeclare failures (p.derivedReference source target) =
      (p.contracting failures).derivedReference source target := redeclare_of_nestable h _
  unfold PlannedProperty.redeclared PlannedProperty.plan?
  rw [made, ← reference]
  show _ = PlannedProperty.mk x.source x.target x.action (some (.nested
    { p.redeclare failures (p.derivedReference source target) with
      plan := some (planOf { p.derivedMethod source target with declaredFailures := failures }
        (xs.map (PlannedProperty.redeclared p.declared failures))) }))
  rw [← tree]
  rfl

/-- **What is planned for other failures** is the same with these failures: by induction on the
derivation. -/
theorem Planned.redeclared (failures : List TypeName) (h : p.Planned deeper frames m pairs s xs t) :
    (p.contracting failures).Planned deeper frames { m with declaredFailures := failures } pairs
      { s with derived := s.derived.map (p.redeclare failures) }
      (xs.map (PlannedProperty.redeclared p.declared failures))
      { t with derived := t.derived.map (p.redeclare failures) } := by
  induction h with
  | nil => exact .nil
  | skip unwritable _ ih => exact .skip unwritable ih
  | direct wants direct writes _ ih =>
    rw [List.map_cons, redeclared_of_direct direct]
    exact .direct wants.revised direct.revised writes ih
  | known wants known writes _ ih => exact .known wants.revised known.redeclared writes ih
  | @fresh deeper frames m pair pairs inner s t u v xs ys source target action wants fresh writes opens
      planned _ ihInner ihRest =>
    have opened : (p.contracting failures).Opens ((p.contracting failures).derivedMethod source target)
        { s with derived := s.derived.map (p.redeclare failures) } inner
        { u with derived := u.derived.map (p.redeclare failures) } := by
      rw [opens.derived_eq]
      exact (opens.over _).revised
    have reference : p.redeclare failures (p.derivedReference source target) =
        (p.contracting failures).derivedReference source target :=
      redeclare_of_nestable fresh.toNestable _
    rw [List.map_append, List.map_singleton, reference] at ihRest
    rw [List.map_cons, redeclared_of_nestable fresh.toNestable rfl]
    exact .fresh wants.revised fresh.redeclared writes opened ihInner ihRest

/-- **A root that declares other failures** is planned as well, with these failures in the tree. -/
theorem planRoot_gives_redeclared (nothing : s.derived = []) (h : (p.planRoot root).Gives s plan t) :
    ∃ u, ((p.contracting failures).planRoot { root with declaredFailures := failures }).Gives s
      (plan.redeclared p.declared failures) u := by
  obtain ⟨pairs, u, xs, opens, planned, rfl⟩ := planRoot_gives h
  have none : u.derived = [] := opens.derived_eq.trans nothing
  have start : { s with derived := u.derived.map (p.redeclare failures) } = s := by
    rw [none, List.map_nil, ← nothing]
  have opened := opens.over (u.derived.map (p.redeclare failures))
  rw [start] at opened
  exact ⟨_, (planRoot_gives_iff nothing).mpr ⟨pairs, _, _, opened.revised, planned.redeclared failures,
    redeclared_planOf _ _ _ _⟩⟩

end Planner

/-! ## Verification -/

section Honours

open Contract

variable {types : Registry} {declared : List MappingMethod} {failures : List TypeName}

/-- More declared failures cover what fewer cover. -/
theorem Contract.Covered.mono {f : TypeName} {before : List TypeName} (h : Covered types f before)
    (more : before ⊆ failures) : Covered types f failures := by
  obtain ⟨d, mem, leads⟩ := h
  exact ⟨d, more mem, leads⟩

/-- With other failures a property calls what it called before, but that the method of a derived plan raises
these. -/
theorem PlannedProperty.mem_invocations_redeclared {x : PlannedProperty MappingPlan} {i : Invocation}
    (h : i ∈ (x.redeclared declared failures).invocations) : i ∈ x.invocations ∨ i.failures = failures := by
  rcases x with ⟨source, target, action, _ | (b | ⟨path, type, raised⟩ | n)⟩
  · exact Or.inl h
  · exact Or.inl h
  · exact Or.inl h
  · unfold invocations at h ⊢
    simp only [List.mem_append] at h ⊢
    rcases h with (reads | converts) | writes
    · exact Or.inl (Or.inl (Or.inl reads))
    · have call : i = ⟨n.method, if MappingMethod.anyCreates declared n.pair then n.declaredFailures
          else failures⟩ := List.mem_singleton.mp converts
      by_cases elsewhere : MappingMethod.anyCreates declared n.pair = true
      · rw [if_pos elsewhere] at call
        exact Or.inl (Or.inl (Or.inr (List.mem_singleton.mpr call)))
      · rw [if_neg elsewhere] at call
        exact Or.inr (congrArg Invocation.failures call)
    · exact Or.inl (Or.inr writes)

/-- **With more failures a plan honours its declarations** if it did before. -/
theorem MappingPlan.redeclared_honours {q : MappingPlan} (h : Honours types q)
    (more : q.declaredFailures ⊆ failures) : Honours types (q.redeclared declared failures) := by
  unfold Honours
  rw [declaredFailures_redeclared, redeclared_eq]
  dsimp only
  rw [List.forall_mem_map]
  intro x hx i hi f hf
  rcases PlannedProperty.mem_invocations_redeclared hi with called | raised
  · exact (h x hx i called f hf).imp_right fun covered => covered.mono more
  · rw [raised] at hf
    exact Or.inr ⟨f, hf, Or.inl rfl⟩

end Honours

/-! ## Roots -/

namespace Generator

open Narrated

/-- **Declaring more failures is monotone.** A method that is accepted is accepted with more failures, be
they checked or not. The tree is the same but for the failures of its plans and of the references to them.
The caches that the two were planned over show the same shapes. -/
theorem plan_of_more_failures {g : Generator} {declared : List MappingMethod} {m : MappingMethod}
    {shapes shapes' : ShapeCache} {v : VerifiedPlan} {failures : List TypeName}
    (more : m.declaredFailures ⊆ failures) (view : g.view shapes' = g.view shapes)
    (accepted : ((g.plan declared m).run shapes).result = .ok v) :
    ∃ v', ((g.plan declared { m with declaredFailures := failures }).run shapes').result = .ok v' ∧
      v'.plan = v.plan.redeclared declared failures := by
  have accept := accepted_of_gives (gives_of_result accepted)
  obtain ⟨w, planned, -⟩ := plan_gives (gives_of_result accepted)
  obtain ⟨u, redeclared⟩ : ∃ u, ((g.planner declared { m with declaredFailures := failures }).planRoot
      { m with declaredFailures := failures }).Gives ⟨shapes, []⟩ (v.plan.redeclared declared failures) u :=
    Planner.planRoot_gives_redeclared (p := g.planner declared m) rfl planned
  have honours : ∀ q ∈ (v.plan.redeclared declared failures).nodes, Contract.Honours g.types q := by
    rw [MappingPlan.nodes_redeclared, List.forall_mem_map]
    intro q mem
    refine MappingPlan.redeclared_honours (accept.verified.honours q mem) ?_
    rw [accept.declaredFailures_eq q mem]
    exact more
  obtain ⟨v', verified⟩ :=
    (Contract.verify_exact g.types m.name (v.plan.redeclared declared failures) u.shapes).1.mpr honours
  refine ⟨v', ?_, (Contract.verified_of_gives (gives_of_result verified)).plan_eq⟩
  rw [plan_result_eq_of_view view, plan_result_of_gives redeclared]
  exact verified

/-- A method that may not find an item. -/
def findItem : MappingMethod where
  name := "find_item"
  sourceType := ⟨"Item"⟩
  targetType := ⟨"ItemDto"⟩
  declaredFailures := [⟨"NotFound"⟩]

/-- What is planned for a shelf beside that method, over some shapes. -/
def shelfAccepted (m : MappingMethod) (shapes : ShapeCache) :
    Narration Report Event ShapeCache VerifiedPlan :=
  (shelves.plan [findItem] m).run shapes

/-- The failures that each plan of a tree declares, and those of its references. -/
def failuresOf (p : MappingPlan) : List (List TypeName × List (List TypeName)) :=
  p.nodes.map fun q => (q.declaredFailures, q.references.map (·.declaredFailures))

/-- A shelf may be locked as well. The plans of its tree declare this, and the references among them raise
it, also the one from a box back to its shelf; the one to the method that is declared elsewhere does not. -/
theorem plan_of_more_failures_for_shelf : ∃ v v',
    (shelfAccepted (mapShelf.declaring [⟨"NotFound"⟩]) .empty).result = .ok v ∧
    (shelfAccepted ((mapShelf.declaring [⟨"NotFound"⟩]).declaring [⟨"Locked"⟩]) .empty).result = .ok v' ∧
    v'.plan = v.plan.redeclared [findItem] [⟨"NotFound"⟩, ⟨"Locked"⟩] ∧
    failuresOf v.plan = [([⟨"NotFound"⟩], [[⟨"NotFound"⟩]]),
      ([⟨"NotFound"⟩], [[⟨"NotFound"⟩], [⟨"NotFound"⟩]])] ∧
    failuresOf v'.plan = [([⟨"NotFound"⟩, ⟨"Locked"⟩], [[⟨"NotFound"⟩, ⟨"Locked"⟩]]),
      ([⟨"NotFound"⟩, ⟨"Locked"⟩], [[⟨"NotFound"⟩], [⟨"NotFound"⟩, ⟨"Locked"⟩]])] := by
  obtain ⟨v, accepted, evaluated⟩ := exists_ok_of_any
    (show (shelfAccepted (mapShelf.declaring [⟨"NotFound"⟩]) .empty).result.toOption.any (fun v =>
      failuresOf v.plan == [([⟨"NotFound"⟩], [[⟨"NotFound"⟩]]),
        ([⟨"NotFound"⟩], [[⟨"NotFound"⟩], [⟨"NotFound"⟩]])]) = true by decide +kernel)
  obtain ⟨w, acceptedAgain, evaluatedAgain⟩ := exists_ok_of_any
    (show (shelfAccepted ((mapShelf.declaring [⟨"NotFound"⟩]).declaring [⟨"Locked"⟩])
        .empty).result.toOption.any (fun v =>
      failuresOf v.plan == [([⟨"NotFound"⟩, ⟨"Locked"⟩], [[⟨"NotFound"⟩, ⟨"Locked"⟩]]),
        ([⟨"NotFound"⟩, ⟨"Locked"⟩], [[⟨"NotFound"⟩], [⟨"NotFound"⟩, ⟨"Locked"⟩]])]) = true by
      decide +kernel)
  unfold shelfAccepted at accepted acceptedAgain ⊢
  obtain ⟨v', accepted', redeclared⟩ :=
    plan_of_more_failures (List.subset_append_left _ [⟨"Locked"⟩]) rfl accepted
  rw [← MappingMethod.declaring] at accepted'
  obtain rfl : w = v' := Except.ok.inj (acceptedAgain.symm.trans accepted')
  exact ⟨v, w, accepted, acceptedAgain, redeclared, beq_iff_eq.mp evaluated, beq_iff_eq.mp evaluatedAgain⟩

end Generator

end BeanMapping
