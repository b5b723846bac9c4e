import BeanMapping.Proofs.Derivation

/-!
# Derived methods

What is true of every planned tree, by induction on its derivation.

* The planner remembers exactly the methods whose plans it embeds (`Planned.derived_eq`).
* An embedded plan has a derivation of its own (`Planned.hasDerivation`): it is that of the method
  derived for its types, with the failures of the root. No two are for the same types
  (`Planned.nodup`).
* A reference is to a declared method, to a method in progress or to a derived one
  (`Planned.accounted`); one with a plan is to the method of the plan (`Planned.embeds`).
* What is done for a property is what the strategy of its method prescribes (`Planned.prescribed`).

Result:
* **`plannedTree_of_gives`**: a planned root has all of these, with the root in the place of the
  methods in progress (`PlannedTree`).
-/

namespace BeanMapping

/-- What is done for a property is what a strategy prescribes. -/
def PlannedProperty.Prescribed (strategy : CollectionStrategy) (x : PlannedProperty MappingPlan) :
    Prop :=
  CorrelatedProperty.action? strategy ⟨x.source, x.target, .exact⟩ x.conversion.isSome =
    some x.action

/-- The source and the target type of a frame. -/
def Frame.pair (f : Frame) : TypeName × TypeName := (f.source, f.target)

namespace Planner

open MappingPlan (embedded allProperties)

variable {p : Planner} {deeper : Nat} {frames : List Frame} {m : MappingMethod}
  {pairs : List CorrelatedProperty} {source target : TypeName} {s t : PlanState}
  {xs : List (PlannedProperty MappingPlan)} {n : NestedMapping MappingPlan}

/-! ## Methods without plans -/

/-- The methods that were derived are remembered without their plans. -/
def Bare (s : PlanState) : Prop := ∀ n ∈ s.derived, n.plan = none

theorem bare_of_nil (nothing : s.derived = []) : Bare s := by
  unfold Bare
  rw [nothing]
  exact fun n mem => absurd mem List.not_mem_nil

theorem declaredMapping?_eq_some (h : p.declaredMapping? source target = some n) :
    ∃ d ∈ p.declared, d.updatesTarget = false ∧
      n = reference d.name d.sourceType d.targetType d.declaredFailures := by
  unfold declaredMapping? at h
  obtain ⟨d, hd, rfl⟩ := Option.map_eq_some_iff.mp h
  have key := List.find?_some hd
  unfold MappingMethod.maps at key
  simp only [Bool.and_eq_true, beq_iff_eq, Bool.not_eq_true'] at key
  obtain ⟨⟨rfl, rfl⟩, creates⟩ := key
  exact ⟨d, List.mem_of_find?_eq_some hd, creates, rfl⟩

/-- No declared method that creates its target is for types that none was found for. -/
theorem ne_of_undeclared {d : MappingMethod} (h : p.declaredMapping? source target = none)
    (hd : d ∈ p.declared) (creates : d.updatesTarget = false) :
    (source, target) ≠ (d.sourceType, d.targetType) := by
  intro same
  obtain ⟨rfl, rfl⟩ := Prod.mk.inj same
  unfold declaredMapping? at h
  have missed := List.find?_eq_none.mp (Option.map_eq_none_iff.mp h) d hd
  simp [MappingMethod.maps, creates] at missed

theorem Direct.plan?_eq_none {conversion : Option (Conversion MappingPlan)}
    (h : p.Direct source target conversion) : conversion.bind Conversion.plan? = none := by
  cases h <;> rfl

theorem Known.plan?_eq_none (h : p.Known frames s.derived source target n) (bare : Bare s) :
    (some (Conversion.nested n)).bind Conversion.plan? = none := by
  cases h with
  | declared _ hd =>
    obtain ⟨d, -, -, rfl⟩ := declaredMapping?_eq_some hd
    rfl
  | inProgress => rfl
  | again _ mem _ => exact bare n mem

theorem Opens.bare {opened : PlanState} (h : p.Opens m s pairs opened) (bare : Bare s) :
    Bare opened := by
  unfold Bare
  rw [h.derived_eq]
  exact bare

theorem Bare.snoc (bare : Bare s) :
    Bare { s with derived := s.derived ++ [p.derivedReference source target] } := by
  intro n mem
  rcases List.mem_append.mp mem with mem | mem
  · exact bare n mem
  · rw [List.mem_singleton.mp mem]
    rfl

theorem Planned.bare (h : p.Planned deeper frames m pairs s xs t) (bare : Bare s) : Bare t := by
  induction h with
  | nil => exact bare
  | skip _ _ ih => exact ih bare
  | direct _ _ _ _ ih => exact ih bare
  | known _ _ _ _ ih => exact ih bare
  | fresh _ _ _ opens _ _ ihInner ihRest => exact ihRest (ihInner (opens.bare bare)).snoc

/-! ## The methods that are remembered -/

/-- **The planner remembers the methods whose plans it embeds**, in the order of the plans. -/
theorem Planned.derived_eq (h : p.Planned deeper frames m pairs s xs t) (bare : Bare s) :
    t.derived = s.derived ++ (embedded xs).map MappingPlan.reference := by
  induction h with
  | nil => exact (List.append_nil _).symm
  | skip _ _ ih => exact ih bare
  | direct _ direct _ _ ih =>
    rw [ih bare, MappingPlan.embedded_cons_none direct.plan?_eq_none]
  | known _ known _ _ ih =>
    rw [ih bare, MappingPlan.embedded_cons_none (known.plan?_eq_none bare)]
  | fresh _ _ _ opens planned _ ihInner ihRest =>
    have bareInner := opens.bare bare
    rw [ihRest (planned.bare bareInner).snoc, ihInner bareInner, opens.derived_eq,
      MappingPlan.embedded_cons_some rfl]
    simp only [List.map_append, List.map_cons, List.append_assoc, List.cons_append,
      List.nil_append]
    rfl

/-! ## The methods that are derived -/

/-- A plan is the one of the method that is derived for its types. -/
structure IsDerived (p : Planner) (q : MappingPlan) : Prop where
  method_eq : q.method = derivedName q.sourceType q.targetType
  declaredFailures_eq : q.declaredFailures = p.contract
  creates : q.updatesTarget = false

/-- The plan was derived for its types by a derivation of its own, which began without plans. -/
def HasDerivation (p : Planner) (q : MappingPlan) : Prop :=
  ∃ source target deeper frames pairs s ys t, Bare s ∧
    p.Planned deeper frames (p.derivedMethod source target) pairs s ys t ∧
    q = planOf (p.derivedMethod source target) ys

/-- **Every embedded plan has a derivation of its own.** -/
theorem Planned.hasDerivation (h : p.Planned deeper frames m pairs s xs t) (bare : Bare s) :
    ∀ q ∈ embedded xs, p.HasDerivation q := by
  induction h with
  | nil => exact fun q mem => absurd mem List.not_mem_nil
  | skip _ _ ih => exact ih bare
  | direct _ direct _ _ ih =>
    rw [MappingPlan.embedded_cons_none direct.plan?_eq_none]
    exact ih bare
  | known _ known _ _ ih =>
    rw [MappingPlan.embedded_cons_none (known.plan?_eq_none bare)]
    exact ih bare
  | fresh _ _ _ opens planned _ ihInner ihRest =>
    have bareInner := opens.bare bare
    rw [MappingPlan.embedded_cons_some rfl, List.forall_mem_append, List.forall_mem_cons]
    exact ⟨ihInner bareInner, ⟨_, _, _, _, _, _, _, _, bareInner, planned, rfl⟩,
      ihRest (planned.bare bareInner).snoc⟩

/-- An embedded plan is that of the method derived for its types. -/
theorem HasDerivation.isDerived {q : MappingPlan} (h : p.HasDerivation q) : p.IsDerived q := by
  obtain ⟨source, target, _, _, _, _, ys, _, -, -, rfl⟩ := h
  exact ⟨rfl, rfl, rfl⟩

/-- **No two derived methods are for the same types**, nor is one for those of a method in progress. -/
theorem Planned.nodup (h : p.Planned deeper frames m pairs s xs t)
    (nodup : (s.derived.map NestedMapping.pair ++ frames.map Frame.pair).Nodup) :
    (t.derived.map NestedMapping.pair ++ frames.map Frame.pair).Nodup := by
  induction h with
  | nil => exact nodup
  | skip _ _ ih => exact ih nodup
  | direct _ _ _ _ ih => exact ih nodup
  | known _ _ _ _ ih => exact ih nodup
  | @fresh deeper frames _ _ _ _ s t u v _ _ source target _ _ fresh _ opens _ _ ihInner ihRest =>
    have free : (source, target) ∉ s.derived.map NestedMapping.pair ++ frames.map Frame.pair :=
      fun mem => (List.mem_append.mp mem).elim fresh.not_derived fresh.not_in_progress
    have opened : (u.derived.map NestedMapping.pair ++
        (frames ++ [frameOf (p.derivedMethod source target)]).map Frame.pair).Nodup := by
      rw [opens.derived_eq, List.map_append, ← List.append_assoc]
      exact (List.perm_append_singleton _ _).nodup_iff.mpr (List.nodup_cons.mpr ⟨free, nodup⟩)
    have inner := ihInner opened
    refine ihRest ?_
    rw [List.map_append] at inner
    rw [List.map_append, List.append_assoc]
    exact (List.Perm.append_left _ List.perm_append_comm).nodup_iff.mp inner

/-! ## References -/

/-- A reference is to a declared method that creates its target, to a method in progress, or to one
that was derived. -/
def Accounted (p : Planner) (frames : List Frame) (derived : List (NestedMapping MappingPlan))
    (n : NestedMapping MappingPlan) : Prop :=
  (∃ d ∈ p.declared, d.updatesTarget = false ∧
      n = reference d.name d.sourceType d.targetType d.declaredFailures) ∨
    n.bare ∈ frames.map p.referenceTo ∨ n.bare ∈ derived

theorem Known.accounted (h : p.Known frames s.derived source target n) (bare : Bare s) :
    p.Accounted frames s.derived n := by
  cases h with
  | declared _ hd => exact Or.inl (declaredMapping?_eq_some hd)
  | inProgress _ mem => exact Or.inr (Or.inl (List.mem_map.mpr ⟨_, mem, rfl⟩))
  | again _ mem _ =>
    have plain : n.bare = n := by
      unfold NestedMapping.bare
      rw [← bare n mem]
    exact Or.inr (Or.inr (plain ▸ mem))

theorem Accounted.mono {derived more : List (NestedMapping MappingPlan)}
    (h : p.Accounted frames derived n) (le : derived ⊆ more) : p.Accounted frames more n :=
  h.imp_right (Or.imp_right fun mem => le mem)

/-- What was derived is not forgotten. -/
theorem Planned.derived_subset (h : p.Planned deeper frames m pairs s xs t) (bare : Bare s) :
    s.derived ⊆ t.derived := by
  rw [h.derived_eq bare]
  exact List.subset_append_left _ _

/-- **Every reference is accounted for.** -/
theorem Planned.accounted (h : p.Planned deeper frames m pairs s xs t) (bare : Bare s) :
    ∀ x ∈ allProperties xs, ∀ n, x.nested? = some n → p.Accounted frames t.derived n := by
  induction h with
  | nil => exact fun x mem => absurd mem List.not_mem_nil
  | skip _ _ ih => exact ih bare
  | direct _ direct _ _ ih =>
    intro x mem n hn
    rcases (MappingPlan.mem_allProperties_cons_none direct.plan?_eq_none).mp mem with rfl | mem
    · rw [PlannedProperty.nested?_eq_some_iff] at hn
      subst hn
      cases direct
    · exact ih bare x mem n hn
  | known _ known _ rest ih =>
    intro x mem n hn
    rcases (MappingPlan.mem_allProperties_cons_none (known.plan?_eq_none bare)).mp mem with rfl | mem
    · obtain rfl := Option.some.inj hn
      exact (known.accounted bare).mono (rest.derived_subset bare)
    · exact ih bare x mem n hn
  | @fresh deeper frames _ _ _ _ s t u v _ _ source target _ _ _ _ opens planned rest ihInner
      ihRest =>
    have bareInner := opens.bare bare
    have bareRest : Bare { v with derived := v.derived ++ [p.derivedReference source target] } :=
      (planned.bare bareInner).snoc
    have kept := rest.derived_subset bareRest
    have own : p.derivedReference source target ∈ t.derived :=
      kept (List.mem_append_right _ List.mem_cons_self)
    intro x mem n hn
    rcases (MappingPlan.mem_allProperties_cons_some rfl).mp mem with rfl | mem | mem
    · obtain rfl := Option.some.inj hn
      exact Or.inr (Or.inr own)
    · rcases ihInner bareInner x mem n hn with hd | hf | hk
      · exact Or.inl hd
      · rw [List.map_append, List.mem_append, List.map_singleton, List.mem_singleton] at hf
        rcases hf with hf | hf
        · exact Or.inr (Or.inl hf)
        · exact Or.inr (Or.inr (hf ▸ own))
      · exact Or.inr (Or.inr (kept (List.mem_append_left _ hk)))
    · exact ihRest bareRest x mem n hn

/-- **A reference with a plan is to the method of the plan.** -/
theorem Planned.embeds (h : p.Planned deeper frames m pairs s xs t) (bare : Bare s) :
    ∀ x ∈ xs, ∀ n, x.nested? = some n → ∀ c, n.plan = some c → n.bare = c.reference := by
  induction h with
  | nil => exact fun x mem => absurd mem List.not_mem_nil
  | skip _ _ ih => exact ih bare
  | direct _ direct _ _ ih =>
    refine List.forall_mem_cons.mpr ⟨fun n hn => ?_, ih bare⟩
    rw [PlannedProperty.nested?_eq_some_iff] at hn
    subst hn
    cases direct
  | known _ known _ _ ih =>
    refine List.forall_mem_cons.mpr ⟨fun n hn c hc => ?_, ih bare⟩
    obtain rfl := Option.some.inj hn
    exact absurd (hc.symm.trans (known.plan?_eq_none bare)) (by simp)
  | fresh _ _ _ opens planned _ _ ihRest =>
    have bareInner := opens.bare bare
    refine List.forall_mem_cons.mpr ⟨fun n hn c hc => ?_, ihRest (planned.bare bareInner).snoc⟩
    obtain rfl := Option.some.inj hn
    obtain rfl := Option.some.inj hc
    rfl

/-! ## Actions -/

/-- **What is done for a property is what the strategy of its method prescribes.** -/
theorem Planned.prescribed (h : p.Planned deeper frames m pairs s xs t) :
    ∀ x ∈ xs, x.Prescribed (p.strategyOf m) := by
  induction h with
  | nil => exact fun x mem => absurd mem List.not_mem_nil
  | skip _ _ ih => exact ih
  | direct _ _ writes _ ih => exact List.forall_mem_cons.mpr ⟨writes, ih⟩
  | known _ _ writes _ ih => exact List.forall_mem_cons.mpr ⟨writes, ih⟩
  | fresh _ _ writes _ _ _ _ ihRest => exact List.forall_mem_cons.mpr ⟨writes, ihRest⟩

/-! ## Planned roots -/

/-- What is true of the plan tree of a root method. -/
structure PlannedTree (p : Planner) (root : MappingMethod) (plan : MappingPlan) : Prop where
  root_eq : ∃ xs, plan = planOf root xs
  isDerived : ∀ q ∈ embedded plan.properties, p.IsDerived q
  /-- No two plans of the tree are for the same types. -/
  nodup : (plan.postorder.map MappingPlan.pair).Nodup
  /-- A reference is to a declared method that creates its target or to a plan of the tree. -/
  reference_cases : ∀ q ∈ plan.nodes, ∀ n ∈ q.references,
    (∃ d ∈ p.declared, d.updatesTarget = false ∧
      n = reference d.name d.sourceType d.targetType d.declaredFailures) ∨
    ∃ c ∈ plan.nodes, n.bare = c.reference
  embeds : ∀ q ∈ plan.nodes, ∀ n ∈ q.references, ∀ c, n.plan = some c → n.bare = c.reference
  prescribed : ∀ q ∈ plan.nodes, ∀ x ∈ q.properties, x.Prescribed p.strategy

theorem PlannedTree.declaredFailures_eq {root : MappingMethod} {plan : MappingPlan}
    (h : p.PlannedTree root plan) (contract : p.contract = root.declaredFailures) :
    ∀ q ∈ plan.nodes, q.declaredFailures = root.declaredFailures := by
  intro q mem
  rcases MappingPlan.mem_nodes_iff_embedded.mp mem with rfl | mem
  · obtain ⟨xs, rfl⟩ := h.root_eq
    rfl
  · exact (h.isDerived q mem).declaredFailures_eq.trans contract

/-- **The plan of a root method is a planned tree.** -/
theorem plannedTree_of_gives {types : Registry} {config : GeneratorConfig} {book : RuleBook}
    {declared : List MappingMethod} {root : MappingMethod} {plan : MappingPlan}
    (nothing : s.derived = [])
    (h : ((ofRoot types config book declared root).planRoot root).Gives s plan t) :
    (ofRoot types config book declared root).PlannedTree root plan := by
  obtain ⟨pairs, u, xs, opens, planned, rfl⟩ := planRoot_gives h
  have none : u.derived = [] := opens.derived_eq.trans nothing
  have bare : Bare u := bare_of_nil none
  have derived : t.derived = (embedded xs).map MappingPlan.reference := by
    rw [planned.derived_eq bare, none, List.nil_append]
  have hasDerivation := planned.hasDerivation bare
  refine ⟨⟨xs, rfl⟩, fun q mem => (hasDerivation q mem).isDerived, ?_, fun q mem n hn => ?_,
    fun q mem n hn => ?_, fun q mem x hx => ?_⟩
  · have nodup := planned.nodup (by rw [none]; simp)
    rw [derived, List.map_map] at nodup
    rw [MappingPlan.postorder_eq_embedded, List.map_append]
    exact nodup
  · obtain ⟨x, hx, hn⟩ := MappingPlan.mem_references_iff.mp hn
    have reached : x ∈ allProperties xs := by
      rw [MappingPlan.mem_allProperties_iff]
      rcases MappingPlan.mem_nodes_iff_embedded.mp mem with rfl | mem
      · exact Or.inl hx
      · exact Or.inr ⟨q, mem, hx⟩
    rcases planned.accounted bare x reached n hn with hd | hf | hk
    · exact Or.inl hd
    · exact Or.inr ⟨_, MappingPlan.mem_nodes_self _, List.mem_singleton.mp hf⟩
    · rw [derived, List.mem_map] at hk
      obtain ⟨c, hc, hn⟩ := hk
      exact Or.inr ⟨c, MappingPlan.mem_nodes_iff_embedded.mpr (Or.inr hc), hn.symm⟩
  · obtain ⟨x, hx, asked⟩ := MappingPlan.mem_references_iff.mp hn
    rcases MappingPlan.mem_nodes_iff_embedded.mp mem with rfl | mem
    · exact planned.embeds bare x hx n asked
    · obtain ⟨_, _, _, _, _, _, _, _, bare, planned, rfl⟩ := hasDerivation q mem
      exact planned.embeds bare x hx n asked
  · rcases MappingPlan.mem_nodes_iff_embedded.mp mem with rfl | mem
    · exact planned.prescribed x hx
    · obtain ⟨_, _, _, _, _, _, _, _, -, planned, rfl⟩ := hasDerivation q mem
      exact planned.prescribed x hx

end Planner

end BeanMapping
