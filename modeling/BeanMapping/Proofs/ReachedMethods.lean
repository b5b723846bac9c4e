import BeanMapping.Proofs.Conversions
import BeanMapping.Proofs.ShapeViews

/-!
# The methods that a root reaches

What a method has to have derived is settled by its pairs alone: a pair that can be written and that only
a mapping of beans converts needs the method for its types. So a root reaches a set of methods
(`Reaches`), whatever the order in which they are found. Planning finds each of them once and plans nothing
else.

How a pair is settled is fixed but for the plan that a mapping may embed (`Settles`), and with it what may
fail (`Settles.failures_eq`).

Result:
* **`exists_plan_of_reaches`**, **`exists_reached_of_mem`**: the plans of a planned tree are those of the
  methods that its root reaches.
-/

namespace BeanMapping.Planner

open MappingPlan (embedded)

variable {p : Planner} {shapes : ShapeView} {deeper : Nat} {frames : List Frame}
  {m root : MappingMethod} {pair : CorrelatedProperty} {pairs : List CorrelatedProperty}
  {s t : PlanState} {x y : PlannedProperty MappingPlan} {xs : List (PlannedProperty MappingPlan)}
  {source target : TypeName} {c d : Option (Conversion MappingPlan)} {plan : MappingPlan}

/-! ## Settled pairs -/

/-- A conversion between two types, in which a derived mapping declares the failures of the root. -/
structure Resolves (p : Planner) (source target : TypeName) (c : Option (Conversion MappingPlan)) :
    Prop where
  converts : p.Converts source target c
  contracted : p.declaredMapping? source target = none →
    ∀ n, c = some (.nested n) → n.declaredFailures = p.contract

/-- **A planned property settles a pair of a method.** -/
structure Settles (p : Planner) (m : MappingMethod) (pair : CorrelatedProperty)
    (x : PlannedProperty MappingPlan) : Prop where
  source_eq : x.source = pair.source
  target_eq : x.target = pair.target
  writes : pair.action? (p.strategyOf m) x.conversion.isSome = some x.action
  resolves : ∃ source target, p.Wants m pair source target ∧ p.Resolves source target x.conversion

theorem Direct.route_ne_ask (h : p.Direct source target c) :
    Resolution.route p.types p.book source target ≠ .ask := by
  cases h with
  | rule h | generic h | identity h | builtin h => simp [h]

theorem Direct.unique (h : p.Direct source target c) (h' : p.Direct source target d) : c = d := by
  cases h with
  | rule h | generic h | identity h | builtin h hb => cases h' <;> simp_all

theorem Wants.unique {source' target' : TypeName} (h : p.Wants m pair source target)
    (h' : p.Wants m pair source' target') : source = source' ∧ target = target' :=
  ⟨h.source_eq.symm.trans h'.source_eq, Except.ok.inj (h.target_eq.symm.trans h'.target_eq)⟩

/-- Two conversions between the same types are the same, or refer to a planned method for these types with
the same failures. -/
theorem Resolves.eq_or_references (h : p.Resolves source target c) (h' : p.Resolves source target d) :
    c = d ∨ ∃ n n', c = some (.nested n) ∧ d = some (.nested n') ∧ n.pair = n'.pair ∧
      n.declaredFailures = n'.declaredFailures := by
  obtain ⟨converts, contracted⟩ := h
  obtain ⟨converts', contracted'⟩ := h'
  cases converts with
  | direct h =>
    cases converts' with
    | direct h' => exact Or.inl (h.unique h')
    | declared route_eq => exact absurd route_eq h.route_ne_ask
    | supplied nestable => exact absurd nestable.route_eq h.route_ne_ask
  | declared route_eq h =>
    cases converts' with
    | direct h' => exact absurd route_eq h'.route_ne_ask
    | declared _ h' =>
      rw [Option.some.inj (h.symm.trans h')]
      exact Or.inl rfl
    | supplied nestable => exact absurd (nestable.undeclared.symm.trans h) (by simp)
  | supplied nestable pair_eq =>
    have own := contracted nestable.undeclared _ rfl
    cases converts' with
    | direct h' => exact absurd nestable.route_eq h'.route_ne_ask
    | declared _ h' => exact absurd (nestable.undeclared.symm.trans h') (by simp)
    | supplied _ pair_eq' =>
      have own' := contracted' nestable.undeclared _ rfl
      exact Or.inr ⟨_, _, rfl, rfl, pair_eq.trans pair_eq'.symm, own.trans own'.symm⟩

/-- Conversions between two types declare the same failures. -/
theorem Resolves.declaredFailures_eq (h : p.Resolves source target c) (h' : p.Resolves source target d) :
    c.map Conversion.declaredFailures = d.map Conversion.declaredFailures := by
  rcases h.eq_or_references h' with rfl | ⟨n, n', rfl, rfl, -, same⟩
  · rfl
  · exact congrArg some same

/-- However a pair is settled, it is between the same types. -/
theorem Settles.resolves_both (h : p.Settles m pair x) (h' : p.Settles m pair y) :
    ∃ source target, p.Resolves source target x.conversion ∧ p.Resolves source target y.conversion := by
  obtain ⟨source, target, wants, resolves⟩ := h.resolves
  obtain ⟨_, _, wants', resolves'⟩ := h'.resolves
  obtain ⟨rfl, rfl⟩ := wants.unique wants'
  exact ⟨source, target, resolves, resolves'⟩

/-- However a pair is settled, it is written by the same action. -/
theorem Settles.action_eq (h : p.Settles m pair x) (h' : p.Settles m pair y) : x.action = y.action := by
  obtain ⟨source, target, resolves, resolves'⟩ := h.resolves_both h'
  have converted := congrArg Option.isSome (resolves.declaredFailures_eq resolves')
  rw [Option.isSome_map, Option.isSome_map] at converted
  have writes := h.writes
  rw [converted, h'.writes] at writes
  exact (Option.some.inj writes).symm

/-- **The same may fail, however a pair is settled.** -/
theorem Settles.failures_eq (h : p.Settles m pair x) (h' : p.Settles m pair y) :
    x.invocations.map Invocation.failures = y.invocations.map Invocation.failures := by
  obtain ⟨source, target, resolves, resolves'⟩ := h.resolves_both h'
  have same := resolves.declaredFailures_eq resolves'
  have mutator_eq : x.mutator? = y.mutator? := by
    unfold PlannedProperty.mutator?
    rw [h.action_eq h', h.target_eq, h'.target_eq]
  have calls : ∀ c : Option (Conversion MappingPlan),
      (c.map PlannedProperty.conversionCall).toList.map Invocation.failures =
        (c.map Conversion.declaredFailures).toList := fun c => by cases c <;> rfl
  unfold PlannedProperty.invocations
  rw [List.map_append, List.map_append, List.map_append, List.map_append, calls, calls, same, mutator_eq,
    h.source_eq, h'.source_eq]

/-- Planned properties settle the pairs of a method: each of them one that can be written, and each pair
that can be written is settled. -/
structure Fulfils (p : Planner) (m : MappingMethod) (pairs : List CorrelatedProperty)
    (xs : List (PlannedProperty MappingPlan)) : Prop where
  settled : ∀ x ∈ xs, ∃ pair ∈ pairs, p.Settles m pair x
  settles : ∀ pair ∈ pairs, pair.action? (p.strategyOf m) false ≠ none → ∃ x ∈ xs, p.Settles m pair x

theorem Direct.resolves (h : p.Direct source target c) : p.Resolves source target c :=
  ⟨.direct h, fun _ n same => by subst same; cases h⟩

theorem Known.resolves {n : NestedMapping MappingPlan} (h : p.Known frames s.derived source target n)
    (contracted : p.Contracted s) : p.Resolves source target (some (.nested n)) := by
  refine ⟨h.converts, fun undeclared _ same => ?_⟩
  cases same
  cases h with
  | declared _ h => exact absurd (undeclared.symm.trans h) (by simp)
  | inProgress => rfl
  | again _ mem => exact contracted _ mem

theorem Fresh.resolves (h : p.Fresh frames s.derived source target) (plan : MappingPlan) :
    p.Resolves source target (some (.nested { p.derivedReference source target with plan := some plan })) := by
  refine ⟨.supplied h.toNestable rfl, fun _ n same => ?_⟩
  obtain rfl := Conversion.nested.inj (Option.some.inj same)
  rfl

/-- The pair can be written. -/
def writable (p : Planner) (m : MappingMethod) (pair : CorrelatedProperty) : Bool :=
  (pair.action? (p.strategyOf m) false).isSome

theorem writable_iff : p.writable m pair = true ↔ pair.action? (p.strategyOf m) false ≠ none :=
  Option.isSome_iff_ne_none

theorem writable_of_writes {converts : Bool} {action : PropertyAction}
    (writes : pair.action? (p.strategyOf m) converts = some action) : p.writable m pair = true := by
  rw [writable_iff, Ne, action?_eq_none_iff false converts, writes]
  exact Option.some_ne_none action

/-- **What is planned for the pairs of a method settles those that can be written**, one by one. -/
theorem Planned.settled (h : p.Planned deeper frames m pairs s xs t) (contracted : p.Contracted s) :
    List.Forall₂ (p.Settles m) (pairs.filter (p.writable m)) xs := by
  induction h with
  | nil => exact .nil
  | skip unwritable _ ih =>
    rw [List.filter_cons_of_neg fun writes => writable_iff.mp writes unwritable]
    exact ih contracted
  | direct wants direct writes _ ih =>
    rw [List.filter_cons_of_pos (writable_of_writes writes)]
    exact .cons ⟨rfl, rfl, writes, _, _, wants, direct.resolves⟩ (ih contracted)
  | known wants known writes _ ih =>
    rw [List.filter_cons_of_pos (writable_of_writes writes)]
    exact .cons ⟨rfl, rfl, writes, _, _, wants, known.resolves contracted⟩ (ih contracted)
  | fresh wants fresh writes opens planned _ _ ihRest =>
    rw [List.filter_cons_of_pos (writable_of_writes writes)]
    exact .cons ⟨rfl, rfl, writes, _, _, wants, fresh.resolves _⟩
      (ihRest (planned.contracted (opens.contracted contracted)).snoc)

theorem exists_of_forall₂ {α β : Type} {R : α → β → Prop} {l : List α} {l' : List β}
    (h : List.Forall₂ R l l') : ∀ a ∈ l, ∃ b ∈ l', R a b := by
  induction h with
  | nil => exact fun a mem => absurd mem List.not_mem_nil
  | cons first _ ih =>
    refine List.forall_mem_cons.mpr ⟨⟨_, List.mem_cons_self, first⟩, fun a mem => ?_⟩
    obtain ⟨b, mem, related⟩ := ih a mem
    exact ⟨b, List.mem_cons_of_mem _ mem, related⟩

/-- Where the pairs that can be written are settled one by one, the pairs are fulfilled. -/
theorem fulfils_of_settled (settled : List.Forall₂ (p.Settles m) (pairs.filter (p.writable m)) xs) :
    p.Fulfils m pairs xs := by
  refine ⟨fun x mem => ?_, fun pair mem writes => ?_⟩
  · obtain ⟨pair, kept, settles⟩ := exists_of_forall₂ settled.flip x mem
    exact ⟨pair, List.mem_of_mem_filter kept, settles⟩
  · exact exists_of_forall₂ settled pair (List.mem_filter.mpr ⟨mem, writable_iff.mpr writes⟩)

/-- What is planned for the pairs of a method fulfils them. -/
theorem Planned.fulfils (h : p.Planned deeper frames m pairs s xs t) (contracted : p.Contracted s) :
    p.Fulfils m pairs xs :=
  fulfils_of_settled (h.settled contracted)

/-! ## Reached methods -/

/-- The method needs another that is derived for the two types. -/
structure Needs (p : Planner) (shapes : ShapeView) (m : MappingMethod) (source target : TypeName) :
    Prop where
  nestable : p.Nestable source target
  wanted : ∃ pairs, p.OpensOver shapes m pairs ∧ ∃ pair ∈ pairs,
    pair.action? (p.strategyOf m) false ≠ none ∧ p.Wants m pair source target

theorem OpensOver.unique {pairs' : List CorrelatedProperty} (h : p.OpensOver shapes m pairs)
    (h' : p.OpensOver shapes m pairs') : pairs = pairs' := by
  obtain ⟨source, target, hs, ht, -, correlated⟩ := h
  obtain ⟨_, _, hs', ht', -, correlated'⟩ := h'
  obtain rfl := Except.ok.inj (hs.symm.trans hs')
  obtain rfl := Except.ok.inj (ht.symm.trans ht')
  exact Except.ok.inj (correlated.symm.trans correlated')

/-- What a planned method needs, it refers to. -/
theorem Needs.exists_reference (needs : p.Needs shapes m source target)
    (opens : p.OpensOver shapes m pairs) (fulfils : p.Fulfils m pairs xs) :
    ∃ x ∈ xs, ∃ n, x.nested? = some n ∧ n.pair = (source, target) := by
  obtain ⟨_, opens', pair, hpair, writable, wants⟩ := needs.wanted
  obtain rfl := opens.unique opens'
  obtain ⟨x, hx, settles⟩ := fulfils.settles pair hpair writable
  obtain ⟨_, _, wants', converts, -⟩ := settles.resolves
  obtain ⟨rfl, rfl⟩ := wants.unique wants'
  generalize hc : x.conversion = c at converts
  cases converts with
  | direct h => exact absurd needs.nestable.route_eq h.route_ne_ask
  | declared _ h => exact absurd (needs.nestable.undeclared.symm.trans h) (by simp)
  | @supplied n _ pair_eq => exact ⟨x, hx, n, PlannedProperty.nested?_eq_some_iff.mpr hc, pair_eq⟩

/-- **The methods that a root reaches**: itself, and with each method those that it needs. None is derived
for the types of the root. -/
inductive Reaches (p : Planner) (shapes : ShapeView) (root : MappingMethod) : MappingMethod → Prop
  | root : Reaches p shapes root root
  | needed {m : MappingMethod} {source target : TypeName} (reached : Reaches p shapes root m)
      (needs : p.Needs shapes m source target) (other : (source, target) ≠ (frameOf root).pair) :
      Reaches p shapes root (p.derivedMethod source target)

/-- The plan is one of the method. -/
def IsPlanOf (p : Planner) (shapes : ShapeView) (m : MappingMethod) (plan : MappingPlan) : Prop :=
  ∃ pairs xs, p.OpensOver shapes m pairs ∧ p.Fulfils m pairs xs ∧ plan = planOf m xs

theorem IsPlanOf.pair_eq (h : p.IsPlanOf shapes m plan) : plan.pair = (frameOf m).pair := by
  obtain ⟨_, _, -, -, rfl⟩ := h
  rfl

/-- The methods whose plans are embedded are reached: each is needed where it is first used. -/
theorem Planned.reaches (h : p.Planned deeper frames m pairs s xs t) (bare : Bare s)
    (root : MappingMethod) :
    ∀ all, p.OpensOver (p.view s) m all → pairs ⊆ all → p.Reaches (p.view s) root m →
      (frameOf root).pair ∈ frames.map Frame.pair →
      ∀ q ∈ embedded xs, p.Reaches (p.view s) root (p.derivedMethod q.sourceType q.targetType) := by
  induction h with
  | nil => exact fun _ _ _ _ _ q mem => absurd mem List.not_mem_nil
  | skip _ _ ih => exact fun all opens sub => ih bare all opens (List.cons_subset.mp sub).2
  | direct _ direct _ _ ih =>
    rw [MappingPlan.embedded_cons_none direct.plan?_eq_none]
    exact fun all opens sub => ih bare all opens (List.cons_subset.mp sub).2
  | known _ known _ _ ih =>
    rw [MappingPlan.embedded_cons_none (known.plan?_eq_none bare)]
    exact fun all opens sub => ih bare all opens (List.cons_subset.mp sub).2
  | @fresh deeper frames m pair pairs inner s t u v xs ys source target action wants fresh writes opens
      planned _ ihInner ihRest =>
    intro all opensAll sub reached inside
    obtain ⟨head, tail⟩ := List.cons_subset.mp sub
    obtain ⟨opensInner, opened⟩ := opens.opensOver
    have kept := planned.view_eq.trans opened
    have bareInner := opens.bare bare
    have writable : pair.action? (p.strategyOf m) false ≠ none := by
      rw [Ne, action?_eq_none_iff false true, writes]
      exact Option.some_ne_none _
    have other : (source, target) ≠ (frameOf root).pair :=
      fun same => fresh.not_in_progress (same ▸ inside)
    have own : p.Reaches (p.view s) root (p.derivedMethod source target) :=
      .needed reached ⟨fresh.toNestable, all, opensAll, pair, head, writable, wants⟩ other
    have innerReached := ihInner bareInner inner
    have restReached := ihRest (planned.bare bareInner).snoc all
    rw [opened] at innerReached
    rw [view_derived, kept] at restReached
    rw [MappingPlan.embedded_cons_some rfl, List.forall_mem_append, List.forall_mem_cons]
    refine ⟨innerReached opensInner (List.Subset.refl _) own ?_, own,
      restReached opensAll tail reached inside⟩
    rw [List.map_append]
    exact List.mem_append_left _ inside

/-! ## Planned trees -/

/-- The plans of a tree are plans of the root and of methods derived for their types. -/
theorem isPlanOf_of_gives (nothing : s.derived = []) (h : (p.planRoot root).Gives s plan t) :
    p.IsPlanOf (p.view s) root plan ∧ ∀ q ∈ embedded plan.properties,
      p.IsPlanOf (p.view s) (p.derivedMethod q.sourceType q.targetType) q := by
  obtain ⟨pairs, u, xs, opens, planned, rfl⟩ := planRoot_gives h
  have none := opens.derived_eq.trans nothing
  obtain ⟨opensOver, opened⟩ := opens.opensOver
  refine ⟨⟨pairs, xs, opensOver, planned.fulfils (contracted_of_nil none), rfl⟩, fun q mem => ?_⟩
  have origin := planned.origin (bare_of_nil none) (contracted_of_nil none) q mem
  rw [opened] at origin
  obtain ⟨-, _, _, inner, _, ys, _, opensOver, contracted, planned, made⟩ := origin
  exact ⟨inner, ys, opensOver, planned.fulfils contracted, made⟩

/-- **Each plan of a planned tree is that of a method that the root reaches.** -/
theorem exists_reached_of_mem (nothing : s.derived = []) (h : (p.planRoot root).Gives s plan t) :
    ∀ q ∈ plan.nodes, ∃ m, p.Reaches (p.view s) root m ∧ p.IsPlanOf (p.view s) m q := by
  obtain ⟨isRoot, isDerived⟩ := isPlanOf_of_gives nothing h
  obtain ⟨pairs, u, xs, opens, planned, rfl⟩ := planRoot_gives h
  have bare : Bare u := bare_of_nil (opens.derived_eq.trans nothing)
  obtain ⟨opensOver, opened⟩ := opens.opensOver
  have reaches := planned.reaches bare root pairs
  rw [opened] at reaches
  intro q mem
  rcases MappingPlan.mem_nodes_iff_embedded.mp mem with rfl | mem
  · exact ⟨root, .root, isRoot⟩
  · exact ⟨_, reaches opensOver (List.Subset.refl _) .root List.mem_cons_self q mem, isDerived q mem⟩

/-- **Each method that the root reaches has a plan in the planned tree**: by induction on how it is
reached. -/
theorem exists_plan_of_reaches (tree : p.PlannedTree root plan) (nothing : s.derived = [])
    (h : (p.planRoot root).Gives s plan t) (reached : p.Reaches (p.view s) root m) :
    ∃ q ∈ plan.nodes, p.IsPlanOf (p.view s) m q := by
  obtain ⟨isRoot, isDerived⟩ := isPlanOf_of_gives nothing h
  induction reached with
  | root => exact ⟨plan, MappingPlan.mem_nodes_self plan, isRoot⟩
  | @needed m source target reached needs other ih =>
    obtain ⟨q, mem, pairs, xs, opens, fulfils, rfl⟩ := ih
    obtain ⟨x, hx, n, refers, pair_eq⟩ := needs.exists_reference opens fulfils
    have asked : n ∈ (planOf m xs).references := MappingPlan.mem_references_iff.mpr ⟨x, hx, refers⟩
    rcases tree.reference_cases _ mem n asked with ⟨d, hd, creates, rfl⟩ | ⟨q, hq, reference_eq⟩
    · exact absurd pair_eq.symm (ne_of_undeclared needs.nestable.undeclared hd creates)
    · have types : q.pair = (source, target) :=
        (congrArg NestedMapping.pair reference_eq).symm.trans pair_eq
      obtain ⟨source_eq, target_eq⟩ := Prod.mk.inj types
      rcases MappingPlan.mem_nodes_iff_embedded.mp hq with rfl | embeds
      · obtain ⟨_, rfl⟩ := tree.root_eq
        exact absurd types.symm other
      · have isPlan := isDerived q embeds
        rw [source_eq, target_eq] at isPlan
        exact ⟨q, hq, isPlan⟩

end BeanMapping.Planner
