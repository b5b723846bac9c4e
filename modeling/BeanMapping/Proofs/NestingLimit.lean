import BeanMapping.Proofs.ReachedMethods

/-!
# When a method is accepted

A generator accepts a root exactly when each method that the root reaches is acceptable by itself
(`Acceptable`): its types correlate, each pair that can be written has a conversion (`Plannable`), and what
may fail is declared. Only the limit for nested methods can come in between. It depends on the path by which a method
is found first, but no path is longer than there are methods to reach: the methods in progress are for
different types.

Results:
* **`Planner.PlannedTree.plannable`**, **`Planner.planRoot_proceeds`**: a root is planned where all that it
  reaches can be planned, unless it meets a limit that is less than the number of methods;
* **`Generator.acceptable_of_gives`**, **`Generator.plan_unless`**: what a generator accepts.
-/

namespace BeanMapping

open Narrated

namespace Planner

variable {p : Planner} {shapes : ShapeView} {deeper : Nat} {frames : List Frame}
  {m root : MappingMethod} {pair : CorrelatedProperty} {pairs : List CorrelatedProperty}
  {supply : Supplier} {nested : TypeName → TypeName → Plans (Option (NestedMapping MappingPlan))}
  {types : List (TypeName × TypeName)} {source target : TypeName} {L : Event → Prop} {α β : Type}

/-! ## Acceptable methods -/

/-- The types of a method correlate, and each pair that can be written can be settled by a property of
`P`. -/
def SettledBy (p : Planner) (shapes : ShapeView) (m : MappingMethod)
    (P : PlannedProperty MappingPlan → Prop) : Prop :=
  ∃ pairs, p.OpensOver shapes m pairs ∧ ∀ pair ∈ pairs, pair.action? (p.strategyOf m) false ≠ none →
    ∃ x, p.Settles m pair x ∧ P x

/-- A method can be planned by itself. -/
def Plannable (p : Planner) (shapes : ShapeView) (m : MappingMethod) : Prop :=
  p.SettledBy shapes m fun _ => True

/-- **A method is acceptable by itself**: it can be planned, and what may fail then is unchecked or covered
by the failures that the method declares. -/
def Acceptable (p : Planner) (shapes : ShapeView) (m : MappingMethod) : Prop :=
  p.SettledBy shapes m fun x => ∀ i ∈ x.invocations, ∀ f ∈ i.failures,
    Contract.Unchecked p.types f ∨ Contract.Covered p.types f m.declaredFailures

theorem SettledBy.plannable {P : PlannedProperty MappingPlan → Prop} (h : p.SettledBy shapes m P) :
    p.Plannable shapes m := by
  obtain ⟨pairs, opens, settled⟩ := h
  refine ⟨pairs, opens, fun pair mem writable => ?_⟩
  obtain ⟨x, settles, -⟩ := settled pair mem writable
  exact ⟨x, settles, trivial⟩

/-- A method is settled by the properties of its plan. -/
theorem IsPlanOf.settledBy {q : MappingPlan} {P : PlannedProperty MappingPlan → Prop}
    (h : p.IsPlanOf shapes m q) (all : ∀ x ∈ q.properties, P x) : p.SettledBy shapes m P := by
  obtain ⟨pairs, xs, opens, fulfils, rfl⟩ := h
  refine ⟨pairs, opens, fun pair mem writable => ?_⟩
  obtain ⟨x, hx, settles⟩ := fulfils.settles pair mem writable
  exact ⟨x, settles, all x hx⟩

/-- A plan that honours its declarations is one of an acceptable method. -/
theorem IsPlanOf.acceptable {q : MappingPlan} (h : p.IsPlanOf shapes m q)
    (honours : Contract.Honours p.types q) : p.Acceptable shapes m := by
  have declared_eq : q.declaredFailures = m.declaredFailures := by
    obtain ⟨_, _, -, -, rfl⟩ := h
    rfl
  unfold Contract.Honours at honours
  rw [declared_eq] at honours
  exact h.settledBy honours

/-- The plan of an acceptable method honours its declarations. -/
theorem IsPlanOf.honours {q : MappingPlan} (h : p.IsPlanOf shapes m q)
    (acceptable : p.Acceptable shapes m) : Contract.Honours p.types q := by
  obtain ⟨pairs, xs, opens, fulfils, rfl⟩ := h
  obtain ⟨_, opens', accepts⟩ := acceptable
  obtain rfl := opens.unique opens'
  intro x hx i hi f hf
  obtain ⟨pair, mem, settles⟩ := fulfils.settled x hx
  have writable : pair.action? (p.strategyOf m) false ≠ none := by
    rw [Ne, action?_eq_none_iff false x.conversion.isSome, settles.writes]
    exact Option.some_ne_none _
  obtain ⟨y, settles', met⟩ := accepts pair mem writable
  have same := settles.failures_eq settles'
  have raised : i.failures ∈ y.invocations.map Invocation.failures := same ▸ List.mem_map_of_mem hi
  obtain ⟨j, hj, failures_eq⟩ := List.mem_map.mp raised
  exact met j hj f (failures_eq ▸ hf)

/-! ## Progress -/

/-- From each state of the view the computation succeeds with a result of `Q` and leaves the view as it is,
unless it tells something of `L`. -/
def Proceeds (p : Planner) (shapes : ShapeView) (L : Event → Prop) (x : Plans α) (Q : α → Prop) : Prop :=
  ∀ s, p.view s = shapes → x.GivesUnless s (fun a t => Q a ∧ p.view t = shapes) L

theorem proceeds_pure {a : α} {Q : α → Prop} (h : Q a) : p.Proceeds shapes L (pure a) Q :=
  fun _ view => (gives_pure_iff.mpr ⟨rfl, rfl⟩).unless ⟨h, view⟩

theorem proceeds_pure_some (a : α) : p.Proceeds shapes L (pure (some a)) (· ≠ none) :=
  proceeds_pure (Option.some_ne_none a)

theorem Proceeds.bind {x : Plans α} {f : α → Plans β} {Q : α → Prop} {R : β → Prop}
    (h : p.Proceeds shapes L x Q) (hf : ∀ a, Q a → p.Proceeds shapes L (f a) R) :
    p.Proceeds shapes L (x >>= f) R :=
  fun s view => (h s view).bind fun a t ⟨ha, view⟩ => hf a ha t view

theorem proceeds_tell_bind {told : List Event} {x : Plans α} {Q : α → Prop}
    (h : p.Proceeds shapes L x Q) : p.Proceeds shapes L (Narrated.tell told >>= fun _ => x) Q :=
  fun s view => (gives_tell told s).bind_unless (h s view)

/-- A mapping converts between the types: it is declared, or it can be derived. -/
def Mappable (p : Planner) (source target : TypeName) : Prop :=
  p.declaredMapping? source target ≠ none ∨ p.Nestable source target

/-- A route can be followed where the types convert, as far as it does not ask for a mapping. -/
theorem follow_proceeds {property : String} {c : Option (Conversion MappingPlan)}
    (converts : p.Converts source target c)
    (asked : p.Mappable source target → p.Proceeds shapes L (nested source target) (· ≠ none)) :
    p.Proceeds shapes L (Resolution.follow nested property source target
      (Resolution.route p.types p.book source target)) fun _ => True := by
  cases hr : Resolution.route p.types p.book source target with
  | rule | generic => exact proceeds_pure trivial
  | builtin b => cases b <;> exact proceeds_pure trivial
  | ask =>
    have mappable : p.Mappable source target := by
      cases converts with
      | direct h => exact absurd hr h.route_ne_ask
      | declared _ h => exact Or.inl (by rw [h]; exact Option.some_ne_none _)
      | supplied nestable => exact Or.inr nestable
    refine (asked mappable).bind fun answer found => ?_
    cases answer with
    | none => exact absurd rfl found
    | some n => exact proceeds_tell_bind (proceeds_pure trivial)

theorem planPair_proceeds
    (settled : pair.action? (p.strategyOf m) false ≠ none → ∃ x, p.Settles m pair x)
    (asked : ∀ source target, pair.action? (p.strategyOf m) false ≠ none → p.Wants m pair source target →
      p.Mappable source target → p.Proceeds shapes L (nested source target) (· ≠ none)) :
    p.Proceeds shapes L (p.planPair nested m pair) fun _ => True := by
  unfold planPair
  refine proceeds_tell_bind ?_
  cases writes : pair.action? (m.strategy.getD p.config.collectionStrategy) false with
  | none => exact proceeds_pure trivial
  | some action =>
    have writable : pair.action? (p.strategyOf m) false ≠ none := by
      unfold strategyOf
      rw [writes]
      exact Option.some_ne_none _
    obtain ⟨x, settles⟩ := settled writable
    obtain ⟨source, target, wants, converts, -⟩ := settles.resolves
    have resolves : p.Proceeds shapes L (Narrated.within ("Property: " ++ pair.target.name)
        (Resolution.resolve p.types p.book nested pair.target.name (conversionTypes pair).1
          (conversionTypes pair).2 (m.options.hint? pair.target.name))) fun _ => True := by
      intro s view
      refine GivesUnless.within ?_ _
      unfold Resolution.resolve
      rw [wants.source_eq]
      refine (gives_ofExcept_iff.mpr ⟨wants.target_eq, rfl⟩).bind_unless ?_
      exact proceeds_tell_bind (follow_proceeds converts (asked source target writable wants)) s view
    exact resolves.bind fun _ _ => proceeds_tell_bind (proceeds_pure trivial)

theorem planPairs_proceeds :
    ∀ pairs : List CorrelatedProperty,
      (∀ pair ∈ pairs, pair.action? (p.strategyOf m) false ≠ none → ∃ x, p.Settles m pair x) →
      (∀ pair ∈ pairs, ∀ source target, pair.action? (p.strategyOf m) false ≠ none →
        p.Wants m pair source target → p.Mappable source target →
        p.Proceeds shapes L (nested source target) (· ≠ none)) →
      p.Proceeds shapes L (p.planPairs nested m pairs) fun _ => True
  | [], _, _ => proceeds_pure trivial
  | pair :: rest, settled, asked => by
    obtain ⟨first, settledRest⟩ := List.forall_mem_cons.mp settled
    obtain ⟨askedFirst, askedRest⟩ := List.forall_mem_cons.mp asked
    unfold planPairs
    refine (planPair_proceeds first askedFirst).bind fun _ _ => ?_
    exact (planPairs_proceeds rest settledRest askedRest).bind fun _ _ => proceeds_pure trivial

/-- A mapping is found where there is one, as far as the supplier has to be asked for it: for types of
which no method is in progress. -/
theorem nestedMapping_proceeds (mappable : p.Mappable source target)
    (supplied : p.Nestable source target → (source, target) ∉ frames.map Frame.pair →
      p.Proceeds shapes L (supply frames (p.derivedMethod source target)) (· ≠ none)) :
    p.Proceeds shapes L (p.nestedMapping supply frames source target) (· ≠ none) := by
  unfold nestedMapping
  split
  · exact proceeds_pure_some _
  · rename_i undeclared
    have nestable : p.Nestable source target := mappable.resolve_left fun h => h undeclared
    rw [nestable.source_bean, nestable.target_bean]
    simp only [Bool.not_true, Bool.or_self, Bool.false_eq_true, if_false]
    split
    · exact proceeds_tell_bind (proceeds_pure_some _)
    · rename_i notInProgress
      have free : (source, target) ∉ frames.map Frame.pair := by
        simpa [Frame.pair] using notInProgress
      intro s view
      refine (gives_get s).bind_unless ?_
      split
      · exact proceeds_tell_bind (proceeds_pure_some _) s view
      · refine (supplied nestable free).bind (fun answer found => ?_) s view
        cases answer with
        | none => exact absurd rfl found
        | some plan =>
          intro s view
          refine (gives_modify _ s).bind_unless ?_
          exact proceeds_pure_some _ _ view

/-- A method that is opened over the view can be opened. -/
theorem introspect_proceeds {a : TypeName} {shape : BeanShape} (h : shapes a = .ok shape) :
    p.Proceeds shapes L (p.introspect a) (· = shape) := by
  rintro s rfl
  have gives := introspect_gives_iff.mpr ⟨h, rfl⟩
  exact gives.unless ⟨rfl, view_of_introspect gives⟩

theorem planWith_proceeds (opens : p.OpensOver shapes m pairs)
    (settled : ∀ pair ∈ pairs, pair.action? (p.strategyOf m) false ≠ none → ∃ x, p.Settles m pair x)
    (supplied : ∀ source target, p.Needs shapes m source target →
      (source, target) ∉ (frames ++ [frameOf m]).map Frame.pair →
      p.Proceeds shapes L (supply (frames ++ [frameOf m]) (p.derivedMethod source target)) (· ≠ none)) :
    p.Proceeds shapes L (p.planWith supply frames m) fun _ => True := by
  have all := opens
  obtain ⟨source, target, hs, ht, writable, correlated⟩ := opens
  have introspectTarget : p.Proceeds shapes L (p.introspectTarget m.targetType) (· = target) := by
    unfold introspectTarget
    refine (introspect_proceeds ht).bind fun shape same => ?_
    subst same
    exact fun s view => (gives_ofExcept_iff.mpr ⟨writable, rfl⟩).unless ⟨rfl, view⟩
  have correlate : p.Proceeds shapes L (p.correlate source target m.options) (· = pairs) := by
    unfold correlate
    refine proceeds_tell_bind fun s view => ?_
    exact (gives_ofExcept_iff.mpr ⟨correlated, rfl⟩).unless ⟨rfl, view⟩
  unfold planWith
  refine (introspect_proceeds hs).bind fun _ same => ?_
  subst same
  refine introspectTarget.bind fun _ same => ?_
  subst same
  refine correlate.bind fun _ same => ?_
  subst same
  refine Proceeds.bind (planPairs_proceeds _ settled fun pair mem a b writable wants mappable => ?_)
    fun xs _ => proceeds_tell_bind (proceeds_pure trivial)
  refine nestedMapping_proceeds mappable fun nestable free => ?_
  exact supplied a b ⟨nestable, _, all, pair, mem, writable, wants⟩ free

/-! ## The limit -/

/-- The event of a limit that is less than a number. -/
def LimitBelow (p : Planner) (count : Nat) (e : Event) : Prop :=
  p.config.maxNestingDepth < count ∧ ∃ m, e = p.limitEvent m

/-- The methods in progress below a root: they are for different types of the given ones. -/
structure Path (root : MappingMethod) (types : List (TypeName × TypeName)) (frames : List Frame) :
    Prop where
  nodup : (frames.map Frame.pair).Nodup
  subset : frames.map Frame.pair ⊆ types
  root_mem : (frameOf root).pair ∈ frames.map Frame.pair

theorem Path.length_le (h : Path root types frames) : frames.length ≤ types.length := by
  have le := (List.subperm_of_subset h.nodup h.subset).length_le
  rwa [List.length_map] at le

theorem Path.snoc (h : Path root types frames) (mem : (frameOf m).pair ∈ types)
    (free : (frameOf m).pair ∉ frames.map Frame.pair) : Path root types (frames ++ [frameOf m]) := by
  have pairs_eq : (frames ++ [frameOf m]).map Frame.pair = frames.map Frame.pair ++ [(frameOf m).pair] :=
    List.map_append
  refine ⟨?_, ?_, ?_⟩ <;> rw [pairs_eq]
  · exact (List.perm_append_singleton _ _).nodup_iff.mpr (List.nodup_cons.mpr ⟨free, h.nodup⟩)
  · exact List.append_subset.mpr ⟨h.subset, List.cons_subset.mpr ⟨mem, List.nil_subset _⟩⟩
  · exact List.mem_append_left _ h.root_mem

section Limit

variable (plannable : ∀ m, p.Reaches shapes root m → p.Plannable shapes m)
  (bounded : ∀ m, p.Reaches shapes root m → (frameOf m).pair ∈ types)
include plannable bounded

/-- What a reached method needs is reached, and is planned below it unless the supplier meets a limit. -/
theorem planWith_proceeds_of_reaches (reached : p.Reaches shapes root m)
    (path : Path root types (frames ++ [frameOf m]))
    (supplied : ∀ m', p.Reaches shapes root m' → Path root types (frames ++ [frameOf m] ++ [frameOf m']) →
      p.Proceeds shapes L (supply (frames ++ [frameOf m]) m') (· ≠ none)) :
    p.Proceeds shapes L (p.planWith supply frames m) fun _ => True := by
  obtain ⟨pairs, opens, settled⟩ := plannable m reached
  refine planWith_proceeds opens (fun pair mem writable => ?_) fun source target needs free => ?_
  · obtain ⟨x, settles, -⟩ := settled pair mem writable
    exact ⟨x, settles⟩
  · have other : (source, target) ≠ (frameOf root).pair := fun same => free (same ▸ path.root_mem)
    have needed := Reaches.needed reached needs other
    exact supplied _ needed (path.snoc (bounded _ needed) free)

/-- **A reached method is derived, unless a limit is met that is less than the number of methods**: by
induction on how much deeper methods may be nested. -/
theorem derive_proceeds : ∀ (deeper : Nat) (frames : List Frame) (m : MappingMethod),
    p.config.maxNestingDepth ≤ deeper + frames.length → p.Reaches shapes root m →
      Path root types (frames ++ [frameOf m]) →
      p.Proceeds shapes (p.LimitBelow types.length) (p.derive deeper frames m) (· ≠ none)
  | 0, frames, m, room, _, path => by
    -- The methods in progress and the one to derive are for different types, so the limit is less.
    intro s _
    have le := path.length_le
    rw [List.length_append, List.length_singleton] at le
    refine Or.inr ⟨p.limitEvent m, ?_, by omega, m, rfl⟩
    unfold derive
    exact told_bind_of_left _ List.mem_cons_self
  | deeper + 1, frames, m, room, reached, path => by
    have planned : p.Proceeds shapes (p.LimitBelow types.length) (p.planWith (p.derive deeper) frames m)
        fun _ => True := by
      refine planWith_proceeds_of_reaches plannable bounded reached path fun m' reached' path' => ?_
      refine derive_proceeds deeper _ m' ?_ reached' path'
      rw [List.length_append, List.length_singleton]
      omega
    intro s view
    unfold derive
    refine GivesUnless.within (GivesUnless.map (planned s view) fun plan t kept => ?_) _
    exact ⟨Option.some_ne_none _, kept.2⟩

/-- **A root is planned, unless a limit is met that is less than the number of methods that it
reaches.** -/
theorem planRoot_proceeds :
    p.Proceeds shapes (p.LimitBelow types.length) (p.planRoot root) fun _ => True := by
  have path : Path root types ([] ++ [frameOf root]) :=
    ⟨List.nodup_singleton _, List.cons_subset.mpr ⟨bounded root .root, List.nil_subset _⟩, List.mem_cons_self⟩
  refine planWith_proceeds_of_reaches plannable bounded .root path fun m reached path => ?_
  refine derive_proceeds plannable bounded _ _ m ?_ reached path
  show _ ≤ _ - 1 + 1
  omega

end Limit

/-- **Of a planned root everything that it reaches can be planned**, and has a plan in its tree. -/
theorem PlannedTree.plannable {s t : PlanState} {plan : MappingPlan} (tree : p.PlannedTree root plan)
    (nothing : s.derived = []) (h : (p.planRoot root).Gives s plan t)
    (reached : p.Reaches (p.view s) root m) :
    p.Plannable (p.view s) m ∧ (frameOf m).pair ∈ plan.nodes.map MappingPlan.pair := by
  obtain ⟨q, mem, isPlan⟩ := exists_plan_of_reaches tree nothing h reached
  exact ⟨isPlan.settledBy fun _ _ => trivial, List.mem_map.mpr ⟨q, mem, isPlan.pair_eq⟩⟩

end Planner

/-! ## Generators -/

namespace Generator

variable {g : Generator} {declared : List MappingMethod} {m : MappingMethod} {v : VerifiedPlan}
  {s t : ShapeCache} {types : List (TypeName × TypeName)}

/-- **Of an accepted method everything that it reaches is acceptable**, and has a plan in its tree. -/
theorem acceptable_of_gives (h : (g.plan declared m).Gives s v t) {m' : MappingMethod}
    (reached : (g.planner declared m).Reaches (g.view s) m m') :
    (g.planner declared m).Acceptable (g.view s) m' ∧
      (Planner.frameOf m').pair ∈ v.plan.nodes.map MappingPlan.pair := by
  obtain ⟨w, planned, verified⟩ := plan_gives h
  have tree := Planner.plannedTree_of_gives rfl planned
  obtain ⟨q, mem, isPlan⟩ := Planner.exists_plan_of_reaches tree rfl planned reached
  exact ⟨isPlan.acceptable (verified.honours q mem), List.mem_map.mpr ⟨q, mem, isPlan.pair_eq⟩⟩

/-- **A method is accepted where everything that it reaches is acceptable**, unless a limit is met that is
less than the number of methods that it reaches. -/
theorem plan_unless
    (acceptable : ∀ m', (g.planner declared m).Reaches (g.view s) m m' →
      (g.planner declared m).Acceptable (g.view s) m')
    (bounded : ∀ m', (g.planner declared m).Reaches (g.view s) m m' → (Planner.frameOf m').pair ∈ types) :
    (g.plan declared m).GivesUnless s (fun _ _ => True)
      ((g.planner declared m).LimitBelow types.length) := by
  have planned := Planner.planRoot_proceeds (fun m' reached => (acceptable m' reached).plannable) bounded
    ⟨s, []⟩ rfl
  have focused := (GivesUnless.focus planned : (Narrated.focus (fun shapes => ⟨shapes, []⟩)
    (fun s _ => s.shapes) ((g.planner declared m).planRoot m)).GivesUnless s _ _)
  unfold plan
  refine (focused.within _).bind fun plan _ made => ?_
  obtain ⟨w, gives, -⟩ := made
  have honours : ∀ q ∈ plan.nodes, Contract.Honours g.types q := by
    intro q mem
    obtain ⟨m', reached, isPlan⟩ := Planner.exists_reached_of_mem rfl gives q mem
    exact isPlan.honours (acceptable m' reached)
  rcases Contract.verify_cases g.types m.name plan _ with ⟨v, verified, -⟩ | ⟨o, unmet, -⟩
  · exact verified.unless trivial
  · exact absurd (Contract.forall_obligations_iff.mpr honours) unmet.not_forall_met

end Generator

end BeanMapping
