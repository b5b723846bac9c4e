import BeanMapping.Planning
import BeanMapping.Proofs.Outcome
import BeanMapping.Proofs.PlanTree

/-!
# Derivations of plans

What the planner does when it succeeds, without its fuel, its events and its rejections: `Planned`
relates the pairs of a method in progress to the properties that are planned for them, by one
constructor for each way in which a pair is settled. Everything that holds of planned trees is proved
by induction on it.

A method is opened before its pairs are planned (`Opens`). A value is converted without a mapping
(`Direct`), by a mapping that is known (`Known`), or by one that has to be derived (`Fresh`).

Results:
* **`planned_of_gives`**: pairs that the planner plans have a derivation;
* `planWith_gives`, `planRoot_gives`: a planned method was opened and its pairs have a derivation.
-/

namespace BeanMapping

namespace Planner

variable {p : Planner} {deeper : Nat} {frames : List Frame} {m : MappingMethod}
  {pair : CorrelatedProperty} {pairs : List CorrelatedProperty} {source target : TypeName}
  {s t u : PlanState}

/-! ## Parts of a derivation -/

/-- The frame of a method. -/
def frameOf (m : MappingMethod) : Frame := ⟨m.sourceType, m.targetType, m.name⟩

/-- The strategy that a method is planned by. -/
def strategyOf (p : Planner) (m : MappingMethod) : CollectionStrategy :=
  m.strategy.getD p.config.collectionStrategy

/-- The reference to the method of a frame. -/
def referenceTo (p : Planner) (f : Frame) : NestedMapping MappingPlan :=
  reference f.method f.source f.target p.contract

/-- The reference to the method that is derived for two types. -/
def derivedReference (p : Planner) (source target : TypeName) : NestedMapping MappingPlan :=
  reference (derivedName source target) source target p.contract

/-- Opening a method gives its pairs: its types are introspected and correlated. -/
def Opens (p : Planner) (m : MappingMethod) (s : PlanState) (pairs : List CorrelatedProperty)
    (t : PlanState) : Prop :=
  ∃ source target u v, (p.introspect m.sourceType).Gives s source u ∧
    (p.introspectTarget m.targetType).Gives u target v ∧
    (p.correlate source target m.options).Gives v pairs t

/-- The values of a pair are converted between these types. -/
structure Wants (p : Planner) (m : MappingMethod) (pair : CorrelatedProperty)
    (source target : TypeName) : Prop where
  source_eq : (conversionTypes pair).1 = source
  target_eq : Resolution.targetType p.types pair.target.name (conversionTypes pair).2
    (m.options.hint? pair.target.name) = .ok target

/-- A conversion without a mapping. -/
inductive Direct (p : Planner) (source target : TypeName) : Option (Conversion MappingPlan) → Prop
  | rule {r : ConversionRule} (h : Resolution.route p.types p.book source target = .rule r) :
      Direct p source target (some (Resolution.ruleConversion r target))
  | generic {r : ConversionRule} (h : Resolution.route p.types p.book source target = .generic r) :
      Direct p source target (some (Resolution.ruleConversion r target))
  | identity (h : Resolution.route p.types p.book source target = .builtin .identity) :
      Direct p source target none
  | builtin {b : Builtin} (h : Resolution.route p.types p.book source target = .builtin b)
      (hb : b ≠ .identity) : Direct p source target (some (.builtin b))

/-- Nothing but a mapping converts, none is declared, and the types are beans. -/
structure Nestable (p : Planner) (source target : TypeName) : Prop where
  route_eq : Resolution.route p.types p.book source target = .ask
  undeclared : p.declaredMapping? source target = none
  source_bean : p.types.isBean source = true
  target_bean : p.types.isBean target = true

/-- A mapping that need not be planned: it is declared, in progress, or was derived before. -/
inductive Known (p : Planner) (frames : List Frame) (derived : List (NestedMapping MappingPlan))
    (source target : TypeName) : NestedMapping MappingPlan → Prop
  | declared {n : NestedMapping MappingPlan}
      (route_eq : Resolution.route p.types p.book source target = .ask)
      (h : p.declaredMapping? source target = some n) : Known p frames derived source target n
  | inProgress {f : Frame} (nestable : p.Nestable source target) (mem : f ∈ frames)
      (source_eq : f.source = source) (target_eq : f.target = target) :
      Known p frames derived source target (p.referenceTo f)
  | again {n : NestedMapping MappingPlan} (nestable : p.Nestable source target) (mem : n ∈ derived)
      (pair_eq : n.pair = (source, target)) : Known p frames derived source target n

/-- A mapping that has to be derived: the types are those of no frame and of no derived method. -/
structure Fresh (p : Planner) (frames : List Frame) (derived : List (NestedMapping MappingPlan))
    (source target : TypeName) : Prop extends p.Nestable source target where
  not_in_progress : (source, target) ∉ frames.map fun f => (f.source, f.target)
  not_derived : (source, target) ∉ derived.map NestedMapping.pair

/-- **The derivation of planned properties** for the pairs of a method, the last of the frames.
Methods may be nested so much deeper. -/
inductive Planned (p : Planner) : (deeper : Nat) → (frames : List Frame) → (m : MappingMethod) →
    List CorrelatedProperty → PlanState → List (PlannedProperty MappingPlan) → PlanState → Prop
  | nil {deeper : Nat} {frames : List Frame} {m : MappingMethod} {s : PlanState} :
      Planned p deeper frames m [] s [] s
  | skip {deeper : Nat} {frames : List Frame} {m : MappingMethod} {pair : CorrelatedProperty}
      {pairs : List CorrelatedProperty} {s t : PlanState} {xs : List (PlannedProperty MappingPlan)}
      (unwritable : pair.action? (p.strategyOf m) false = none)
      (rest : Planned p deeper frames m pairs s xs t) :
      Planned p deeper frames m (pair :: pairs) s xs t
  | direct {deeper : Nat} {frames : List Frame} {m : MappingMethod} {pair : CorrelatedProperty}
      {pairs : List CorrelatedProperty} {s t : PlanState} {xs : List (PlannedProperty MappingPlan)}
      {source target : TypeName} {conversion : Option (Conversion MappingPlan)}
      {action : PropertyAction}
      (wants : p.Wants m pair source target) (direct : p.Direct source target conversion)
      (writes : pair.action? (p.strategyOf m) conversion.isSome = some action)
      (rest : Planned p deeper frames m pairs s xs t) :
      Planned p deeper frames m (pair :: pairs) s
        (⟨pair.source, pair.target, action, conversion⟩ :: xs) t
  | known {deeper : Nat} {frames : List Frame} {m : MappingMethod} {pair : CorrelatedProperty}
      {pairs : List CorrelatedProperty} {s t : PlanState} {xs : List (PlannedProperty MappingPlan)}
      {source target : TypeName} {n : NestedMapping MappingPlan} {action : PropertyAction}
      (wants : p.Wants m pair source target) (known : p.Known frames s.derived source target n)
      (writes : pair.action? (p.strategyOf m) true = some action)
      (rest : Planned p deeper frames m pairs s xs t) :
      Planned p deeper frames m (pair :: pairs) s
        (⟨pair.source, pair.target, action, some (.nested n)⟩ :: xs) t
  | fresh {deeper : Nat} {frames : List Frame} {m : MappingMethod} {pair : CorrelatedProperty}
      {pairs inner : List CorrelatedProperty} {s t u v : PlanState}
      {xs ys : List (PlannedProperty MappingPlan)} {source target : TypeName}
      {action : PropertyAction}
      (wants : p.Wants m pair source target) (fresh : p.Fresh frames s.derived source target)
      (writes : pair.action? (p.strategyOf m) true = some action)
      (opens : p.Opens (p.derivedMethod source target) s inner u)
      (planned : Planned p deeper (frames ++ [frameOf (p.derivedMethod source target)])
        (p.derivedMethod source target) inner u ys v)
      (rest : Planned p (deeper + 1) frames m pairs
        { v with derived := v.derived ++ [p.derivedReference source target] } xs t) :
      Planned p (deeper + 1) frames m (pair :: pairs) s
        (⟨pair.source, pair.target, action, some (.nested { p.derivedReference source target with
          plan := some (planOf (p.derivedMethod source target) ys) })⟩ :: xs) t

/-! ## The steps of the planner -/

theorem derived_of_introspect {shape : BeanShape} {a : TypeName}
    (h : (p.introspect a).Gives s shape t) : t.derived = s.derived := by
  unfold introspect at h
  simp only [Narrated.gives_bind_iff, Narrated.gives_get_iff, Narrated.gives_tell_iff,
    Narrated.gives_modify_iff, Narrated.gives_ofExcept_iff] at h
  obtain ⟨_, _, ⟨rfl, rfl⟩, _, _, rfl, _, _, rfl, -, rfl⟩ := h
  rfl

/-- Opening a method derives nothing. -/
theorem Opens.derived_eq (h : p.Opens m s pairs t) : t.derived = s.derived := by
  obtain ⟨source, target, u, v, hs, ht, hc⟩ := h
  unfold introspectTarget at ht
  unfold correlate at hc
  simp only [Narrated.gives_bind_iff, Narrated.gives_tell_iff, Narrated.gives_ofExcept_iff] at ht hc
  obtain ⟨shape, w, hw, -, rfl⟩ := ht
  obtain ⟨_, _, rfl, -, rfl⟩ := hc
  rw [derived_of_introspect hw, derived_of_introspect hs]

/-- Whether a pair can be written does not depend on whether its values are converted. -/
theorem action?_eq_none_iff {strategy : CollectionStrategy} (b b' : Bool) :
    pair.action? strategy b = none ↔ pair.action? strategy b' = none := by
  unfold CorrelatedProperty.action?
  by_cases hc : pair.isCollectionPair = true
  · rw [if_pos hc, if_pos hc]
  · rw [if_neg hc, if_neg hc]
    by_cases hs : pair.target.hasSetter = true
    · rw [if_pos hs, if_pos hs]
      exact ⟨fun h => absurd h (by simp), fun h => absurd h (by simp)⟩
    · rw [if_neg hs, if_neg hs]

/-- What following a route gives: a conversion without a mapping, or the mapping that is asked for. -/
theorem follow_gives {nested : TypeName → TypeName → Plans (Option (NestedMapping MappingPlan))}
    {property : String} {conversion : Option (Conversion MappingPlan)}
    (h : (Resolution.follow nested property source target
      (Resolution.route p.types p.book source target)).Gives s conversion t) :
    (p.Direct source target conversion ∧ s = t) ∨
      ∃ n, Resolution.route p.types p.book source target = .ask ∧
        (nested source target).Gives s (some n) t ∧ conversion = some (.nested n) := by
  cases hr : Resolution.route p.types p.book source target with
  | rule r =>
    rw [hr] at h
    obtain ⟨rfl, rfl⟩ := Narrated.gives_pure_iff.mp h
    exact Or.inl ⟨.rule hr, rfl⟩
  | generic r =>
    rw [hr] at h
    obtain ⟨rfl, rfl⟩ := Narrated.gives_pure_iff.mp h
    exact Or.inl ⟨.generic hr, rfl⟩
  | builtin b =>
    rw [hr] at h
    by_cases hb : b = .identity
    · subst hb
      obtain ⟨rfl, rfl⟩ := Narrated.gives_pure_iff.mp h
      exact Or.inl ⟨.identity hr, rfl⟩
    · have hf : Resolution.follow nested property source target (.builtin b) =
          pure (some (.builtin b)) := by
        cases b <;> first | rfl | exact absurd rfl hb
      rw [hf] at h
      obtain ⟨rfl, rfl⟩ := Narrated.gives_pure_iff.mp h
      exact Or.inl ⟨.builtin hr hb, rfl⟩
  | ask =>
    rw [hr] at h
    unfold Resolution.follow at h
    obtain ⟨answer, v, hn, h⟩ := Narrated.gives_bind_iff.mp h
    cases answer with
    | none => exact absurd h Narrated.not_gives_reject
    | some n =>
      simp only [Narrated.gives_bind_iff, Narrated.gives_tell_iff, Narrated.gives_pure_iff] at h
      obtain ⟨_, _, rfl, rfl, rfl⟩ := h
      exact Or.inr ⟨n, rfl, hn, rfl⟩

/-- What planning a pair gives: nothing if it cannot be written, or else a property with the
conversion that was resolved. -/
theorem planPair_gives {nested : TypeName → TypeName → Plans (Option (NestedMapping MappingPlan))}
    {r : Option (PlannedProperty MappingPlan)} (h : (p.planPair nested m pair).Gives s r t) :
    (pair.action? (p.strategyOf m) false = none ∧ r = none ∧ s = t) ∨
      ∃ source target conversion action, p.Wants m pair source target ∧
        (Resolution.follow nested pair.target.name source target
          (Resolution.route p.types p.book source target)).Gives s conversion t ∧
        pair.action? (p.strategyOf m) conversion.isSome = some action ∧
        r = some ⟨pair.source, pair.target, action, conversion⟩ := by
  unfold planPair at h
  obtain ⟨_, _, ht, h⟩ := Narrated.gives_bind_iff.mp h
  obtain rfl := Narrated.gives_tell_iff.mp ht
  cases ha : pair.action? (p.strategyOf m) false with
  | none =>
    unfold strategyOf at ha
    rw [ha] at h
    obtain ⟨rfl, rfl⟩ := Narrated.gives_pure_iff.mp h
    exact Or.inl ⟨rfl, rfl, rfl⟩
  | some first =>
    right
    unfold strategyOf at ha
    rw [ha] at h
    unfold Resolution.resolve at h
    simp only [Narrated.gives_bind_iff, Narrated.gives_within_iff, Narrated.gives_ofExcept_iff,
      Narrated.gives_tell_iff, Narrated.gives_pure_iff] at h
    obtain ⟨conversion, u, ⟨target, _, ⟨ht, rfl⟩, _, _, rfl, hf⟩, _, _, rfl, rfl, rfl⟩ := h
    cases hw : pair.action? (p.strategyOf m) conversion.isSome with
    | none =>
      rw [action?_eq_none_iff _ false] at hw
      exact absurd (ha.symm.trans hw) (by simp)
    | some action =>
      refine ⟨_, target, conversion, action, ⟨rfl, ht⟩, hf, hw, ?_⟩
      unfold strategyOf at hw
      rw [hw]
      rfl

/-- What the search for a mapping gives, where only a mapping converts: one that is known, or one that
the supplier plans. -/
theorem nestedMapping_gives {supply : Supplier} {n : NestedMapping MappingPlan}
    (hr : Resolution.route p.types p.book source target = .ask)
    (h : (p.nestedMapping supply frames source target).Gives s (some n) t) :
    (p.Known frames s.derived source target n ∧ s = t) ∨
      ∃ plan u, p.Fresh frames s.derived source target ∧
        (supply frames (p.derivedMethod source target)).Gives s (some plan) u ∧
        n = { p.derivedReference source target with plan := some plan } ∧
        t = { u with derived := u.derived ++ [p.derivedReference source target] } := by
  unfold nestedMapping at h
  cases hd : p.declaredMapping? source target with
  | some d =>
    rw [hd] at h
    obtain ⟨hn, rfl⟩ := Narrated.gives_pure_iff.mp h
    exact Or.inl ⟨.declared hr (hd.trans hn), rfl⟩
  | none =>
    rw [hd] at h
    by_cases hb : (!p.types.isBean source || !p.types.isBean target) = true
    · simp only [if_pos hb, Narrated.gives_pure_iff] at h
      exact absurd h.1 (by simp)
    · simp only [if_neg hb] at h
      simp only [Bool.or_eq_true, Bool.not_eq_true', not_or, Bool.not_eq_false] at hb
      have nestable : p.Nestable source target := ⟨hr, hd, hb.1, hb.2⟩
      cases hf : frames.find? fun f => f.source == source && f.target == target with
      | some f =>
        simp only [hf, Narrated.gives_bind_iff, Narrated.gives_tell_iff,
          Narrated.gives_pure_iff] at h
        obtain ⟨_, _, rfl, hn, rfl⟩ := h
        have key := List.find?_some hf
        simp only [Bool.and_eq_true, beq_iff_eq] at key
        obtain ⟨rfl, rfl⟩ := key
        obtain rfl := Option.some.inj hn
        exact Or.inl ⟨.inProgress nestable (List.mem_of_find?_eq_some hf) rfl rfl, rfl⟩
      | none =>
        rw [hf] at h
        obtain ⟨_, _, hg, h⟩ := Narrated.gives_bind_iff.mp h
        obtain ⟨rfl, rfl⟩ := Narrated.gives_get_iff.mp hg
        cases hk : s.derived.find? fun d => d.sourceType == source && d.targetType == target with
        | some d =>
          simp only [hk, Narrated.gives_bind_iff, Narrated.gives_tell_iff,
            Narrated.gives_pure_iff] at h
          obtain ⟨_, _, rfl, hn, rfl⟩ := h
          have key := List.find?_some hk
          simp only [Bool.and_eq_true, beq_iff_eq] at key
          obtain rfl := Option.some.inj hn
          exact Or.inl ⟨.again nestable (List.mem_of_find?_eq_some hk)
            (Prod.ext key.1 key.2), rfl⟩
        | none =>
          rw [hk] at h
          obtain ⟨answer, u, hs, h⟩ := Narrated.gives_bind_iff.mp h
          cases answer with
          | none =>
            exact absurd (Narrated.gives_pure_iff.mp h).1 (by simp)
          | some plan =>
            simp only [Narrated.gives_bind_iff, Narrated.gives_modify_iff,
              Narrated.gives_pure_iff] at h
            obtain ⟨_, _, rfl, hn, rfl⟩ := h
            refine Or.inr ⟨plan, u, ⟨nestable, ?_, ?_⟩, hs, (Option.some.inj hn).symm, rfl⟩
            · simpa using hf
            · simpa [NestedMapping.pair] using hk

theorem planWith_gives {supply : Supplier} {plan : MappingPlan}
    (h : (p.planWith supply frames m).Gives s plan t) :
    ∃ pairs u xs, p.Opens m s pairs u ∧
      (p.planPairs (p.nestedMapping supply (frames ++ [frameOf m])) m pairs).Gives u xs t ∧
      plan = planOf m xs := by
  unfold planWith at h
  simp only [Narrated.gives_bind_iff, Narrated.gives_tell_iff, Narrated.gives_pure_iff] at h
  obtain ⟨source, a, hs, target, b, ht, pairs, u, hc, xs, _, hx, _, _, rfl, rfl, rfl⟩ := h
  exact ⟨pairs, u, xs, ⟨source, target, a, b, hs, ht, hc⟩, hx, rfl⟩

/-- A derived plan is supplied only where methods may be nested deeper. -/
theorem derive_gives {plan : MappingPlan} (h : (p.derive deeper frames m).Gives s (some plan) t) :
    ∃ less, deeper = less + 1 ∧ (p.planWith (p.derive less) frames m).Gives s plan t := by
  cases deeper with
  | zero =>
    unfold derive at h
    simp only [Narrated.gives_bind_iff, Narrated.gives_tell_iff, Narrated.gives_pure_iff] at h
    obtain ⟨_, _, rfl, hn, -⟩ := h
    exact absurd hn (by simp)
  | succ less =>
    unfold derive at h
    simp only [Narrated.gives_within_iff, Narrated.gives_map_iff, Option.some.injEq] at h
    obtain ⟨_, h, rfl⟩ := h
    exact ⟨less, rfl, h⟩

theorem planPairs_cons_gives
    {nested : TypeName → TypeName → Plans (Option (NestedMapping MappingPlan))}
    {xs : List (PlannedProperty MappingPlan)}
    (h : (p.planPairs nested m (pair :: pairs)).Gives s xs t) :
    ∃ r u ys, (p.planPair nested m pair).Gives s r u ∧
      (p.planPairs nested m pairs).Gives u ys t ∧ xs = r.toList ++ ys := by
  rw [planPairs] at h
  simp only [Narrated.gives_bind_iff, Narrated.gives_pure_iff] at h
  obtain ⟨r, u, hr, ys, _, hy, rfl, rfl⟩ := h
  exact ⟨r, u, ys, hr, hy, rfl⟩

/-- **What the planner plans has a derivation**: by induction on how much deeper methods may be
nested, and then on the pairs. -/
theorem planned_of_gives :
    ∀ {deeper : Nat} {frames : List Frame} {m : MappingMethod} {pairs : List CorrelatedProperty}
      {s t : PlanState} {xs : List (PlannedProperty MappingPlan)},
      (p.planPairs (p.nestedMapping (p.derive deeper) frames) m pairs).Gives s xs t →
        p.Planned deeper frames m pairs s xs t
  | deeper, frames, m, [], s, t, xs, h => by
    rw [planPairs] at h
    obtain ⟨rfl, rfl⟩ := Narrated.gives_pure_iff.mp h
    exact .nil
  | deeper, frames, m, pair :: pairs, s, t, xs, h => by
    obtain ⟨r, u, ys, hr, hy, rfl⟩ := planPairs_cons_gives h
    have rest := planned_of_gives hy
    rcases planPair_gives hr with ⟨unwritable, rfl, rfl⟩ |
      ⟨source, target, conversion, action, wants, hf, writes, rfl⟩
    · exact .skip unwritable rest
    · rcases follow_gives hf with ⟨direct, rfl⟩ | ⟨n, ask, hn, rfl⟩
      · exact .direct wants direct writes rest
      · rcases nestedMapping_gives ask hn with ⟨known, rfl⟩ | ⟨plan, v, fresh, hs, rfl, rfl⟩
        · exact .known wants known writes rest
        · obtain ⟨less, rfl, hplan⟩ := derive_gives hs
          obtain ⟨inner, w, zs, opens, hz, rfl⟩ := planWith_gives hplan
          exact .fresh wants fresh writes opens (planned_of_gives hz) rest
termination_by deeper _ _ pairs => (deeper, pairs.length)

/-- A planned root method was opened, and its pairs have a derivation. -/
theorem planRoot_gives {plan : MappingPlan} (h : (p.planRoot m).Gives s plan t) :
    ∃ pairs u xs, p.Opens m s pairs u ∧
      p.Planned (p.config.maxNestingDepth - 1) [frameOf m] m pairs u xs t ∧ plan = planOf m xs := by
  obtain ⟨pairs, u, xs, opens, hx, rfl⟩ := planWith_gives h
  exact ⟨pairs, u, xs, opens, planned_of_gives hx, rfl⟩

end Planner

end BeanMapping
