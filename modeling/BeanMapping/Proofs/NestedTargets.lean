import BeanMapping.Proofs.Conversions
import BeanMapping.Proofs.MethodNames

/-!
# Methods that nested conversions call

A nested conversion hands over a source and takes a new value, so the method that it calls has to create
its target. A declared method is taken only if it does, and a derived method always does. A root is
called for its own types as well, whether it creates its target or updates one.

What is called for two types has a name that depends on the types alone (`Planner.calleeName`): that of
the first declared method for them that creates, of the root for its own types, or of the derived method.

Results:
* **`PlannedTree.method_eq_calleeName`**: every reference of a planned tree has that name;
* **`references_create_iff`**: the references of an accepted tree are to methods that create their target
  exactly when no method that updates has a name that is called; where names tell these methods from
  those that create, exactly when the tree does not come back to a root that updates;
* `references_do_not_create`: a node that is updated, and leads to a node.
-/

namespace BeanMapping

namespace MappingPlan

/-- A method of the name writes into a value that its caller hands in: a declared one, or that of a plan
of the tree. -/
def Updates (declared : List MappingMethod) (p : MappingPlan) (name : String) : Prop :=
  (∃ d ∈ declared, d.updatesTarget = true ∧ d.name = name) ∨
    ∃ q ∈ p.nodes, q.updatesTarget = true ∧ q.method = name

instance (declared : List MappingMethod) (p : MappingPlan) (name : String) :
    Decidable (p.Updates declared name) :=
  inferInstanceAs (Decidable ((∃ d ∈ declared, d.updatesTarget = true ∧ d.name = name) ∨
    ∃ q ∈ p.nodes, q.updatesTarget = true ∧ q.method = name))

/-- **The references of a tree are to methods that create their target.** -/
def ReferencesCreate (declared : List MappingMethod) (p : MappingPlan) : Prop :=
  ∀ q ∈ p.nodes, ∀ n ∈ q.references, ¬ p.Updates declared n.method

instance (declared : List MappingMethod) (p : MappingPlan) : Decidable (p.ReferencesCreate declared) :=
  inferInstanceAs (Decidable (∀ q ∈ p.nodes, ∀ n ∈ q.references, ¬ p.Updates declared n.method))

/-- The types that the plans of a tree convert by mapping methods. -/
def needed (p : MappingPlan) : List (TypeName × TypeName) :=
  (p.nodes.flatMap references).map NestedMapping.pair

theorem mem_needed_iff {p : MappingPlan} {a : TypeName × TypeName} :
    a ∈ p.needed ↔ ∃ q ∈ p.nodes, ∃ n ∈ q.references, n.pair = a := by
  unfold needed
  rw [List.mem_map]
  constructor
  · rintro ⟨n, hn, rfl⟩
    obtain ⟨q, hq, hn⟩ := List.mem_flatMap.mp hn
    exact ⟨q, hq, n, hn, rfl⟩
  · rintro ⟨q, hq, n, hn, rfl⟩
    exact ⟨n, List.mem_flatMap.mpr ⟨q, hq, hn⟩, rfl⟩

end MappingPlan

namespace Planner

variable {p : Planner} {root : MappingMethod} {plan q : MappingPlan} {source target : TypeName}
  {n : NestedMapping MappingPlan}

/-! ## Names of what is called -/

/-- The name of the method that creates a value of the second type from one of the first: that is
declared, or else derived. -/
def creatorName (p : Planner) (source target : TypeName) : String :=
  ((p.declaredMapping? source target).map NestedMapping.method).getD (derivedName source target)

/-- The root is called for two types: they are its own, and no method that creates is declared for
them. -/
def CallsRoot (p : Planner) (root : MappingMethod) (a : TypeName × TypeName) : Prop :=
  a = (root.sourceType, root.targetType) ∧ p.declaredMapping? a.1 a.2 = none

instance (p : Planner) (root : MappingMethod) (a : TypeName × TypeName) :
    Decidable (p.CallsRoot root a) :=
  inferInstanceAs (Decidable (a = (root.sourceType, root.targetType) ∧
    p.declaredMapping? a.1 a.2 = none))

/-- The name of the method that is called for two types. -/
def calleeName (p : Planner) (root : MappingMethod) (a : TypeName × TypeName) : String :=
  if p.CallsRoot root a then root.name else p.creatorName a.1 a.2

theorem creatorName_of_declared (h : p.declaredMapping? source target = some n) :
    p.creatorName source target = n.method := by
  unfold creatorName
  rw [h]
  rfl

theorem creatorName_of_undeclared (h : p.declaredMapping? source target = none) :
    p.creatorName source target = derivedName source target := by
  unfold creatorName
  rw [h]
  rfl

/-- A declared mapping is for the types that it is asked for. -/
theorem pair_of_declaredMapping? (h : p.declaredMapping? source target = some n) :
    n.pair = (source, target) := by
  unfold declaredMapping? at h
  obtain ⟨d, -, rfl⟩ := Option.map_eq_some_iff.mp h
  rfl

/-- Where no mapping is declared, the declared methods for the types update their target. -/
theorem updatesTarget_of_undeclared {d : MappingMethod} (hd : d ∈ p.declared)
    (none : p.declaredMapping? d.sourceType d.targetType = none) : d.updatesTarget = true := by
  unfold declaredMapping? at none
  have unfit := List.find?_eq_none.mp (Option.map_eq_none_iff.mp none) d hd
  unfold MappingMethod.maps at unfit
  simpa using unfit

/-- What a property refers to is what the resolution of some types gives. -/
theorem ConvertedTree.converts_reference (h : p.ConvertedTree root plan) (hq : q ∈ plan.nodes)
    (hn : n ∈ q.references) : ∃ source target, p.Converts source target (some (.nested n)) := by
  obtain ⟨x, hx, asked⟩ := MappingPlan.mem_references_iff.mp hn
  have converted : ∃ m, p.Converted m x := by
    rcases MappingPlan.mem_nodes_iff_embedded.mp hq with rfl | hq
    · exact ⟨_, h.root x hx⟩
    · exact ⟨_, h.derived q hq x hx⟩
  obtain ⟨m, target, -, converts⟩ := converted
  rw [PlannedProperty.nested?_eq_some_iff.mp asked] at converts
  exact ⟨_, target, converts⟩

/-- **A reference is to the declared method that creates, where there is one, or else to a plan of the
tree** for its types. -/
theorem PlannedTree.callee_cases (h : p.PlannedTree root plan) (converted : p.ConvertedTree root plan)
    (hq : q ∈ plan.nodes) (hn : n ∈ q.references) :
    p.declaredMapping? n.sourceType n.targetType = some n ∨
      p.declaredMapping? n.sourceType n.targetType = none ∧
        ∃ c ∈ plan.nodes, n.method = c.method ∧ n.pair = c.pair := by
  obtain ⟨source, target, converts⟩ := converted.converts_reference hq hn
  cases converts with
  | direct direct => cases direct
  | declared _ declared =>
    obtain ⟨rfl, rfl⟩ := Prod.mk.inj (pair_of_declaredMapping? declared)
    exact Or.inl declared
  | supplied nestable pair_eq =>
    obtain ⟨rfl, rfl⟩ := Prod.mk.inj pair_eq
    refine Or.inr ⟨nestable.undeclared, ?_⟩
    rcases h.reference_cases q hq n hn with ⟨d, hd, creates, rfl⟩ | ⟨c, hc, bare⟩
    · -- a declared method that creates would have been found for the types
      rw [updatesTarget_of_undeclared hd nestable.undeclared] at creates
      exact absurd creates Bool.noConfusion
    · exact ⟨c, hc, congrArg NestedMapping.method bare, congrArg NestedMapping.pair bare⟩

/-- **Every reference has the name of what is called for its types.** -/
theorem PlannedTree.method_eq_calleeName (h : p.PlannedTree root plan)
    (converted : p.ConvertedTree root plan) (hq : q ∈ plan.nodes) (hn : n ∈ q.references) :
    n.method = p.calleeName root n.pair := by
  have root_pair : plan.pair = (root.sourceType, root.targetType) := by
    obtain ⟨xs, rfl⟩ := h.root_eq
    rfl
  unfold calleeName
  rcases h.callee_cases converted hq hn with declared | ⟨undeclared, c, hc, method_eq, pair_eq⟩
  · have other : ¬ p.CallsRoot root n.pair := fun own => by
      exact absurd (declared.symm.trans own.2) (by simp)
    rw [if_neg other]
    exact (creatorName_of_declared declared).symm
  · rw [method_eq]
    rcases MappingPlan.mem_nodes_iff_embedded.mp hc with rfl | hc
    · rw [if_pos ⟨pair_eq.trans root_pair, undeclared⟩]
      obtain ⟨xs, rfl⟩ := h.root_eq
      rfl
    · have other : ¬ p.CallsRoot root n.pair := fun own =>
        h.pair_ne hc (pair_eq.symm.trans (own.1.trans root_pair.symm))
      rw [if_neg other, h.method_eq hc, ← pair_eq]
      exact (creatorName_of_undeclared undeclared).symm

/-! ## Methods that update -/

/-- Of the plans of a tree only that of the root may update its target. -/
theorem PlannedTree.updates_iff (h : p.PlannedTree root plan) {name : String} :
    plan.Updates p.declared name ↔
      ∃ m ∈ root :: p.declared, m.updatesTarget = true ∧ m.name = name := by
  have own : (∃ q ∈ plan.nodes, q.updatesTarget = true ∧ q.method = name) ↔
      root.updatesTarget = true ∧ root.name = name := by
    obtain ⟨xs, rfl⟩ := h.root_eq
    refine ⟨?_, fun updates => ⟨_, MappingPlan.mem_nodes_self _, updates⟩⟩
    rintro ⟨q, hq, updates, method_eq⟩
    rcases MappingPlan.mem_nodes_iff_embedded.mp hq with rfl | hq
    · exact ⟨updates, method_eq⟩
    · rw [(h.isDerived q hq).creates] at updates
      exact absurd updates Bool.noConfusion
  unfold MappingPlan.Updates
  rw [own, or_comm]
  simp only [List.mem_cons, or_and_right, exists_or, exists_eq_left]

/-- The references of a tree create exactly when no method that updates has a name that is called. -/
theorem PlannedTree.referencesCreate_iff (h : p.PlannedTree root plan)
    (converted : p.ConvertedTree root plan) :
    plan.ReferencesCreate p.declared ↔
      ∀ a ∈ plan.needed, ∀ m ∈ root :: p.declared, m.updatesTarget = true →
        m.name ≠ p.calleeName root a := by
  constructor
  · intro create a ha m hm updates same
    obtain ⟨q, hq, n, hn, rfl⟩ := MappingPlan.mem_needed_iff.mp ha
    refine create q hq n hn (h.updates_iff.mpr ⟨m, hm, updates, ?_⟩)
    rw [same, h.method_eq_calleeName converted hq hn]
  · intro apart q hq n hn updates
    obtain ⟨m, hm, updates, same⟩ := h.updates_iff.mp updates
    rw [h.method_eq_calleeName converted hq hn] at same
    exact apart n.pair (MappingPlan.mem_needed_iff.mpr ⟨q, hq, n, hn, rfl⟩) m hm updates same

/-- Names tell the methods that update from those that create: from the methods that are declared or
derived for needed types, and from a root that creates. -/
structure TellsUpdating (p : Planner) (root : MappingMethod) (plan : MappingPlan) : Prop where
  creator : ∀ a ∈ plan.needed, ∀ m ∈ root :: p.declared, m.updatesTarget = true →
    m.name ≠ p.creatorName a.1 a.2
  root : root.updatesTarget = false → ∀ m ∈ p.declared, m.updatesTarget = true → m.name ≠ root.name

/-- Where names tell, the references of a tree create exactly when no types for which the root is called
are needed, or the root creates. -/
theorem PlannedTree.referencesCreate_iff_of_tells (h : p.PlannedTree root plan)
    (converted : p.ConvertedTree root plan) (tells : p.TellsUpdating root plan) :
    plan.ReferencesCreate p.declared ↔
      (root.updatesTarget = true → ∀ a ∈ plan.needed, ¬ p.CallsRoot root a) := by
  rw [h.referencesCreate_iff converted]
  constructor
  · intro apart updates a ha called
    refine apart a ha root List.mem_cons_self updates ?_
    unfold calleeName
    rw [if_pos called]
  · intro uncalled a ha m hm updates
    unfold calleeName
    by_cases called : p.CallsRoot root a
    · have creates : root.updatesTarget = false :=
        Bool.eq_false_iff.mpr fun updates => uncalled updates a ha called
      rw [if_pos called]
      rcases List.mem_cons.mp hm with rfl | hm
      · rw [updates] at creates
        exact absurd creates Bool.noConfusion
      · exact tells.root creates m hm updates
    · rw [if_neg called]
      exact tells.creator a ha m hm updates

end Planner

/-! ## Accepted roots -/

namespace Generator

/-- **When nested conversions call only methods that create their target.** Every reference of an
accepted tree has the name of what is called for its types: a declared method that creates, the root for
its own types, or a derived method, which creates. The references create exactly when no updating method
has such a name; and where names tell the updating methods from those that create, exactly when the root
creates or is not called in its tree. -/
theorem references_create_iff {g : Generator} {declared : List MappingMethod} {root : MappingMethod}
    {shapes : ShapeCache} {v : VerifiedPlan}
    (accepted : ((g.plan declared root).run shapes).result = .ok v) :
    (∀ q ∈ v.plan.nodes, ∀ n ∈ q.references,
      n.method = (g.planner declared root).calleeName root n.pair) ∧
    (v.plan.ReferencesCreate declared ↔ ∀ a ∈ v.plan.needed, ∀ m ∈ root :: declared,
      m.updatesTarget = true → m.name ≠ (g.planner declared root).calleeName root a) ∧
    ((g.planner declared root).TellsUpdating root v.plan →
      (v.plan.ReferencesCreate declared ↔ (root.updatesTarget = true →
        ∀ a ∈ v.plan.needed, ¬ (g.planner declared root).CallsRoot root a))) := by
  have gives := Narrated.gives_of_result accepted
  have planned := (accepted_of_gives gives).planned
  have converted := convertedTree_of_gives gives
  exact ⟨fun q hq n hn => planned.method_eq_calleeName converted hq hn,
    planned.referencesCreate_iff converted, planned.referencesCreate_iff_of_tells converted⟩

/-! ### A node that leads to a node -/

/-- Nodes that lead to a node. -/
def linkedNodes : Generator where
  types := .ofList [
    ⟨⟨"Node"⟩, .bean, [], [.getter "getNext" ⟨"Node"⟩]⟩,
    ⟨⟨"NodeDto"⟩, .bean, [], [.writer "setNext" ⟨"NodeDto"⟩]⟩]
  config := .default
  book := .empty
  valid := GeneratorConfig.fault?_default

/-- Maps a node. -/
def mapNode (name : String) (updates : Bool) : MappingMethod where
  name := name
  sourceType := ⟨"Node"⟩
  targetType := ⟨"NodeDto"⟩
  updatesTarget := updates

/-- What the generator makes of the update of a node. -/
def updateOutcome (declared : List MappingMethod) : Except Report VerifiedPlan :=
  ((linkedNodes.plan declared (mapNode "update_node" true)).run .empty).result

/-- The next node is copied by a method that is declared. -/
theorem references_create_beside_copy : ∃ v, updateOutcome [mapNode "copy_node" false] = .ok v ∧
    v.plan.needed ≠ [] ∧ v.plan.ReferencesCreate [mapNode "copy_node" false] := by
  obtain ⟨v, accepted, evaluated⟩ := Narrated.exists_ok_of_any
    (show (updateOutcome [mapNode "copy_node" false]).toOption.any (fun v =>
      !v.plan.needed.isEmpty && v.plan.needed.all fun a =>
        [mapNode "update_node" true, mapNode "copy_node" false].all fun m => !m.updatesTarget ||
          m.name !=
            (linkedNodes.planner [mapNode "copy_node" false] (mapNode "update_node" true)).calleeName
              (mapNode "update_node" true) a) = true by decide +kernel)
  rw [Bool.and_eq_true, Bool.not_eq_true', List.isEmpty_eq_false_iff] at evaluated
  obtain ⟨-, create_iff, -⟩ := references_create_iff accepted
  refine ⟨v, accepted, evaluated.1, create_iff.mpr fun a ha m hm updates => ?_⟩
  have other := List.all_eq_true.mp (List.all_eq_true.mp evaluated.2 a ha) m hm
  rw [updates] at other
  simpa using other

/-- The next node is updated by the root, which is called without a target. -/
theorem references_do_not_create : ∃ v, updateOutcome [] = .ok v ∧ ¬ v.plan.ReferencesCreate [] := by
  obtain ⟨v, accepted, evaluated⟩ := Narrated.exists_ok_of_any
    (show (updateOutcome []).toOption.any (fun v => !v.plan.ReferencesCreate []) = true by
      decide +kernel)
  rw [Bool.not_eq_true', decide_eq_false_iff_not] at evaluated
  exact ⟨v, accepted, evaluated⟩

end Generator

end BeanMapping
