import BeanMapping.Proofs.Linking

/-!
# When a method name identifies a mapping

Derived methods are told apart by their types while a root is planned, but by their names once the plan
is compiled: a table keeps one plan for each name. A derived name is made of the short names of the two
types, so two methods of one tree may share it.

A tree is `Separated` when the types that methods are derived for have different derived names, none of
them that of the root. Every plan and every reference of a tree carries the name and the types of the
root or of a derived method (`PlannedTree.naming_cases`), and every derived method is referred to; so
this condition on the types alone is exact.

Results:
* **`PlannedTree.namesIdentify_iff`**: one name is that of one pair of types exactly in a separated
  tree;
* **`PlannedTree.bindsOwn_iff`**: the table of a tree binds each name to the plan that is meant exactly
  in a separated tree;
* **`names_identify_iff_separated`**: both, for what a generator accepts;
* `names_do_not_identify`: two modules with a type of one name make a tree that is not separated.
-/

namespace BeanMapping

/-! ## Names -/

namespace MappingPlan

/-- The names that the plans and references of a tree carry, with their types. -/
def namings (p : MappingPlan) : List (String × TypeName × TypeName) :=
  p.nodes.map (fun q => (q.method, q.pair)) ++
    (p.nodes.flatMap references).map fun n => (n.method, n.pair)

/-- **A name identifies a mapping**: plans and references of one name are for the same types. -/
def NamesIdentify (p : MappingPlan) : Prop :=
  ∀ a ∈ p.namings, ∀ b ∈ p.namings, a.1 = b.1 → a.2 = b.2

instance (p : MappingPlan) : Decidable p.NamesIdentify :=
  inferInstanceAs (Decidable (∀ a ∈ p.namings, ∀ b ∈ p.namings, a.1 = b.1 → a.2 = b.2))

/-- The types that the methods of the embedded plans were derived for. -/
def derivedPairs (p : MappingPlan) : List (TypeName × TypeName) :=
  (embedded p.properties).map pair

/-- The types that methods are derived for have different names, none of them that of the root. -/
structure Separated (p : MappingPlan) : Prop where
  root : ∀ a ∈ p.derivedPairs, Planner.derivedName a.1 a.2 ≠ p.method
  injective : ∀ a ∈ p.derivedPairs, ∀ b ∈ p.derivedPairs,
    Planner.derivedName a.1 a.2 = Planner.derivedName b.1 b.2 → a = b

end MappingPlan

/-- **A table binds what is meant**: the name of the root to its plan, and the name of each reference to
a plan for the types of the reference. -/
structure PlanTable.BindsOwn (p : MappingPlan) : Prop where
  root : (ofPlan p).find? p.method = some p
  reference : ∀ q ∈ p.nodes, ∀ n ∈ q.references,
    ((ofPlan p).find? n.method).map MappingPlan.pair = some n.pair

/-! ## Planned trees -/

namespace Planner.PlannedTree

open MappingPlan (embedded)

variable {p : Planner} {root : MappingMethod} {plan q : MappingPlan}

/-- An embedded plan has the name that is derived for its types. -/
theorem method_eq (h : p.PlannedTree root plan) (mem : q ∈ embedded plan.properties) :
    q.method = derivedName q.pair.1 q.pair.2 :=
  (h.isDerived q mem).method_eq

/-- No embedded plan is for the types of the root. -/
theorem pair_ne (h : p.PlannedTree root plan) (mem : q ∈ embedded plan.properties) :
    q.pair ≠ plan.pair := by
  have nodup := h.nodup
  rw [MappingPlan.postorder_eq_embedded, List.map_append] at nodup
  exact (List.nodup_append.mp nodup).2.2 _ (List.mem_map_of_mem mem) _ List.mem_cons_self

/-- **What carries a name carries that of a plan of the tree, with its types**, where no methods are
declared. -/
theorem naming_cases (h : p.PlannedTree root plan) (none : p.declared = [])
    {a : String × TypeName × TypeName} (mem : a ∈ plan.namings) :
    ∃ q ∈ plan.nodes, a = (q.method, q.pair) := by
  rcases List.mem_append.mp mem with mem | mem
  · obtain ⟨q, hq, rfl⟩ := List.mem_map.mp mem
    exact ⟨q, hq, rfl⟩
  · obtain ⟨n, hn, rfl⟩ := List.mem_map.mp mem
    obtain ⟨q, hq, hn⟩ := List.mem_flatMap.mp hn
    rcases h.reference_cases q hq n hn with ⟨d, hd, -⟩ | ⟨c, hc, hn⟩
    · rw [none] at hd
      exact absurd hd List.not_mem_nil
    · refine ⟨c, hc, Prod.ext (congrArg NestedMapping.method hn) ?_⟩
      exact congrArg NestedMapping.pair hn

theorem mem_namings {plan : MappingPlan} (mem : q ∈ plan.nodes) :
    (q.method, q.pair) ∈ plan.namings :=
  List.mem_append_left _ (List.mem_map_of_mem mem)

/-- Every derived method is referred to. -/
theorem exists_reference (h : p.PlannedTree root plan) (mem : q ∈ embedded plan.properties) :
    ∃ c ∈ plan.nodes, ∃ n ∈ c.references, n.method = q.method ∧ n.pair = q.pair := by
  obtain ⟨c, hc, hq⟩ := MappingPlan.exists_embedding mem
  obtain ⟨n, hn, hq⟩ := MappingPlan.mem_nested_iff.mp hq
  have bare := h.embeds c hc n hn q hq
  exact ⟨c, hc, n, hn, congrArg NestedMapping.method bare, congrArg NestedMapping.pair bare⟩

/-- In a separated tree, plans of one name are for the same types. -/
theorem pair_eq_of_separated (h : p.PlannedTree root plan) (separated : plan.Separated)
    {q r : MappingPlan} (hq : q ∈ plan.nodes) (hr : r ∈ plan.nodes) (same : q.method = r.method) :
    q.pair = r.pair := by
  have derived : ∀ {c}, c ∈ embedded plan.properties → c.pair ∈ plan.derivedPairs :=
    fun mem => List.mem_map_of_mem mem
  rcases MappingPlan.mem_nodes_iff_embedded.mp hq with rfl | hq <;>
    rcases MappingPlan.mem_nodes_iff_embedded.mp hr with rfl | hr
  · rfl
  · exact absurd ((h.method_eq hr).symm.trans same.symm) (separated.root _ (derived hr))
  · exact absurd ((h.method_eq hq).symm.trans same) (separated.root _ (derived hq))
  · rw [h.method_eq hq, h.method_eq hr] at same
    exact separated.injective _ (derived hq) _ (derived hr) same

/-- A tree is separated if its embedded plans are told from the root and from each other by name. -/
theorem separated_of (h : p.PlannedTree root plan)
    (apart : ∀ q ∈ embedded plan.properties, q.method = plan.method → q.pair = plan.pair)
    (injective : ∀ q ∈ embedded plan.properties, ∀ r ∈ embedded plan.properties,
      q.method = r.method → q.pair = r.pair) : plan.Separated := by
  refine ⟨fun a ha same => ?_, fun a ha b hb same => ?_⟩
  · obtain ⟨q, hq, rfl⟩ := List.mem_map.mp ha
    exact h.pair_ne hq (apart q hq ((h.method_eq hq).trans same))
  · obtain ⟨q, hq, rfl⟩ := List.mem_map.mp ha
    obtain ⟨r, hr, rfl⟩ := List.mem_map.mp hb
    exact injective q hq r hr ((h.method_eq hq).trans (same.trans (h.method_eq hr).symm))

/-- **One name is that of one pair of types exactly in a separated tree.** -/
theorem namesIdentify_iff (h : p.PlannedTree root plan) (none : p.declared = []) :
    plan.NamesIdentify ↔ plan.Separated := by
  have node : ∀ {q}, q ∈ embedded plan.properties → q ∈ plan.nodes :=
    fun mem => MappingPlan.mem_nodes_iff_embedded.mpr (Or.inr mem)
  constructor
  · intro identify
    refine h.separated_of (fun q hq same => ?_) (fun q hq r hr same => ?_)
    · exact identify _ (mem_namings (node hq)) _ (mem_namings (MappingPlan.mem_nodes_self _)) same
    · exact identify _ (mem_namings (node hq)) _ (mem_namings (node hr)) same
  · intro separated a ha b hb same
    obtain ⟨q, hq, rfl⟩ := h.naming_cases none ha
    obtain ⟨r, hr, rfl⟩ := h.naming_cases none hb
    exact h.pair_eq_of_separated separated hq hr same

/-- **The table of a tree binds what is meant exactly in a separated tree.** -/
theorem bindsOwn_iff (h : p.PlannedTree root plan) (none : p.declared = []) :
    PlanTable.BindsOwn plan ↔ plan.Separated := by
  constructor
  · intro binds
    refine h.separated_of (fun q hq same => ?_) (fun q hq r hr same => ?_)
    · obtain ⟨c, hc, n, hn, method, pair⟩ := h.exists_reference hq
      have bound := binds.reference c hc n hn
      rw [method, same, binds.root, pair] at bound
      exact (Option.some.inj bound).symm
    · obtain ⟨c, hc, n, hn, method, pair⟩ := h.exists_reference hq
      obtain ⟨c', hc', n', hn', method', pair'⟩ := h.exists_reference hr
      have bound := binds.reference c hc n hn
      rw [method, same, ← method', binds.reference c' hc' n' hn', pair, pair'] at bound
      exact (Option.some.inj bound).symm
  · intro separated
    constructor
    · rw [PlanTable.find?_ofPlan, MappingPlan.postorder_eq_embedded, List.find?_append]
      have free : (embedded plan.properties).find? (fun q => q.method == plan.method) = .none := by
        rw [List.find?_eq_none]
        intro q hq same
        rw [beq_iff_eq, h.method_eq hq] at same
        exact separated.root _ (List.mem_map_of_mem hq) same
      rw [free]
      simp
    · intro q hq n hn
      have mem : (n.method, n.pair) ∈ plan.namings :=
        List.mem_append_right _ (List.mem_map_of_mem (List.mem_flatMap.mpr ⟨q, hq, hn⟩))
      obtain ⟨c, hc, named⟩ := h.naming_cases none mem
      obtain ⟨method, pair⟩ := Prod.mk.inj named
      obtain ⟨r, hr, bound⟩ := PlanTable.exists_find?_ofPlan hc
      rw [method, bound, pair, Option.map_some, Option.some.injEq]
      exact h.pair_eq_of_separated separated hr hc (PlanTable.find?_ofPlan_some bound).2

end Planner.PlannedTree

/-! ## Accepted roots -/

namespace Generator

/-- **A name identifies a mapping in the tree of an accepted root exactly when no two pairs of types
that methods were derived for have one derived name, and none has that of the root**; and exactly then
the table of the root binds what is meant. -/
theorem names_identify_iff_separated {g : Generator} {root : MappingMethod} {shapes : ShapeCache}
    {v : VerifiedPlan} (accepted : ((g.plan [] root).run shapes).result = .ok v) :
    (v.plan.NamesIdentify ↔ v.plan.Separated) ∧ (PlanTable.BindsOwn v.plan ↔ v.plan.Separated) := by
  have planned := (accepted_of_gives (Narrated.gives_of_result accepted)).planned
  exact ⟨planned.namesIdentify_iff rfl, planned.bindsOwn_iff rfl⟩

/-! ### Pets of two modules -/

/-- Owners and kennels with pets, of which two modules have a type. -/
def pets : Generator where
  types := .ofList [
    ⟨⟨"cats::Pet"⟩, .bean, [], [.getter "getName" ⟨"String"⟩]⟩,
    ⟨⟨"dogs::Pet"⟩, .bean, [], [.getter "getTag" ⟨"String"⟩]⟩,
    ⟨⟨"PetDto"⟩, .bean, [], [.writer "setName" ⟨"String"⟩, .writer "setTag" ⟨"String"⟩]⟩,
    ⟨⟨"Kennel"⟩, .bean, [], [.getter "getDog" ⟨"dogs::Pet"⟩]⟩,
    ⟨⟨"Owner"⟩, .bean, [], [.getter "getCat" ⟨"cats::Pet"⟩, .getter "getDog" ⟨"dogs::Pet"⟩]⟩,
    ⟨⟨"OwnerDto"⟩, .bean, [], [.writer "setCat" ⟨"PetDto"⟩, .writer "setDog" ⟨"PetDto"⟩]⟩]
  config := .default
  book := .empty
  valid := GeneratorConfig.fault?_default

/-- Maps something with pets. -/
def mapPets (name : String) (source : TypeName) : MappingMethod where
  name := name
  sourceType := source
  targetType := ⟨"OwnerDto"⟩

/-- What the generator makes of the mapping of something with pets. -/
def petsOutcome (name : String) (source : TypeName) : Except Report VerifiedPlan :=
  ((pets.plan [] (mapPets name source)).run .empty).result

/-- A kennel has pets of one module only. -/
theorem names_identify_in_kennel : ∃ v, petsOutcome "kennel_to_dto" ⟨"Kennel"⟩ = .ok v ∧
    v.plan.Separated ∧ PlanTable.BindsOwn v.plan := by
  obtain ⟨v, accepted, identify⟩ := Narrated.exists_ok_of_any
    (show (petsOutcome "kennel_to_dto" ⟨"Kennel"⟩).toOption.any
      (fun v => v.plan.NamesIdentify) = true by decide +kernel)
  obtain ⟨identify_iff, binds_iff⟩ := names_identify_iff_separated accepted
  have separated := identify_iff.mp (of_decide_eq_true identify)
  exact ⟨v, accepted, separated, binds_iff.mpr separated⟩

/-- Whether the table binds the name of some reference to a plan for other types. -/
def bindsOther (p : MappingPlan) : Bool :=
  p.nodes.any fun q => q.references.any fun n =>
    ((PlanTable.ofPlan p).find? n.method).map MappingPlan.pair != some n.pair

/-- An owner has pets of both modules, and one name maps either. -/
theorem names_do_not_identify : ∃ v, petsOutcome "owner_to_dto" ⟨"Owner"⟩ = .ok v ∧
    ¬ v.plan.NamesIdentify ∧ ¬ PlanTable.BindsOwn v.plan := by
  obtain ⟨v, accepted, evaluated⟩ := Narrated.exists_ok_of_any
    (show (petsOutcome "owner_to_dto" ⟨"Owner"⟩).toOption.any
      (fun v => !v.plan.NamesIdentify && bindsOther v.plan) = true by decide +kernel)
  rw [Bool.and_eq_true, Bool.not_eq_true', decide_eq_false_iff_not] at evaluated
  refine ⟨v, accepted, evaluated.1, fun binds => ?_⟩
  obtain ⟨q, hq, n, hn, other⟩ : ∃ q ∈ v.plan.nodes, ∃ n ∈ q.references,
      ((PlanTable.ofPlan v.plan).find? n.method).map MappingPlan.pair ≠ some n.pair := by
    simpa [bindsOther] using evaluated.2
  exact other (binds.reference q hq n hn)

end Generator

end BeanMapping
