import BeanMapping.Compiled
import BeanMapping.Proofs.Accepted

/-!
# Families of linked mappings

The plan table of a compiled method, and mappings that are linked from those of a family of methods.

* A compiled method has the table of its accepted plan (`CompilesOver.accepted`).
* A table binds exactly the names of the plans of its tree, each to a plan of the tree
  (`find?_ofPlan_some`, `exists_find?_ofPlan`).
* What a linked mapping binds, some member of the family binds (`Linked.exists_member`).

Result:
* **`Family.reference_failures`**: where the members of a family agree, the plan that a reference is
  bound to declares the failures that the reference declares.
-/

namespace BeanMapping

/-! ## Tables -/

namespace PlanTable

variable {p q : MappingPlan} {name : String}

theorem find?_ofPlan (p : MappingPlan) (name : String) :
    (ofPlan p).find? name = p.postorder.find? fun q => q.method == name :=
  Keyed.find?_ofFirsts p.postorder name

theorem find?_ofPlan_some (h : (ofPlan p).find? name = some q) :
    q ∈ p.nodes ∧ q.method = name := by
  refine ⟨?_, Keyed.key_of_find? h⟩
  rw [find?_ofPlan] at h
  exact MappingPlan.mem_postorder_iff.mp (List.mem_of_find?_eq_some h)

theorem exists_find?_ofPlan (h : q ∈ p.nodes) :
    ∃ r ∈ p.nodes, (ofPlan p).find? q.method = some r := by
  have found : ((ofPlan p).find? q.method).isSome := by
    rw [find?_ofPlan, List.find?_isSome]
    exact ⟨q, MappingPlan.mem_postorder_iff.mpr h, beq_self_eq_true _⟩
  obtain ⟨r, hr⟩ := Option.isSome_iff_exists.mp found
  exact ⟨r, (find?_ofPlan_some hr).1, hr⟩

end PlanTable

/-! ## Compiled methods -/

theorem CompiledMapping.compile_gives {σ : Type} {converters : ConverterTable} {m : MappingMethod}
    {v : VerifiedPlan} {c : CompiledMapping} {s t : σ} (h : (compile converters m v).Gives s c t) :
    c = ⟨m.name, PlanTable.ofPlan v.plan, converters⟩ := by
  unfold compile at h
  dsimp only at h
  split at h
  · exact absurd h Narrated.not_gives_reject
  · simp only [Narrated.gives_bind_iff, Narrated.gives_pure_iff] at h
    obtain ⟨_, _, -, rfl, -⟩ := h
    rfl

namespace Generator

/-- The generator plans the method, verifies the plan and compiles it over the converters. -/
def CompilesOver (g : Generator) (converters : ConverterTable) (declared : List MappingMethod)
    (m : MappingMethod) (c : CompiledMapping) : Prop :=
  ∃ (ε : Type) (w : Workshop ε),
    ((g.generate (CompiledMapping.compile converters) declared m).run w).result = .ok c

/-- The generator plans the method, verifies the plan and compiles it, over some converters. -/
def Compiles (g : Generator) (declared : List MappingMethod) (m : MappingMethod)
    (c : CompiledMapping) : Prop :=
  ∃ converters, g.CompilesOver converters declared m c

variable {g : Generator} {converters : ConverterTable} {declared : List MappingMethod}
  {m : MappingMethod} {c : CompiledMapping}

/-- **A compiled method has the table of its accepted plan.** -/
theorem CompilesOver.accepted (h : g.CompilesOver converters declared m c) :
    ∃ v, g.Accepted declared m v ∧ c = ⟨m.name, PlanTable.ofPlan v.plan, converters⟩ := by
  obtain ⟨ε, w, h⟩ := h
  have h := Narrated.gives_of_result h
  unfold generate at h
  simp only [Narrated.gives_bind_iff, Narrated.gives_focus_iff] at h
  obtain ⟨v, _, ⟨shapes, hv, -⟩, _, hc, -⟩ := h
  exact ⟨v, accepted_of_gives hv, CompiledMapping.compile_gives hc⟩

end Generator

/-! ## Families -/

/-- Mapping methods with their compiled mappings. -/
abbrev Family := List (MappingMethod × CompiledMapping)

namespace Family

/-- The methods of the family. -/
def methods (family : Family) : List MappingMethod := family.map (·.1)

/-- Each method of the family was compiled with all of them declared. -/
def Compiled (g : Generator) (family : Family) : Prop :=
  ∀ a ∈ family, g.Compiles family.methods a.1 a.2

/-- No name is bound to plans with different failures; so it is in particular where no name is bound
to two plans. -/
def Agrees (family : Family) : Prop :=
  ∀ a ∈ family, ∀ b ∈ family, ∀ name p q,
    a.2.plans.find? name = some p → b.2.plans.find? name = some q →
      p.declaredFailures = q.declaredFailures

/-- The mapping of a method of the family, with which others are linked. -/
inductive Linked (family : Family) : MappingMethod → CompiledMapping → Prop
  | member {m : MappingMethod} {c : CompiledMapping} (mem : (m, c) ∈ family) : Linked family m c
  | link {m m' : MappingMethod} {a b : CompiledMapping} (left : Linked family m a)
      (right : Linked family m' b) : Linked family m (a.linkedWith b)

variable {g : Generator} {family : Family} {m : MappingMethod} {l : CompiledMapping}
  {name : String} {p q : MappingPlan}

/-- **What a linked mapping binds, some member binds.** -/
theorem Linked.exists_member (h : Linked family m l) :
    l.plans.find? name = some q → ∃ a ∈ family, a.2.plans.find? name = some q := by
  induction h with
  | member mem => exact fun found => ⟨_, mem, found⟩
  | link _ _ left right =>
    intro found
    rw [CompiledMapping.find?_linkedWith, Option.or_eq_some_iff] at found
    rcases found with found | ⟨-, found⟩
    · exact left found
    · exact right found

/-- A linked mapping begins with the method that it is the mapping of, and binds what the mapping of
this method binds. -/
theorem Linked.head (h : Linked family m l) :
    ∃ c, (m, c) ∈ family ∧ l.method = c.method ∧
      ∀ name q, c.plans.find? name = some q → l.plans.find? name = some q := by
  induction h with
  | @member m c mem => exact ⟨c, mem, rfl, fun _ _ found => found⟩
  | link _ _ left _ =>
    obtain ⟨c, mem, method_eq, binds⟩ := left
    refine ⟨c, mem, method_eq, fun name q found => ?_⟩
    rw [CompiledMapping.find?_linkedWith, binds name q found, Option.some_or]

/-- What a member binds is a plan of the accepted tree of its method. -/
theorem Compiled.exists_accepted (compiled : family.Compiled g) {a : MappingMethod × CompiledMapping}
    (mem : a ∈ family) (found : a.2.plans.find? name = some q) :
    ∃ v, g.Accepted family.methods a.1 v ∧ a.2.plans = PlanTable.ofPlan v.plan ∧
      q ∈ v.plan.nodes := by
  obtain ⟨converters, compiles⟩ := compiled a mem
  obtain ⟨v, accepted, made⟩ := compiles.accepted
  have table : a.2.plans = PlanTable.ofPlan v.plan := congrArg CompiledMapping.plans made
  rw [table] at found
  exact ⟨v, accepted, table, (PlanTable.find?_ofPlan_some found).1⟩

/-- **The plan that a reference is bound to declares the failures that the reference declares.** A
declared method has a member that binds its name to a plan with its failures; every other reference
names a plan of its own tree, where all have the failures of the root. -/
theorem reference_failures (compiled : family.Compiled g) (agrees : family.Agrees)
    {a b : MappingMethod × CompiledMapping} (ha : a ∈ family) (hb : b ∈ family)
    (found : a.2.plans.find? name = some p) {n : NestedMapping MappingPlan} (hn : n ∈ p.references)
    (target : b.2.plans.find? n.method = some q) : q.declaredFailures = n.declaredFailures := by
  obtain ⟨v, accepted, table, mem⟩ := compiled.exists_accepted ha found
  rcases accepted.planned.reference_cases p mem n hn with ⟨d, hd, -, rfl⟩ | ⟨c, hc, hn⟩
  · obtain ⟨⟨_, cd⟩, hmem, rfl⟩ := List.mem_map.mp hd
    obtain ⟨converters, compiles⟩ := compiled _ hmem
    obtain ⟨w, accepted, made⟩ := compiles.accepted
    have table : cd.plans = PlanTable.ofPlan w.plan := congrArg CompiledMapping.plans made
    obtain ⟨xs, root⟩ := accepted.planned.root_eq
    obtain ⟨r, hr, bound⟩ := PlanTable.exists_find?_ofPlan (MappingPlan.mem_nodes_self w.plan)
    have same : q.declaredFailures = r.declaredFailures := by
      refine agrees b hb _ hmem _ q r target ?_
      rw [table, ← bound, root]
      rfl
    exact same.trans (accepted.declaredFailures_eq r hr)
  · obtain ⟨r, hr, bound⟩ := PlanTable.exists_find?_ofPlan hc
    have method : n.method = c.method := congrArg NestedMapping.method hn
    have failures : n.declaredFailures = c.declaredFailures :=
      congrArg NestedMapping.declaredFailures hn
    have same : q.declaredFailures = r.declaredFailures := by
      refine agrees b hb a ha _ q r target ?_
      rw [table, method]
      exact bound
    rw [same, failures, accepted.declaredFailures_eq r hr, accepted.declaredFailures_eq c hc]

end Family

end BeanMapping
