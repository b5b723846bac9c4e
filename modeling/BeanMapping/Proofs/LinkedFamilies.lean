import BeanMapping.Proofs.FailureSafety
import BeanMapping.Proofs.LinkComplete
import BeanMapping.Proofs.PlannedShapes

/-!
# Linked families

Linking hands the plans of one mapping to another, but not the converters that these plans call. So of
the mappings of a family that are joined, every plan is there, with the converters of the first mapping
only.

A family is self-contained when the declared methods that its plans refer to are methods of the family
(`SelfContained`). Whatever is bound in the joined mapping is a plan of a member (`Joins.exists_member`),
which refers to plans of its own tree and to members; and what a member binds is bound
(`Joins.exists_bound`). So no run meets a method that is not known.

Results:
* **`linking_executes_iff`**: a self-contained family that is joined never ends for an unknown method,
  and ends for a missing converter exactly when a plan that it reaches calls one that is not registered
  with its first mapping;
* `linking_misses_converter`: an order whose lines are mapped elsewhere.
-/

namespace BeanMapping

namespace Generator

variable {g : Generator} {converters : ConverterTable} {declared : List MappingMethod}
  {m : MappingMethod} {c : CompiledMapping}

/-- The generator plans the method over a faithful cache, verifies the plan and compiles it over the
converters. -/
def CompilesFaithfully (g : Generator) (converters : ConverterTable) (declared : List MappingMethod)
    (m : MappingMethod) (c : CompiledMapping) : Prop :=
  ∃ (ε : Type) (w : Workshop ε), g.Faithful w.shapes ∧
    ((g.generate (CompiledMapping.compile converters) declared m).run w).result = .ok c

/-- **What a compiled mapping is made of**: the plans of an accepted tree, which fit the shapes of their
types. -/
theorem CompilesFaithfully.exists_accepted (h : g.CompilesFaithfully converters declared m c) :
    ∃ v, g.Accepted declared m v ∧ c = ⟨m.name, PlanTable.ofPlan v.plan, converters⟩ ∧
      ∀ q ∈ v.plan.nodes, q.Fits g.types ⟨g.config.singularOverrides⟩ := by
  obtain ⟨ε, w, faithful, h⟩ := h
  have h := Narrated.gives_of_result h
  unfold generate at h
  simp only [Narrated.gives_bind_iff, Narrated.gives_focus_iff] at h
  obtain ⟨v, _, ⟨shapes, hv, -⟩, _, hc, -⟩ := h
  exact ⟨v, accepted_of_gives hv, CompiledMapping.compile_gives hc, fits_of_gives faithful hv⟩

end Generator

namespace Family

variable {g : Generator} {family : Family} {l : CompiledMapping} {name : String} {p : MappingPlan}
  {a : MappingMethod × CompiledMapping}

/-! ## Families that are joined -/

/-- **A family is self-contained**: each method was planned with some methods declared and compiled over
some converters, and the declared methods that its plans refer to are methods of the family. -/
def SelfContained (g : Generator) (family : Family) : Prop :=
  ∀ a ∈ family, ∃ converters declared, g.CompilesFaithfully converters declared a.1 a.2 ∧
    ∀ p ∈ a.2.plans.items, ∀ n ∈ p.references, n.method ∈ declared.map (·.name) →
      n.method ∈ family.methods.map (·.name)

/-- The mappings of the family are joined, in their order and in any way. -/
inductive Joins : Family → CompiledMapping → Prop
  | member (a : MappingMethod × CompiledMapping) : Joins [a] a.2
  | link {as bs : Family} {a b : CompiledMapping} (left : Joins as a) (right : Joins bs b) :
      Joins (as ++ bs) (a.linkedWith b)

/-- **What is bound, a member binds.** -/
theorem Joins.exists_member (h : Joins family l) :
    l.plans.find? name = some p → ∃ a ∈ family, a.2.plans.find? name = some p := by
  induction h with
  | member a => exact fun found => ⟨a, List.mem_singleton_self a, found⟩
  | link _ _ left right =>
    intro found
    rw [CompiledMapping.find?_linkedWith, Option.or_eq_some_iff] at found
    rcases found with found | ⟨-, found⟩
    · obtain ⟨a, ha, found⟩ := left found
      exact ⟨a, List.mem_append_left _ ha, found⟩
    · obtain ⟨b, hb, found⟩ := right found
      exact ⟨b, List.mem_append_right _ hb, found⟩

/-- **What a member binds is bound**, be it to another plan. -/
theorem Joins.exists_bound (h : Joins family l) :
    ∀ a ∈ family, a.2.plans.find? name = some p → ∃ q, l.plans.find? name = some q := by
  induction h with
  | member a => exact fun b hb found => ⟨p, List.mem_singleton.mp hb ▸ found⟩
  | @link as bs a b _ _ left right =>
    intro c hc found
    rw [CompiledMapping.find?_linkedWith]
    cases own : a.plans.find? name with
    | some q => exact ⟨q, rfl⟩
    | none =>
      rcases List.mem_append.mp hc with hc | hc
      · obtain ⟨q, bound⟩ := left c hc found
        exact absurd (own.symm.trans bound) (by simp)
      · exact right c hc found

/-- A joined mapping has the method and the converters of its first member. -/
theorem Joins.head (h : Joins family l) :
    ∃ a rest, family = a :: rest ∧ l.method = a.2.method ∧ l.converters = a.2.converters := by
  induction h with
  | member a => exact ⟨a, [], rfl, rfl, rfl⟩
  | link _ _ left _ =>
    obtain ⟨a, rest, rfl, method_eq, converters_eq⟩ := left
    exact ⟨a, _, rfl, method_eq, converters_eq⟩

/-! ## Self-contained families -/

/-- A member binds its own method. -/
theorem SelfContained.own_found (contained : family.SelfContained g) (ha : a ∈ family) :
    a.2.method = a.1.name ∧ ∃ r, a.2.plans.find? a.1.name = some r := by
  obtain ⟨converters, declared, compiles, -⟩ := contained a ha
  obtain ⟨v, accepted, made, -⟩ := compiles.exists_accepted
  obtain ⟨r, -, found⟩ := accepted.planned.own_found
  rw [made]
  exact ⟨rfl, r, found⟩

/-- What a member's plan refers to, the member binds, or it is a method of the family. -/
theorem SelfContained.reference_found (contained : family.SelfContained g) (ha : a ∈ family)
    (found : a.2.plans.find? name = some p) {n : NestedMapping MappingPlan} (hn : n ∈ p.references) :
    (∃ b ∈ family, b.1.name = n.method) ∨ ∃ r, a.2.plans.find? n.method = some r := by
  obtain ⟨converters, declared, compiles, closed⟩ := contained a ha
  obtain ⟨v, accepted, made, -⟩ := compiles.exists_accepted
  have table : a.2.plans = PlanTable.ofPlan v.plan := congrArg CompiledMapping.plans made
  have bound := table ▸ found
  rcases accepted.planned.reference_found bound hn with declared | ⟨r, -, bound⟩
  · have named := closed p (Keyed.mem_of_find? found) n hn declared
    unfold methods at named
    rw [List.map_map, List.mem_map] at named
    exact Or.inl named
  · exact Or.inr ⟨r, table ▸ bound⟩

/-- **A joined family misses no method**: it has its own, and what a plan refers to that it has. -/
theorem SelfContained.not_missesMethod (contained : family.SelfContained g) (joins : Joins family l) :
    ¬ l.MissesMethod name := by
  rintro ⟨reached, unbound⟩
  have member : ∀ b ∈ family, ∃ q, l.plans.find? b.1.name = some q := by
    intro b hb
    obtain ⟨-, r, found⟩ := contained.own_found hb
    exact joins.exists_bound b hb found
  let Bound (name : String) := ∃ q, l.plans.find? name = some q
  have bound : Bound name := by
    refine reached.closed (P := Bound) ?_ fun method p _ found n hn => ?_
    · obtain ⟨a, rest, rfl, method_eq, -⟩ := joins.head
      show ∃ q, l.plans.find? l.method = some q
      rw [method_eq, (contained.own_found List.mem_cons_self).1]
      exact member a List.mem_cons_self
    · obtain ⟨a, ha, found⟩ := joins.exists_member found
      rcases contained.reference_found ha found hn with ⟨b, hb, named⟩ | ⟨r, found⟩
      · exact named ▸ member b hb
      · exact joins.exists_bound a ha found
  obtain ⟨q, found⟩ := bound
  exact absurd (unbound.symm.trans found) (by simp)

/-- The plans of a joined family read each property of their source once: each fits the shapes of its
types. -/
theorem SelfContained.readsOnce (contained : family.SelfContained g) (joins : Joins family l) :
    l.ReadsOnce := by
  intro method p found
  obtain ⟨a, ha, found⟩ := joins.exists_member found
  obtain ⟨converters, declared, compiles, -⟩ := contained a ha
  obtain ⟨v, accepted, made, fits⟩ := compiles.exists_accepted
  rw [made] at found
  exact (fits p (PlanTable.find?_ofPlan_some found).1).distinct_sources

/-- **What linking makes executable.** The mappings of a self-contained family are joined in any way.
Then no run ends for an unknown method, and a run ends for a missing converter, over some source,
exactly when a plan that a run may come to calls one that is not registered with the first mapping. -/
theorem linking_executes_iff {head : MappingMethod × CompiledMapping} {rest : Family}
    (contained : SelfContained g (head :: rest)) (joins : Joins (head :: rest) l) :
    (∀ source target method, (l.map source).result ≠ .error (.unknownMethod method) ∧
      (l.mapInto source target).result ≠ .error (.unknownMethod method)) ∧
    ∀ path,
      ((∃ source, (l.map source).result = .error (.missingConverter path)) ↔
        l.Calls path ∧ head.2.converters.find? path = none) ∧
      ((∃ source target, (l.mapInto source target).result = .error (.missingConverter path)) ↔
        l.Calls path ∧ head.2.converters.find? path = none) := by
  obtain ⟨a, others, same, -, converters_eq⟩ := joins.head
  obtain ⟨rfl, rfl⟩ := List.cons.inj same
  rw [← converters_eq]
  refine ⟨fun source target method => ⟨fun failed => ?_, fun failed => ?_⟩, fun path => ?_⟩
  · exact contained.not_missesMethod joins (CompiledMapping.justified_of_mapInto failed)
  · exact contained.not_missesMethod joins (CompiledMapping.justified_of_mapInto failed)
  · exact CompiledMapping.exists_missingConverter_iff (contained.readsOnce joins)

/-! ### Orders whose lines are mapped elsewhere -/

/-- What the generator makes of one of the two methods, over some converters. -/
def ordersOver (converters : ConverterTable) (m : MappingMethod) : Except Report CompiledMapping :=
  ((orders.generate (CompiledMapping.compile converters) [mapOrder, mapLine] m).run
    ⟨.empty, ()⟩).result

/-- An order with a line that has a number. -/
def goodOrder : Json := .obj [("line", .obj [("count", .str "3")])]

/-- The two methods refer to each other only, and they are joined. -/
theorem selfContained_orders {cs cs' : ConverterTable} {order line : CompiledMapping}
    (order_eq : ordersOver cs mapOrder = .ok order) (line_eq : ordersOver cs' mapLine = .ok line) :
    SelfContained orders [(mapOrder, order), (mapLine, line)] ∧
      Joins [(mapOrder, order), (mapLine, line)] (order.linkedWith line) := by
  unfold ordersOver at order_eq line_eq
  have faithful : orders.Faithful .empty := orders.faithful_empty
  refine ⟨fun a ha => ?_, .link (.member (mapOrder, order)) (.member (mapLine, line))⟩
  rcases List.mem_pair.mp ha with rfl | rfl
  · have compiles : orders.CompilesFaithfully cs [mapOrder, mapLine] mapOrder order :=
      ⟨Unit, ⟨.empty, ()⟩, faithful, order_eq⟩
    exact ⟨cs, _, compiles, fun p _ n _ named => named⟩
  · have compiles : orders.CompilesFaithfully cs' [mapOrder, mapLine] mapLine line :=
      ⟨Unit, ⟨.empty, ()⟩, faithful, line_eq⟩
    exact ⟨cs', _, compiles, fun p _ n _ named => named⟩

/-- Where the mapping of the order has a converter for counts, the joined mapping never misses one. -/
theorem linking_executes_orders : ∃ order line, ordersOver Generator.reading mapOrder = .ok order ∧
    ordersOver parsing mapLine = .ok line ∧
    ((order.linkedWith line).map goodOrder).result = .ok () ∧
    (∀ source method,
      ((order.linkedWith line).map source).result ≠ .error (.unknownMethod method)) ∧
    ∀ source path,
      ((order.linkedWith line).map source).result ≠ .error (.missingConverter path) := by
  obtain ⟨order, order_eq, evaluated⟩ := Narrated.exists_ok_of_any
    (show (ordersOver Generator.reading mapOrder).toOption.any (fun order =>
      (ordersOver parsing mapLine).toOption.any fun line =>
        decide (((order.linkedWith line).map goodOrder).result = .ok () ∧
          (order.converters.find? "parse").isSome = true ∧
          ∀ p ∈ (order.linkedWith line).plans.items, ∀ x ∈ p.properties,
            ∀ path ∈ x.converterPath?, path = "parse")) = true by decide +kernel)
  obtain ⟨line, line_eq, evaluated⟩ := Narrated.exists_ok_of_any evaluated
  obtain ⟨mapped, registered, called⟩ := of_decide_eq_true evaluated
  obtain ⟨contained, joins⟩ := selfContained_orders order_eq line_eq
  obtain ⟨known, missing_iff⟩ := linking_executes_iff contained joins
  refine ⟨order, line, order_eq, line_eq, mapped, fun source method => (known source .null method).1,
    fun source path failed => ?_⟩
  obtain ⟨⟨method, p, x, -, found, hx, calls⟩, missing⟩ := (missing_iff path).1.mp ⟨source, failed⟩
  obtain rfl := called p (Keyed.mem_of_find? found) x hx path calls
  have missing : order.converters.find? "parse" = none := missing
  rw [missing] at registered
  exact absurd registered (by simp)

/-- The mapping of the line was compiled with a converter for counts, but the joined mapping has the
converters of the mapping of the order, which needed none. The names of all plans are different. -/
theorem linking_misses_converter : ∃ order line, ordersOver .empty mapOrder = .ok order ∧
    ordersOver Generator.reading mapLine = .ok line ∧
    SelfContained orders [(mapOrder, order), (mapLine, line)] ∧
    Joins [(mapOrder, order), (mapLine, line)] (order.linkedWith line) ∧
    ((order.plans.items ++ line.plans.items).map (·.method)).Nodup ∧
    ((order.linkedWith line).map goodOrder).result = .error (.missingConverter "parse") := by
  obtain ⟨order, order_eq, evaluated⟩ := Narrated.exists_ok_of_any
    (show (ordersOver .empty mapOrder).toOption.any (fun order =>
      (ordersOver Generator.reading mapLine).toOption.any fun line =>
        decide (((order.plans.items ++ line.plans.items).map (·.method)).Nodup ∧
          ((order.linkedWith line).map goodOrder).result = .error (.missingConverter "parse"))) = true
      by decide +kernel)
  obtain ⟨line, line_eq, evaluated⟩ := Narrated.exists_ok_of_any evaluated
  obtain ⟨distinct, missing⟩ := of_decide_eq_true evaluated
  obtain ⟨contained, joins⟩ := selfContained_orders order_eq line_eq
  exact ⟨order, line, order_eq, line_eq, contained, joins, distinct, missing⟩

end Family

end BeanMapping
