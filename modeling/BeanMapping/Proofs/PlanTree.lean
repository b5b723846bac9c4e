import BeanMapping.Plan
import Mathlib.Data.List.Basic

/-!
# Plan trees

The plans of a tree in its two orders, how each is made up of those of the embedded trees, and the
references to mapping methods that planned properties make.

Results:
* **`mem_postorder_iff`**: the two orders list the same plans;
* `postorder_eq_embedded`: the plans of a tree are those that its properties embed, and then its root.
-/

namespace BeanMapping

/-! ## References -/

namespace PlannedProperty

variable {ρ : Type}

/-- The mapping method that converts the value. -/
def nested? (x : PlannedProperty ρ) : Option (NestedMapping ρ) :=
  match x.conversion with
  | some (.nested n) => some n
  | _ => none

theorem nested?_eq_some_iff {x : PlannedProperty ρ} {n : NestedMapping ρ} :
    x.nested? = some n ↔ x.conversion = some (.nested n) := by
  rcases x with ⟨source, target, action, _ | (_ | _ | m)⟩ <;> simp [nested?]

/-- A property embeds the plan of the method that it refers to. -/
theorem plan?_eq (x : PlannedProperty ρ) : x.plan? = x.nested?.bind NestedMapping.plan := by
  rcases x with ⟨source, target, action, _ | (_ | _ | n)⟩ <;> rfl

end PlannedProperty

namespace MappingPlan

variable {p q : MappingPlan}

/-- The references that a plan makes, without those of the plans that it embeds. -/
def references (p : MappingPlan) : List (NestedMapping MappingPlan) :=
  p.properties.filterMap PlannedProperty.nested?

theorem mem_references_iff {n : NestedMapping MappingPlan} :
    n ∈ p.references ↔ ∃ x ∈ p.properties, x.nested? = some n :=
  List.mem_filterMap

/-- The source and the target type. -/
def pair (p : MappingPlan) : TypeName × TypeName := (p.sourceType, p.targetType)

/-- The reference to the method of the plan. -/
def reference (p : MappingPlan) : NestedMapping MappingPlan :=
  ⟨p.method, p.sourceType, p.targetType, p.declaredFailures, none⟩

end MappingPlan

namespace NestedMapping

/-- The source and the target type. -/
def pair {ρ : Type} (n : NestedMapping ρ) : TypeName × TypeName := (n.sourceType, n.targetType)

/-- The reference without the plan that it may embed. -/
def bare {ρ : Type} (n : NestedMapping ρ) : NestedMapping ρ := { n with plan := none }

end NestedMapping

/-- The conversion without the plan that it may embed. -/
def Conversion.bare {ρ : Type} : Conversion ρ → Conversion ρ
  | .nested n => .nested n.bare
  | c => c

/-! ## Orders -/

namespace MappingPlan

variable {p q : MappingPlan} {xs ys : List (PlannedProperty MappingPlan)}

theorem mem_nodes_iff : q ∈ p.nodes ↔ q = p ∨ ∃ c ∈ p.nested, q ∈ c.nodes := by
  rw [nodes_eq, List.mem_cons, List.mem_flatMap]

theorem mem_nodes_self (p : MappingPlan) : p ∈ p.nodes :=
  mem_nodes_iff.mpr (Or.inl rfl)

/-- A plan of a tree is its root or a plan of an embedded tree. -/
theorem exists_mem_nodes_iff {P : MappingPlan → Prop} :
    (∃ q ∈ p.nodes, P q) ↔ P p ∨ ∃ c ∈ p.nested, ∃ q ∈ c.nodes, P q := by
  constructor
  · rintro ⟨q, hq, hP⟩
    rcases mem_nodes_iff.mp hq with rfl | ⟨c, hc, hqc⟩
    · exact Or.inl hP
    · exact Or.inr ⟨c, hc, q, hqc, hP⟩
  · rintro (hP | ⟨c, hc, q, hq, hP⟩)
    · exact ⟨p, mem_nodes_self p, hP⟩
    · exact ⟨q, mem_nodes_iff.mpr (Or.inr ⟨c, hc, hq⟩), hP⟩

/-- **The two orders list the same plans.** -/
theorem mem_postorder_iff : q ∈ p.postorder ↔ q ∈ p.nodes := by
  induction p using inductionOn with
  | step p ih =>
    rw [postorder_eq, mem_nodes_iff, List.mem_append, List.mem_singleton, List.mem_flatMap, or_comm]
    exact or_congr_right (exists_congr fun c => and_congr_right fun hc => ih c hc)

/-- The plans of the trees that planned properties embed, each after those that it embeds. -/
def embedded (xs : List (PlannedProperty MappingPlan)) : List MappingPlan :=
  (xs.filterMap PlannedProperty.plan?).flatMap postorder

theorem embedded_append (xs ys : List (PlannedProperty MappingPlan)) :
    embedded (xs ++ ys) = embedded xs ++ embedded ys := by
  unfold embedded
  rw [List.filterMap_append, List.flatMap_append]

theorem postorder_eq_embedded (p : MappingPlan) : p.postorder = embedded p.properties ++ [p] :=
  postorder_eq p

/-- A plan of a tree is its root or embedded. -/
theorem mem_nodes_iff_embedded : q ∈ p.nodes ↔ q = p ∨ q ∈ embedded p.properties := by
  rw [← mem_postorder_iff, postorder_eq_embedded, List.mem_append, List.mem_singleton, or_comm]

/-- An embedded plan is embedded by a plan of the tree. -/
theorem exists_embedding (h : q ∈ embedded p.properties) : ∃ c ∈ p.nodes, q ∈ c.nested := by
  induction p using inductionOn with
  | step p ih =>
    obtain ⟨c, hc, hq⟩ := List.mem_flatMap.mp h
    rcases mem_nodes_iff_embedded.mp (mem_postorder_iff.mp hq) with rfl | hq
    · exact ⟨p, mem_nodes_self p, hc⟩
    · obtain ⟨d, hd, hq⟩ := ih c hc hq
      exact ⟨d, mem_nodes_iff.mpr (Or.inr ⟨c, hc, hd⟩), hq⟩

/-- A plan that is embedded is that of a reference. -/
theorem mem_nested_iff : q ∈ p.nested ↔ ∃ n ∈ p.references, n.plan = some q := by
  unfold nested
  rw [List.mem_filterMap]
  constructor
  · rintro ⟨x, hx, hq⟩
    rw [PlannedProperty.plan?_eq, Option.bind_eq_some_iff] at hq
    obtain ⟨n, hn, hq⟩ := hq
    exact ⟨n, mem_references_iff.mpr ⟨x, hx, hn⟩, hq⟩
  · rintro ⟨n, hn, hq⟩
    obtain ⟨x, hx, hn⟩ := mem_references_iff.mp hn
    refine ⟨x, hx, ?_⟩
    rw [PlannedProperty.plan?_eq, hn]
    exact hq

theorem embedded_cons_none {source target : Property} {action : PropertyAction}
    {conversion : Option (Conversion MappingPlan)} (h : conversion.bind Conversion.plan? = none) :
    embedded (⟨source, target, action, conversion⟩ :: xs) = embedded xs := by
  have h' : PlannedProperty.plan? ⟨source, target, action, conversion⟩ = none := h
  unfold embedded
  rw [List.filterMap_cons_none h']

theorem embedded_cons_some {x : PlannedProperty MappingPlan} (h : x.plan? = some q) :
    embedded (x :: xs) = embedded q.properties ++ q :: embedded xs := by
  unfold embedded
  rw [List.filterMap_cons_some h, List.flatMap_cons, postorder_eq_embedded, List.append_assoc]
  rfl

/-- The properties, and those of the plans that they embed. -/
def allProperties (xs : List (PlannedProperty MappingPlan)) : List (PlannedProperty MappingPlan) :=
  xs ++ (embedded xs).flatMap properties

theorem mem_allProperties_iff {x : PlannedProperty MappingPlan} :
    x ∈ allProperties xs ↔ x ∈ xs ∨ ∃ q ∈ embedded xs, x ∈ q.properties := by
  unfold allProperties
  rw [List.mem_append, List.mem_flatMap]

theorem mem_allProperties_cons_none {y : PlannedProperty MappingPlan} {source target : Property}
    {action : PropertyAction} {conversion : Option (Conversion MappingPlan)}
    (h : conversion.bind Conversion.plan? = none) :
    y ∈ allProperties (⟨source, target, action, conversion⟩ :: xs) ↔
      y = ⟨source, target, action, conversion⟩ ∨ y ∈ allProperties xs := by
  rw [mem_allProperties_iff, mem_allProperties_iff, embedded_cons_none h, List.mem_cons, or_assoc]

theorem mem_allProperties_cons_some {x y : PlannedProperty MappingPlan} (h : x.plan? = some q) :
    y ∈ allProperties (x :: xs) ↔
      y = x ∨ y ∈ allProperties q.properties ∨ y ∈ allProperties xs := by
  have split : (∃ c ∈ embedded (x :: xs), y ∈ c.properties) ↔
      (∃ c ∈ embedded q.properties, y ∈ c.properties) ∨ y ∈ q.properties ∨
        ∃ c ∈ embedded xs, y ∈ c.properties := by
    simp only [embedded_cons_some h, List.mem_append, List.mem_cons, or_and_right, exists_or,
      exists_eq_left]
  rw [mem_allProperties_iff, split, List.mem_cons, mem_allProperties_iff, mem_allProperties_iff]
  grind

end MappingPlan

end BeanMapping
