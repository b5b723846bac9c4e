import BeanMapping.Proofs.Accepted
import BeanMapping.Proofs.ShapeViews

/-!
# How far planning goes

A method that is planned asks for derived plans, and planning one of these asks again. `Follows` is this
recursion as an equation for the supplier of derived plans: at the limit there is none, below it the
method is planned over the supplier itself. The methods in progress grow by one with each question, so
the equation has exactly one solution, and the planner is it.

In the tree that results no two plans are for the same types, and a plan lies as deep as methods were in
progress when it was planned.

Results:
* **`existsUnique_follows`**, **`planWith_eq_planRoot`**: the recursion of the planner has one solution,
  which plans a root method as the planner does;
* **`MappingPlan.mem_nodes_iff_holdsAt`**, **`Planned.depth_le`**: each plan of a tree lies at some depth,
  and how deep an embedded plan lies;
* **`planning_is_bounded`**: planning ends, with a plan of its own for each pair of types and no plan
  deeper than the limit.
-/

namespace BeanMapping

/-! ## Depth -/

namespace MappingPlan

variable {p q c : MappingPlan} {depth : Nat}

/-- The plans of a tree, each at its depth; the root is at depth 1. -/
inductive HoldsAt : MappingPlan → Nat → MappingPlan → Prop
  | root (p : MappingPlan) : HoldsAt p 1 p
  | nested {p c q : MappingPlan} {depth : Nat} (mem : c ∈ p.nested) (holds : HoldsAt c depth q) :
      HoldsAt p (depth + 1) q

/-- The plans of a tree are those that it holds at some depth. -/
theorem mem_nodes_iff_holdsAt : q ∈ p.nodes ↔ ∃ depth, p.HoldsAt depth q := by
  constructor
  · induction p using inductionOn with
    | step p ih =>
      intro mem
      rcases mem_nodes_iff.mp mem with rfl | ⟨c, hc, mem⟩
      · exact ⟨1, .root q⟩
      · obtain ⟨depth, holds⟩ := ih c hc mem
        exact ⟨depth + 1, .nested hc holds⟩
  · rintro ⟨depth, holds⟩
    induction holds with
    | root p => exact mem_nodes_self p
    | nested hc _ ih => exact mem_nodes_iff.mpr (Or.inr ⟨_, hc, ih⟩)

end MappingPlan

namespace Planner

open MappingPlan (embedded)

variable {p : Planner} {deeper : Nat} {frames : List Frame} {m root : MappingMethod}
  {pairs : List CorrelatedProperty} {s t : PlanState} {xs : List (PlannedProperty MappingPlan)}
  {supply supply' : Supplier} {plan : MappingPlan}

/-! ## The recursion -/

/-- What a supplier of derived plans answers, in terms of a supplier for one method deeper. -/
def supplyNext (p : Planner) (supply : Supplier) : Supplier := fun inProgress m =>
  if p.config.maxNestingDepth ≤ inProgress.length then do
    Narrated.tell [p.limitEvent m]
    return none
  else
    Narrated.within ("Derived nested method: " ++ m.name) (some <$> p.planWith supply inProgress m)

/-- **The recursion of planning**, as an equation: a supplier answers in terms of itself. -/
def Follows (p : Planner) (supply : Supplier) : Prop := supply = p.supplyNext supply

/-- A mapping is searched for with the methods in progress, so the supplier is asked with these only. -/
theorem nestedMapping_congr (same : supply frames = supply' frames) :
    p.nestedMapping supply frames = p.nestedMapping supply' frames := by
  funext source target
  unfold nestedMapping
  rw [same]

/-- A method is planned over what the supplier answers one method deeper. -/
theorem planWith_congr (same : supply (frames ++ [frameOf m]) = supply' (frames ++ [frameOf m])) :
    p.planWith supply frames m = p.planWith supply' frames m := by
  unfold planWith
  have nested : p.nestedMapping supply (frames ++ [⟨m.sourceType, m.targetType, m.name⟩]) =
      p.nestedMapping supply' (frames ++ [⟨m.sourceType, m.targetType, m.name⟩]) :=
    nestedMapping_congr same
  simp only [nested]

/-- Two suppliers that follow the recursion give the same answers: by induction on how many more methods
may be in progress. -/
theorem Follows.unique (h : p.Follows supply) (h' : p.Follows supply') : supply = supply' := by
  have answers : ∀ (room : Nat) (frames : List Frame),
      p.config.maxNestingDepth - frames.length = room → supply frames = supply' frames := by
    intro room
    induction room with
    | zero =>
      intro frames hroom
      have full : p.config.maxNestingDepth ≤ frames.length := by omega
      rw [h, h']
      unfold supplyNext
      simp only [if_pos full]
    | succ room ih =>
      intro frames hroom
      have below : ¬ p.config.maxNestingDepth ≤ frames.length := by omega
      rw [h, h']
      funext m
      have deeper : p.planWith supply frames m = p.planWith supply' frames m :=
        planWith_congr (ih _ (by rw [List.length_append, List.length_singleton]; omega))
      unfold supplyNext
      simp only [if_neg below, deeper]
  funext frames
  exact answers _ frames rfl

/-- The supplier of the planner, for any methods in progress. -/
def deriveWithin (p : Planner) : Supplier := fun inProgress =>
  p.derive (p.config.maxNestingDepth - inProgress.length) inProgress

/-- The planner follows the recursion. -/
theorem follows_deriveWithin (p : Planner) : p.Follows p.deriveWithin := by
  funext frames m
  unfold supplyNext
  by_cases full : p.config.maxNestingDepth ≤ frames.length
  · have room : p.config.maxNestingDepth - frames.length = 0 := by omega
    rw [if_pos full]
    unfold deriveWithin
    rw [room, derive]
  · obtain ⟨room, hroom⟩ : ∃ room, p.config.maxNestingDepth - frames.length = room + 1 :=
      ⟨p.config.maxNestingDepth - frames.length - 1, by omega⟩
    have deeper : p.planWith (p.derive room) frames m = p.planWith p.deriveWithin frames m := by
      refine planWith_congr ?_
      have left : p.config.maxNestingDepth - (frames ++ [frameOf m]).length = room := by
        rw [List.length_append, List.length_singleton]
        omega
      unfold deriveWithin
      rw [left]
    rw [if_neg full, ← deeper]
    show p.derive (p.config.maxNestingDepth - frames.length) frames m = _
    rw [hroom, derive]

/-- **The recursion of planning has exactly one solution.** -/
theorem existsUnique_follows (p : Planner) : ∃! supply, p.Follows supply :=
  ⟨p.deriveWithin, p.follows_deriveWithin, fun _ h => h.unique p.follows_deriveWithin⟩

/-- **A root method is planned by the solution of the recursion.** -/
theorem planWith_eq_planRoot (h : p.Follows supply) (root : MappingMethod) :
    p.planWith supply [] root = p.planRoot root := by
  rw [h.unique p.follows_deriveWithin]
  exact planWith_congr rfl

/-! ## The tree -/

/-- **How deep embedded plans lie**: no deeper than methods may be nested in the method that embeds
them. -/
theorem Planned.depth_le (h : p.Planned deeper frames m pairs s xs t) (bare : Bare s) :
    ∀ x ∈ xs, ∀ c, x.plan? = some c → ∀ depth q, c.HoldsAt depth q → depth ≤ deeper := by
  induction h with
  | nil => exact fun x mem => absurd mem List.not_mem_nil
  | skip _ _ ih => exact ih bare
  | direct _ direct _ _ ih =>
    refine List.forall_mem_cons.mpr ⟨fun c hc => ?_, ih bare⟩
    exact absurd (direct.plan?_eq_none.symm.trans hc) (by simp)
  | known _ known _ _ ih =>
    refine List.forall_mem_cons.mpr ⟨fun c hc => ?_, ih bare⟩
    exact absurd ((known.plan?_eq_none bare).symm.trans hc) (by simp)
  | fresh _ _ _ opens planned _ ihInner ihRest =>
    have bareInner := opens.bare bare
    refine List.forall_mem_cons.mpr ⟨fun c hc depth q holds => ?_,
      ihRest (planned.bare bareInner).snoc⟩
    obtain rfl := Option.some.inj hc
    cases holds with
    | root => omega
    | nested mem holds =>
      obtain ⟨y, hy, embeds⟩ := List.mem_filterMap.mp mem
      exact Nat.succ_le_succ (ihInner bareInner y hy _ embeds _ _ holds)

/-- **A tree of one plan for each pair of types that is no deeper than a limit**: the root, and plans
that were derived for types that neither the root nor a declared method maps into a new value. -/
structure DerivesOnce (declared : List MappingMethod) (limit : Nat) (root : MappingMethod)
    (plan : MappingPlan) : Prop where
  nodup : ((embedded plan.properties).map MappingPlan.pair).Nodup
  not_root : ∀ q ∈ embedded plan.properties, q.pair ≠ (root.sourceType, root.targetType)
  not_declared : ∀ q ∈ embedded plan.properties, ∀ d ∈ declared, d.updatesTarget = false →
    q.pair ≠ (d.sourceType, d.targetType)
  depth_le : ∀ depth q, plan.HoldsAt depth q → depth ≤ limit

theorem derivesOnce_of_gives {types : Registry} {config : GeneratorConfig} {book : RuleBook}
    {declared : List MappingMethod} (positive : 1 ≤ config.maxNestingDepth) (nothing : s.derived = [])
    (h : ((ofRoot types config book declared root).planRoot root).Gives s plan t) :
    DerivesOnce declared config.maxNestingDepth root plan := by
  have tree := plannedTree_of_gives nothing h
  obtain ⟨pairs, u, xs, opens, planned, rfl⟩ := planRoot_gives h
  have none := opens.derived_eq.trans nothing
  have bare : Bare u := bare_of_nil none
  have nodup := tree.nodup
  rw [MappingPlan.postorder_eq_embedded, List.map_append, List.nodup_append] at nodup
  refine ⟨nodup.1, fun q mem => ?_, fun q mem d hd creates => ?_, fun depth q holds => ?_⟩
  · exact nodup.2.2 _ (List.mem_map_of_mem mem) _ List.mem_cons_self
  · exact ne_of_undeclared (planned.origin bare (contracted_of_nil none) q mem).nestable.undeclared hd creates
  · cases holds with
    | root => exact positive
    | @nested _ c _ depth mem holds =>
      obtain ⟨x, hx, embeds⟩ := List.mem_filterMap.mp mem
      have le : depth ≤ config.maxNestingDepth - 1 :=
        planned.depth_le bare x hx c embeds depth q holds
      omega

end Planner

/-! ## Planning a root -/

namespace Generator

open Planner (DerivesOnce)

/-- A generator lets methods be planned at all: its configuration was checked. -/
theorem one_le_maxNestingDepth (g : Generator) : 1 ≤ g.config.maxNestingDepth := by
  have valid := g.valid
  unfold GeneratorConfig.fault? at valid
  split at valid
  · cases valid
  · split at valid
    · cases valid
    · omega

/-- **Planning is bounded.** Its recursion has exactly one solution, by which every root method is
planned. In the tree that results each pair of types has at most one derived plan, none of them for the
types of the root or of a declared method that creates its target, and no plan lies deeper than the
limit. -/
theorem planning_is_bounded (g : Generator) (declared : List MappingMethod) (root : MappingMethod) :
    (∃! supply, (g.planner declared root).Follows supply) ∧
    (∀ supply, (g.planner declared root).Follows supply →
      (g.planner declared root).planWith supply [] root = (g.planner declared root).planRoot root) ∧
    ∀ shapes plan, (((g.planner declared root).planRoot root).run ⟨shapes, []⟩).result = .ok plan →
      DerivesOnce declared g.config.maxNestingDepth root plan := by
  refine ⟨Planner.existsUnique_follows _, fun _ h => Planner.planWith_eq_planRoot h root,
    fun shapes plan h => ?_⟩
  exact Planner.derivesOnce_of_gives g.one_le_maxNestingDepth rfl (Narrated.gives_of_result h)

/-! ### Shelves -/

/-- Shelves with boxes, which stand on a shelf and hold an item. Methods may be nested three deep. -/
def shelves : Generator where
  types := .ofList [
    ⟨⟨"Shelf"⟩, .bean, [], [.getter "getBox" ⟨"Box"⟩]⟩,
    ⟨⟨"ShelfDto"⟩, .bean, [], [.writer "setBox" ⟨"BoxDto"⟩]⟩,
    ⟨⟨"Box"⟩, .bean, [], [.getter "getItem" ⟨"Item"⟩, .getter "getShelf" ⟨"Shelf"⟩]⟩,
    ⟨⟨"BoxDto"⟩, .bean, [], [.writer "setItem" ⟨"ItemDto"⟩, .writer "setShelf" ⟨"ShelfDto"⟩]⟩,
    ⟨⟨"Item"⟩, .bean, [], [.getter "getName" ⟨"String"⟩]⟩,
    ⟨⟨"ItemDto"⟩, .bean, [], [.writer "setName" ⟨"String"⟩]⟩]
  config := { GeneratorConfig.default with maxNestingDepth := 3 }
  book := .empty
  valid := rfl

/-- Maps a shelf. -/
def mapShelf : MappingMethod where
  name := "shelf_to_dto"
  sourceType := ⟨"Shelf"⟩
  targetType := ⟨"ShelfDto"⟩

/-- What is planned for a shelf. -/
def shelfOutcome : Except Report MappingPlan :=
  (((shelves.planner [] mapShelf).planRoot mapShelf).run ⟨.empty, []⟩).result

/-- The tree of a shelf has a plan at the limit. -/
theorem planning_is_bounded_for_shelf : ∃ plan, shelfOutcome = .ok plan ∧
    plan.nodes.map MappingPlan.pair = [(⟨"Shelf"⟩, ⟨"ShelfDto"⟩), (⟨"Box"⟩, ⟨"BoxDto"⟩),
      (⟨"Item"⟩, ⟨"ItemDto"⟩)] ∧ DerivesOnce [] 3 mapShelf plan := by
  obtain ⟨plan, planned, evaluated⟩ := Narrated.exists_ok_of_any
    (show shelfOutcome.toOption.any (fun plan =>
      plan.nodes.map MappingPlan.pair == [(⟨"Shelf"⟩, ⟨"ShelfDto"⟩), (⟨"Box"⟩, ⟨"BoxDto"⟩),
        (⟨"Item"⟩, ⟨"ItemDto"⟩)]) = true by decide +kernel)
  obtain ⟨-, -, bounded⟩ := planning_is_bounded shelves [] mapShelf
  exact ⟨plan, planned, beq_iff_eq.mp evaluated, bounded .empty plan planned⟩

end Generator

end BeanMapping
