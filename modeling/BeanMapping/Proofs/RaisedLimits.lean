import BeanMapping.Proofs.ExactDerivations
import BeanMapping.Proofs.NestingDepth
import BeanMapping.Proofs.SeenShapes

/-!
# Raised limits

At the limit a method is not derived, and nothing else can convert the value that it was asked for. So
planning that succeeds has met no limit: each derived method lies in room that was left, and in more room
the same methods are derived.

Results:
* **`Planner.Planned.raised`**: what is planned with some room is planned with more, by induction on the
  derivation;
* **`Generator.plan_of_higher_limit`**: a method that is accepted is accepted under every higher limit,
  with the same verified plan.
-/

namespace BeanMapping

namespace Planner

variable {p : Planner} {deeper room limit : Nat} {frames : List Frame} {m root : MappingMethod}
  {pairs : List CorrelatedProperty} {source target : TypeName} {s t : PlanState}
  {xs : List (PlannedProperty MappingPlan)} {n : NestedMapping MappingPlan} {plan : MappingPlan}

/-- The planner with another limit. -/
def withLimit (p : Planner) (limit : Nat) : Planner := p.revised limit p.contract

theorem Known.withLimit (h : p.Known frames s.derived source target n) :
    (p.withLimit limit).Known frames s.derived source target n := by
  cases h with
  | declared route_eq declared => exact .declared route_eq declared
  | inProgress nestable mem source_eq target_eq =>
    exact .inProgress nestable.revised mem source_eq target_eq
  | again nestable mem pair_eq => exact .again nestable.revised mem pair_eq

/-- **What is planned with some room is planned with more**, under whatever limit. -/
theorem Planned.raised (h : p.Planned deeper frames m pairs s xs t) (le : deeper ≤ room) :
    (p.withLimit limit).Planned room frames m pairs s xs t := by
  induction h generalizing room with
  | nil => exact .nil
  | skip unwritable _ ih => exact .skip unwritable (ih le)
  | direct wants direct writes _ ih => exact .direct wants.revised direct.revised writes (ih le)
  | known wants known writes _ ih => exact .known wants.revised known.withLimit writes (ih le)
  | fresh wants fresh writes opens _ _ ihInner ihRest =>
    -- a method was derived, so there was room for it
    obtain ⟨less, rfl⟩ : ∃ less, room = less + 1 := ⟨room - 1, by omega⟩
    exact .fresh wants.revised ⟨fresh.toNestable.revised, fresh.not_in_progress, fresh.not_derived⟩ writes
      opens.revised (ihInner (Nat.le_of_succ_le_succ le)) (ihRest le)

/-- A root is planned alike under a higher limit. -/
theorem planRoot_gives_of_higher_limit (higher : p.config.maxNestingDepth ≤ limit)
    (nothing : s.derived = []) (h : (p.planRoot root).Gives s plan t) :
    ((p.withLimit limit).planRoot root).Gives s plan t := by
  obtain ⟨pairs, u, xs, opens, planned, rfl⟩ := planRoot_gives h
  have room : p.config.maxNestingDepth - 1 ≤ limit - 1 := by omega
  exact (planRoot_gives_iff nothing).mpr ⟨pairs, u, xs, opens.revised, planned.raised room, rfl⟩

end Planner

namespace Generator

open Narrated

/-- The generator with a higher limit. -/
def withLimit (g : Generator) (limit : Nat) (higher : g.config.maxNestingDepth ≤ limit) : Generator :=
  { g with
    config := { g.config with maxNestingDepth := limit }
    valid := by
      have positive := g.one_le_maxNestingDepth
      have nonzero : limit ≠ 0 := by omega
      have valid := g.valid
      unfold GeneratorConfig.fault? at valid ⊢
      split at valid
      · cases valid
      · rename_i words
        rw [words]
        exact if_neg nonzero }

/-- **Raising the nesting limit is harmless.** A method that is accepted is accepted under every higher
limit, with the same verified plan: the same tree, and the same checked failures. The caches that the two
were planned over show the same shapes. -/
theorem plan_of_higher_limit {g : Generator} {declared : List MappingMethod} {m : MappingMethod}
    {shapes shapes' : ShapeCache} {v : VerifiedPlan} {limit : Nat}
    (higher : g.config.maxNestingDepth ≤ limit) (view : g.view shapes' = g.view shapes)
    (accepted : ((g.plan declared m).run shapes).result = .ok v) :
    (((g.withLimit limit higher).plan declared m).run shapes').result = .ok v := by
  obtain ⟨w, planned, -⟩ := plan_gives (gives_of_result accepted)
  have raised : (((g.withLimit limit higher).planner declared m).planRoot m).Gives ⟨shapes, []⟩ v.plan w :=
    Planner.planRoot_gives_of_higher_limit (p := g.planner declared m) higher rfl planned
  have seen : (g.withLimit limit higher).view shapes' = (g.withLimit limit higher).view shapes := view
  rw [plan_result_of_gives planned] at accepted
  rw [plan_result_eq_of_view seen, plan_result_of_gives raised]
  exact accepted

/-- What is planned for a shelf, over some shapes. -/
def shelfPlanned (shapes : ShapeCache) : Narration Report Event ShapeCache VerifiedPlan :=
  (shelves.plan [] mapShelf).run shapes

/-- The methods of a shelf are nested as deep as they may be. Under each higher limit, over the shapes that
are left, the plan is the same. -/
theorem plan_of_higher_limit_for_shelf : ∃ v, (shelfPlanned .empty).result = .ok v ∧
    v.plan.nodes.length = 3 ∧ ∀ limit, (higher : 3 ≤ limit) →
      (((shelves.withLimit limit higher).plan [] mapShelf).run (shelfPlanned .empty).state).result = .ok v := by
  obtain ⟨v, accepted, evaluated⟩ := exists_ok_of_any
    (show (shelfPlanned .empty).result.toOption.any (fun v => v.plan.nodes.length == 3) = true by
      decide +kernel)
  unfold shelfPlanned at accepted ⊢
  have left : (shelves.plan [] mapShelf).Keeps fun shapes => shelves.view shapes = shelves.view .empty :=
    view_plan _
  refine ⟨v, accepted, beq_iff_eq.mp evaluated, fun limit higher => ?_⟩
  exact plan_of_higher_limit higher (left .empty rfl) accepted

end Generator

end BeanMapping
