import BeanMapping.Generator
import BeanMapping.Proofs.DerivedMethods
import BeanMapping.Proofs.Verification

/-!
# Accepted methods

What a generator that accepts a method has planned and verified.

Result:
* **`accepted_of_gives`**: the plan is a planned tree in which every plan honours its declarations.
-/

namespace BeanMapping.Generator

/-- The planner of a root method, for a generator. -/
def planner (g : Generator) (declared : List MappingMethod) (m : MappingMethod) : Planner :=
  .ofRoot g.types g.config g.book declared m

/-- The plan of a method was accepted. -/
structure Accepted (g : Generator) (declared : List MappingMethod) (m : MappingMethod)
    (v : VerifiedPlan) : Prop where
  planned : (g.planner declared m).PlannedTree m v.plan
  verified : Contract.Verified g.types v.plan v

variable {g : Generator} {declared : List MappingMethod} {m : MappingMethod} {v : VerifiedPlan}
  {s t : ShapeCache}

/-- What a generator accepts is what its planner made of the method, verified. -/
theorem plan_gives (h : (g.plan declared m).Gives s v t) :
    ∃ w, ((g.planner declared m).planRoot m).Gives ⟨s, []⟩ v.plan w ∧
      Contract.Verified g.types v.plan v := by
  unfold plan at h
  obtain ⟨p, u, hp, hv⟩ := Narrated.gives_bind_iff.mp h
  rw [Narrated.gives_within_iff, Narrated.gives_focus_iff] at hp
  obtain ⟨w, hp, -⟩ := hp
  have verified := Contract.verified_of_gives hv
  obtain rfl := verified.plan_eq
  exact ⟨w, hp, verified⟩

/-- **What a generator accepts was planned and verified.** -/
theorem accepted_of_gives (h : (g.plan declared m).Gives s v t) : g.Accepted declared m v := by
  obtain ⟨w, hp, verified⟩ := plan_gives h
  exact ⟨Planner.plannedTree_of_gives rfl hp, verified⟩

/-- Every plan of an accepted tree has the failures of the root. -/
theorem Accepted.declaredFailures_eq (h : g.Accepted declared m v) :
    ∀ q ∈ v.plan.nodes, q.declaredFailures = m.declaredFailures :=
  h.planned.declaredFailures_eq rfl

end BeanMapping.Generator
