import BeanMapping.Compiled.Run
import BeanMapping.Proofs.Outcome

/-!
# Where the errors of a run come from

A run fails because a value has not the shape that its plan needs, or because a conversion fails. So
whatever holds of the errors of some shape, and of those of every conversion of a plan, holds of the
errors of a run of the plan.

The lemmas go from the elements of a collection over one property to all properties of a method, each
for any predicate `P` of errors.

What a property converts of a source value are the elements of an array, or the value itself, as its
action says (`Carries`).

Result:
* **`failsOnly_runWith`**: the errors of a method are errors of shape or errors of its conversions.
-/

namespace BeanMapping.CompiledMapping

variable {m : CompiledMapping} {depth : Nat} {below : RunsBelow depth} {P : ExecutionError → Prop}
  {plan : MappingPlan} {x : PlannedProperty MappingPlan}

/-- The predicate holds of the errors about the shape of values. -/
structure OfShape (P : ExecutionError → Prop) : Prop where
  notAnObject : ∀ t kind, P (.notAnObject t kind)
  notACollection : ∀ property, P (.notACollection property)

/-- The conversions of a property fail with nothing but errors of `P`. -/
def Converts (m : CompiledMapping) (below : RunsBelow depth) (x : PlannedProperty MappingPlan)
    (P : ExecutionError → Prop) : Prop :=
  ∀ v h, (m.convert below x.conversion v h : Running Members Json).FailsOnly P

/-- What a property converts of a source value. -/
def Carries (x : PlannedProperty MappingPlan) (v : Json) (us : List Json) : Prop :=
  if x.action.isElementWise then v = .arr us else us = [v]

/-- The elements of an array are its items. -/
theorem elements_gives {σ : Type} {items : List Json} (property : String)
    (h : (Json.arr items).depth < depth) (s : σ) :
    ∃ hs, (elements property (.arr items) h : Running σ _).Gives s ⟨items, hs⟩ s :=
  ⟨_, Narrated.gives_pure_iff.mpr ⟨rfl, rfl⟩⟩

theorem failsOnly_elements (shape : OfShape P) (property : String) (v : Json) (h : v.depth < depth) :
    (elements property v h : Running Members _).FailsOnly P := by
  unfold elements
  split
  · exact Narrated.failsOnly_pure _
  · exact Narrated.failsOnly_reject (shape.notACollection property)

theorem failsOnly_append (shape : OfShape P) (name : String) (w : Json) :
    (append name w).FailsOnly P := by
  unfold append
  refine Narrated.failsOnly_bind Narrated.failsOnly_get fun fields => ?_
  split
  · exact Narrated.failsOnly_modify _
  · exact Narrated.failsOnly_reject (shape.notACollection name)

theorem failsOnly_convertAll (converts : m.Converts below x P) :
    ∀ (items : List Json) (h : ∀ v ∈ items, v.depth < depth),
      (m.convertAll below x.conversion items h : Running Members _).FailsOnly P
  | [], _ => Narrated.failsOnly_pure _
  | v :: rest, h => by
    unfold convertAll
    refine Narrated.failsOnly_bind (converts v _) fun first => ?_
    exact Narrated.failsOnly_bind (failsOnly_convertAll converts rest _) fun _ =>
      Narrated.failsOnly_pure _

theorem failsOnly_appendAll (shape : OfShape P) (converts : m.Converts below x P)
    (signal : List Step) :
    ∀ (items : List Json) (h : ∀ v ∈ items, v.depth < depth),
      (m.appendAll below x signal items h).FailsOnly P
  | [], _ => Narrated.failsOnly_pure _
  | v :: rest, h => by
    unfold appendAll
    refine Narrated.failsOnly_bind (converts v _) fun w => ?_
    refine Narrated.failsOnly_bind (failsOnly_append shape x.target.name w) fun _ => ?_
    exact Narrated.failsOnly_bind (Narrated.failsOnly_tell signal) fun _ =>
      failsOnly_appendAll shape converts signal rest _

/-- A property fails with errors of shape or with those of its conversions. -/
theorem failsOnly_apply (shape : OfShape P) (converts : m.Converts below x P) (v : Json)
    (h : v.depth < depth) : (m.apply below plan x v h).FailsOnly P := by
  unfold apply
  split
  · exact Narrated.failsOnly_bind (converts v h) fun w =>
      Narrated.failsOnly_bind (Narrated.failsOnly_modify _) fun _ => Narrated.failsOnly_tell _
  · exact Narrated.failsOnly_bind (converts v h) fun w =>
      Narrated.failsOnly_bind (Narrated.failsOnly_modify _) fun _ => Narrated.failsOnly_tell _
  · refine Narrated.failsOnly_bind (failsOnly_elements shape _ v h) fun items => ?_
    refine Narrated.failsOnly_bind (failsOnly_convertAll converts _ _) fun ws => ?_
    exact Narrated.failsOnly_bind (Narrated.failsOnly_modify _) fun _ => Narrated.failsOnly_tell _
  · refine Narrated.failsOnly_bind (Narrated.failsOnly_modify _) fun _ => ?_
    refine Narrated.failsOnly_bind (failsOnly_elements shape _ v h) fun items => ?_
    exact failsOnly_appendAll shape converts _ _ _
  · refine Narrated.failsOnly_bind (Narrated.failsOnly_modify _) fun _ => ?_
    refine Narrated.failsOnly_bind (failsOnly_elements shape _ v h) fun items => ?_
    refine Narrated.failsOnly_bind (failsOnly_appendAll shape converts _ _ _) fun _ => ?_
    exact Narrated.failsOnly_tell _

theorem failsOnly_applyFrom {source : Members} {below : RunsBelow (Json.obj source).depth}
    (shape : OfShape P) (converts : m.Converts below x P) :
    (m.applyFrom plan source below x).FailsOnly P := by
  unfold applyFrom
  split
  · exact Narrated.failsOnly_tell _
  · exact Narrated.failsOnly_tell _
  · exact failsOnly_apply shape converts _ _

theorem failsOnly_applyAll {source : Members} {below : RunsBelow (Json.obj source).depth}
    (shape : OfShape P) :
    ∀ (xs : List (PlannedProperty MappingPlan)), (∀ x ∈ xs, m.Converts below x P) →
      (m.applyAll plan source below xs).FailsOnly P
  | [], _ => Narrated.failsOnly_pure _
  | x :: rest, converts => by
    unfold applyAll
    refine Narrated.failsOnly_bind (failsOnly_applyFrom shape (converts x List.mem_cons_self))
      fun _ => ?_
    exact failsOnly_applyAll shape rest fun y hy => converts y (List.mem_cons_of_mem x hy)

theorem failsOnly_overTarget (shape : OfShape P) {t : TypeName} {run : Running Members Unit}
    (h : run.FailsOnly P) : (overTarget t run).FailsOnly P := by
  unfold overTarget
  refine Narrated.failsOnly_bind Narrated.failsOnly_get fun target => ?_
  split
  · exact Narrated.failsOnly_focus h
  · exact Narrated.failsOnly_focus h
  · exact Narrated.failsOnly_reject (shape.notAnObject _ _)

/-- **The errors of a method are errors of shape or errors of its conversions.** -/
theorem failsOnly_runWith {method : String} {source : Json} {below : RunsBelow source.depth}
    (shape : OfShape P) (found : m.plans.find? method = some plan)
    (converts : ∀ x ∈ plan.properties, m.Converts below x P) :
    (m.runWith method source below).FailsOnly P := by
  unfold runWith
  rw [found]
  cases source with
  | obj fields => exact failsOnly_overTarget shape (failsOnly_applyAll shape _ converts)
  | _ => exact Narrated.failsOnly_reject (shape.notAnObject _ _)

end BeanMapping.CompiledMapping
