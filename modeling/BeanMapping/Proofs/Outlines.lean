import BeanMapping.Proofs.ExactDerivations
import BeanMapping.Proofs.NestedTargets
import BeanMapping.Proofs.ReachedMethods

/-!
# Outlines of plans

The outline of a plan is the plan without those that its conversions embed (`MappingPlan.bare`). Which
methods are in progress and which were derived before decides only where a plan is embedded: the pairs of a
method are settled one by one in their order, and a reference is to the method that is called for its types
(`Planner.Outlined`). So a method has one outline, wherever it is planned below a root.

Results:
* **`Planner.Outlined.bare_eq`**: a method has one outline;
* **`Planner.Planned.outlined`**, **`Planner.Planned.outlined_embedded`**: what is planned below a root that
  is underway has it.
-/

namespace BeanMapping

/-- The property without the plan that it may embed. -/
def PlannedProperty.bare (x : PlannedProperty MappingPlan) : PlannedProperty MappingPlan :=
  { x with conversion := x.conversion.map Conversion.bare }

/-- **The outline of a plan**: the plan without those that it embeds. -/
def MappingPlan.bare (p : MappingPlan) : MappingPlan :=
  { p with properties := p.properties.map PlannedProperty.bare }

namespace Planner

open MappingPlan (embedded allProperties)

variable {p : Planner} {shapes : ShapeView} {deeper : Nat} {frames : List Frame}
  {m root : MappingMethod} {pair : CorrelatedProperty} {pairs : List CorrelatedProperty}
  {s t : PlanState} {x y : PlannedProperty MappingPlan} {xs ys : List (PlannedProperty MappingPlan)}
  {source target : TypeName} {c d : Option (Conversion MappingPlan)} {plan plan' q : MappingPlan}
  {n : NestedMapping MappingPlan}

/-! ## Outlines -/

/-- A reference has the name of the method that is called for its types. -/
def CallsByName (p : Planner) (root : MappingMethod) (c : Option (Conversion MappingPlan)) : Prop :=
  ∀ n, c = some (.nested n) → n.method = p.calleeName root n.pair

/-- **The plan has the outline of the method**: its properties settle the pairs that can be written, one by
one, and refer to the methods that are called. -/
def Outlined (p : Planner) (root : MappingMethod) (shapes : ShapeView) (m : MappingMethod)
    (plan : MappingPlan) : Prop :=
  ∃ pairs xs, p.OpensOver shapes m pairs ∧ List.Forall₂ (p.Settles m) (pairs.filter (p.writable m)) xs ∧
    (∀ x ∈ xs, p.CallsByName root x.conversion) ∧ plan = planOf m xs

/-- Conversions between the same types that refer to what is called have the same outline. -/
theorem Resolves.bare_eq (h : p.Resolves source target c) (h' : p.Resolves source target d)
    (calls : p.CallsByName root c) (calls' : p.CallsByName root d) :
    c.map Conversion.bare = d.map Conversion.bare := by
  rcases h.eq_or_references h' with rfl | ⟨n, n', rfl, rfl, pair_eq, failures_eq⟩
  · rfl
  · have method_eq : n.method = n'.method := by rw [calls n rfl, calls' n' rfl, pair_eq]
    obtain ⟨source_eq, target_eq⟩ := Prod.mk.inj pair_eq
    have same : n.bare = n'.bare := by
      unfold NestedMapping.bare
      rw [method_eq, source_eq, target_eq, failures_eq]
    show some (Conversion.nested n.bare) = some (Conversion.nested n'.bare)
    rw [same]

/-- Properties that settle a pair and refer to what is called have the same outline. -/
theorem Settles.bare_eq (h : p.Settles m pair x) (h' : p.Settles m pair y)
    (calls : p.CallsByName root x.conversion) (calls' : p.CallsByName root y.conversion) :
    x.bare = y.bare := by
  obtain ⟨source, target, resolves, resolves'⟩ := h.resolves_both h'
  unfold PlannedProperty.bare
  rw [h.source_eq, h'.source_eq, h.target_eq, h'.target_eq, h.action_eq h',
    resolves.bare_eq resolves' calls calls']

theorem map_bare_eq (h : List.Forall₂ (p.Settles m) pairs xs) (h' : List.Forall₂ (p.Settles m) pairs ys)
    (calls : ∀ x ∈ xs, p.CallsByName root x.conversion)
    (calls' : ∀ y ∈ ys, p.CallsByName root y.conversion) :
    xs.map PlannedProperty.bare = ys.map PlannedProperty.bare := by
  induction h generalizing ys with
  | nil =>
    cases h'
    rfl
  | cons settles _ ih =>
    cases h' with
    | cons settles' rest' =>
      rw [List.forall_mem_cons] at calls calls'
      rw [List.map_cons, List.map_cons, settles.bare_eq settles' calls.1 calls'.1,
        ih rest' calls.2 calls'.2]

/-- **A method has one outline.** -/
theorem Outlined.bare_eq (h : p.Outlined root shapes m plan) (h' : p.Outlined root shapes m plan') :
    plan.bare = plan'.bare := by
  obtain ⟨pairs, xs, opens, settled, calls, rfl⟩ := h
  obtain ⟨_, ys, opens', settled', calls', rfl⟩ := h'
  obtain rfl := opens.unique opens'
  unfold MappingPlan.bare planOf
  rw [map_bare_eq settled settled' calls calls']

/-! ## Roots that are underway -/

/-- **A root is underway**: it is in progress, the methods in progress have the names by which they are
called, and the recorded methods are derived ones. These are all for different types. -/
structure Underway (p : Planner) (root : MappingMethod) (frames : List Frame) (s : PlanState) :
    Prop where
  root_mem : (frameOf root).pair ∈ frames.map Frame.pair
  named : ∀ f ∈ frames, p.declaredMapping? f.source f.target = none → f.method = p.calleeName root f.pair
  derived : ∀ n ∈ s.derived, p.declaredMapping? n.sourceType n.targetType = none ∧
    n = p.derivedReference n.sourceType n.targetType
  apart : Apart frames s

theorem Underway.bare (h : p.Underway root frames s) : Bare s := by
  intro n mem
  rw [(h.derived n mem).2]
  rfl

theorem Underway.contracted (h : p.Underway root frames s) : p.Contracted s := by
  intro n mem
  rw [(h.derived n mem).2]
  rfl

/-- A derived method is called by its name: nothing else is declared for its types, and they are not those
of the root. -/
theorem calleeName_of_derived (undeclared : p.declaredMapping? source target = none)
    (other : (source, target) ≠ (frameOf root).pair) :
    p.calleeName root (source, target) = derivedName source target := by
  unfold calleeName
  rw [if_neg fun own => other own.1]
  exact creatorName_of_undeclared undeclared

/-- Nothing that was recorded is for the types of the root. -/
theorem Underway.ne_root (h : p.Underway root frames s) (mem : n ∈ s.derived) :
    n.pair ≠ (frameOf root).pair :=
  fun same => (List.nodup_append.mp h.apart).2.2 _ (List.mem_map_of_mem mem) _ h.root_mem same

/-- A root is underway as soon as it is opened. -/
theorem underway_root (opens : p.Opens root s pairs t) (nothing : s.derived = []) :
    p.Underway root [frameOf root] t := by
  have none : t.derived = [] := opens.derived_eq.trans nothing
  refine ⟨List.mem_singleton_self _, fun f mem undeclared => ?_, ?_, ?_⟩
  · obtain rfl := List.mem_singleton.mp mem
    exact (if_pos ⟨rfl, undeclared⟩).symm
  · rw [none]
    exact fun n mem => absurd mem List.not_mem_nil
  · unfold Apart
    rw [none]
    exact List.nodup_singleton _

/-- It is still underway when a method is opened that has to be derived. -/
theorem Underway.inside (h : p.Underway root frames s) (fresh : p.Fresh frames s.derived source target)
    (opens : p.Opens (p.derivedMethod source target) s pairs t) :
    p.Underway root (frames ++ [frameOf (p.derivedMethod source target)]) t := by
  have other : (source, target) ≠ (frameOf root).pair :=
    fun same => fresh.not_in_progress (same ▸ h.root_mem)
  refine ⟨?_, ?_, ?_, fresh.apart h.apart opens⟩
  · rw [List.map_append]
    exact List.mem_append_left _ h.root_mem
  · refine List.forall_mem_append.mpr ⟨h.named, List.forall_mem_singleton.mpr fun undeclared => ?_⟩
    exact (calleeName_of_derived undeclared other).symm
  · rw [opens.derived_eq]
    exact h.derived

/-- It is still underway when the last method is no longer in progress, unless this is the root. -/
theorem Underway.outside {f : Frame} (h : p.Underway root (frames ++ [f]) s)
    (root_mem : (frameOf root).pair ∈ frames.map Frame.pair) : p.Underway root frames s := by
  refine ⟨root_mem, fun g mem => h.named g (List.mem_append_left _ mem), h.derived, ?_⟩
  have apart := h.apart
  unfold Apart at apart ⊢
  rw [List.map_append, ← List.append_assoc] at apart
  exact (List.nodup_append.mp apart).1

theorem Underway.of_derived_eq (h : p.Underway root frames s) (same : t.derived = s.derived) :
    p.Underway root frames t := by
  refine ⟨h.root_mem, h.named, ?_, ?_⟩
  · rw [same]
    exact h.derived
  · unfold Apart
    rw [same]
    exact h.apart

/-- It is still underway when nothing is recorded. -/
theorem Underway.forget (h : p.Underway root frames s) : p.Underway root frames { s with derived := [] } := by
  refine ⟨h.root_mem, h.named, fun n mem => absurd mem List.not_mem_nil, ?_⟩
  have apart := h.apart
  unfold Apart at apart ⊢
  exact (List.nodup_append.mp apart).2.1

/-- What was recorded is not in progress, and may be derived again when nothing is recorded. -/
theorem Underway.fresh_of_forget (h : p.Underway root frames s) (mem : n ∈ s.derived)
    (nestable : p.Nestable n.sourceType n.targetType) : p.Fresh frames [] n.sourceType n.targetType :=
  ⟨nestable, fun inProgress =>
    (List.nodup_append.mp h.apart).2.2 _ (List.mem_map_of_mem mem) _ inProgress rfl, List.not_mem_nil⟩

/-- It is still underway when pairs were planned. -/
theorem Planned.underway (h : p.Planned deeper frames m pairs s xs t)
    (underway : p.Underway root frames s) : p.Underway root frames t := by
  refine ⟨underway.root_mem, underway.named, ?_, h.nodup underway.apart⟩
  rw [h.derived_eq underway.bare, List.forall_mem_append, List.forall_mem_map]
  refine ⟨underway.derived, fun q mem => ?_⟩
  have isDerived := (h.hasDerivation underway.bare q mem).isDerived
  refine ⟨(h.origin underway.bare underway.contracted q mem).nestable.undeclared, ?_⟩
  unfold MappingPlan.reference
  rw [isDerived.method_eq, isDerived.declaredFailures_eq]
  rfl

/-! ## What is planned -/

/-- **Every reference is to what is called for its types**: it is to a declared method, to one in progress
or to one that was recorded. -/
theorem Planned.callsByName (h : p.Planned deeper frames m pairs s xs t)
    (underway : p.Underway root frames s) {m' : MappingMethod} (mem : x ∈ allProperties xs)
    (settles : p.Settles m' pair x) : p.CallsByName root x.conversion := by
  have after := h.underway underway
  intro n refers
  obtain ⟨source, target, -, converts, -⟩ := settles.resolves
  rw [refers] at converts
  cases converts with
  | direct direct => cases direct
  | declared _ declared =>
    rw [pair_of_declaredMapping? declared]
    unfold calleeName
    rw [if_neg fun own => absurd (declared.symm.trans own.2) (by simp)]
    exact (creatorName_of_declared declared).symm
  | supplied nestable pair_eq =>
    obtain ⟨rfl, rfl⟩ := Prod.mk.inj pair_eq
    rcases h.accounted underway.bare x mem n (PlannedProperty.nested?_eq_some_iff.mpr refers) with
      ⟨d, hd, creates, rfl⟩ | inProgress | recorded
    · exact absurd rfl (ne_of_undeclared nestable.undeclared hd creates)
    · obtain ⟨f, hf, made⟩ := List.mem_map.mp inProgress
      have method_eq : f.method = n.method := congrArg NestedMapping.method made
      have types : f.pair = n.pair := congrArg NestedMapping.pair made
      obtain ⟨source_eq, target_eq⟩ := Prod.mk.inj types
      rw [← method_eq, ← types]
      refine after.named f hf ?_
      rw [source_eq, target_eq]
      exact nestable.undeclared
    · have made := congrArg NestedMapping.method (after.derived _ recorded).2
      exact made.trans (calleeName_of_derived nestable.undeclared (after.ne_root (n := n.bare) recorded)).symm

/-- **What is planned for the pairs of a method has its outline.** -/
theorem Planned.outlined (h : p.Planned deeper frames m pairs s xs t)
    (underway : p.Underway root frames s) (opens : p.OpensOver shapes m pairs) :
    p.Outlined root shapes m (planOf m xs) := by
  have settled := h.settled underway.contracted
  refine ⟨pairs, xs, opens, settled, fun x mem => ?_, rfl⟩
  obtain ⟨pair, -, settles⟩ := (h.fulfils underway.contracted).settled x mem
  exact h.callsByName underway (MappingPlan.mem_allProperties_iff.mpr (Or.inl mem)) settles

/-- **Each embedded plan has the outline of the method that is derived for its types.** -/
theorem Planned.outlined_embedded (h : p.Planned deeper frames m pairs s xs t)
    (underway : p.Underway root frames s) (mem : q ∈ embedded xs) :
    p.Outlined root (p.view s) (p.derivedMethod q.sourceType q.targetType) q := by
  obtain ⟨-, _, _, inner, _, ys, _, opens, contracted, planned, made⟩ :=
    h.origin underway.bare underway.contracted q mem
  refine ⟨inner, ys, opens, planned.settled contracted, fun y hy => ?_, made⟩
  obtain ⟨pair, -, settles⟩ := (planned.fulfils contracted).settled y hy
  refine h.callsByName underway (MappingPlan.mem_allProperties_iff.mpr (Or.inr ⟨q, mem, ?_⟩)) settles
  rw [made]
  exact hy

end Planner

end BeanMapping
