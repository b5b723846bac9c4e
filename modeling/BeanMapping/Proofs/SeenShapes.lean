import BeanMapping.Proofs.ShapeViews

/-!
# Planning goes by what it sees

A planner looks at the shapes that introspection gives it, and at the methods that were derived. From two
states in which these are the same, each step of planning comes to the same result, be it a report, and in
the states that it leaves they are the same again. So what else a cache holds, and what was told or was
rejected while it was filled, makes no difference.

Results:
* **`Planner.planRoot_agrees`**: the planning of a root;
* **`Generator.plan_agrees`**, **`Generator.plan_result_eq_of_view`**: a generator plans a method over two
  caches that show the same shapes alike.
-/

namespace BeanMapping

namespace Planner

open Narrated

variable {p : Planner} {m : MappingMethod} {frames : List Frame}
  {nested : TypeName → TypeName → Plans (Option (NestedMapping MappingPlan))} {supply : Supplier}

theorem introspect_agrees (t : TypeName) : (p.introspect t).Agrees (p.introspect t) p.SameSight := by
  unfold introspect
  refine agrees_get_bind fun s s' sight => ?_
  refine (agrees_tell _ _).bind fun _ => (agrees_modify fun u u' seen => ?_).bind fun _ => ?_
  · have here := Introspection.introspect_cacheAfter p.types p.inflector u.shapes t
    have there := Introspection.introspect_cacheAfter p.types p.inflector u'.shapes t
    exact ⟨there.trans (seen.1.trans here.symm), seen.2⟩
  · exact agrees_ofExcept (congrFun sight.1 t).symm

theorem introspectTarget_agrees (t : TypeName) :
    (p.introspectTarget t).Agrees (p.introspectTarget t) p.SameSight := by
  unfold introspectTarget
  exact (introspect_agrees t).bind fun shape => agrees_ofExcept rfl

theorem correlate_agrees (source target : BeanShape) (o : PropertyOptions) :
    (p.correlate source target o).Agrees (p.correlate source target o) p.SameSight := by
  unfold correlate
  exact (agrees_tell _ _).bind fun _ => agrees_ofExcept rfl

section Pairs

variable (h : ∀ source target, (nested source target).Agrees (nested source target) p.SameSight)
include h

theorem resolve_agrees (property : String) (source target : TypeName) (hint : Option TypeName) :
    (Resolution.resolve p.types p.book nested property source target hint).Agrees
      (Resolution.resolve p.types p.book nested property source target hint) p.SameSight := by
  unfold Resolution.resolve
  refine (agrees_ofExcept rfl).bind fun target => (agrees_tell _ _).bind fun _ => ?_
  unfold Resolution.follow
  split
  · exact agrees_pure _
  · exact agrees_pure _
  · exact agrees_pure _
  · exact agrees_pure _
  · refine (h source target).bind fun n => ?_
    cases n with
    | none => exact agrees_reject _
    | some n => exact (agrees_tell _ _).bind fun _ => agrees_pure _

theorem planPair_agrees (pair : CorrelatedProperty) :
    (p.planPair nested m pair).Agrees (p.planPair nested m pair) p.SameSight := by
  unfold planPair
  refine (agrees_tell _ _).bind fun _ => ?_
  split
  · exact agrees_pure _
  · refine ((resolve_agrees h _ _ _ _).within _).bind fun conversion => ?_
    exact (agrees_tell _ _).bind fun _ => agrees_pure _

theorem planPairs_agrees : ∀ pairs : List CorrelatedProperty,
    (p.planPairs nested m pairs).Agrees (p.planPairs nested m pairs) p.SameSight
  | [] => agrees_pure _
  | pair :: rest => by
    unfold planPairs
    refine (planPair_agrees h pair).bind fun first => ?_
    exact (planPairs_agrees rest).bind fun others => agrees_pure _

end Pairs

section Supply

variable (h : ∀ frames m, (supply frames m).Agrees (supply frames m) p.SameSight)
include h

/-- A mapping is found among the derived ones of both states, or of neither. -/
theorem nestedMapping_agrees (source target : TypeName) :
    (p.nestedMapping supply frames source target).Agrees (p.nestedMapping supply frames source target)
      p.SameSight := by
  unfold nestedMapping
  split
  · exact agrees_pure _
  · split
    · exact agrees_pure _
    · split
      · exact (agrees_tell _ _).bind fun _ => agrees_pure _
      · refine agrees_get_bind fun s s' sight => ?_
        rw [sight.2]
        split
        · exact (agrees_tell _ _).bind fun _ => agrees_pure _
        · refine (h frames (p.derivedMethod source target)).bind fun answer => ?_
          cases answer with
          | none => exact agrees_pure _
          | some plan =>
            refine (agrees_modify fun s s' sight => ?_).bind fun _ => agrees_pure _
            exact ⟨sight.1, congrArg (· ++ [_]) sight.2⟩

theorem planWith_agrees :
    (p.planWith supply frames m).Agrees (p.planWith supply frames m) p.SameSight := by
  unfold planWith
  refine (introspect_agrees _).bind fun source => ?_
  refine (introspectTarget_agrees _).bind fun target => ?_
  refine (correlate_agrees source target _).bind fun pairs => ?_
  refine (planPairs_agrees (nestedMapping_agrees h) pairs).bind fun properties => ?_
  exact (agrees_tell _ _).bind fun _ => agrees_pure _

end Supply

/-- Derived plans agree: by induction on how much deeper methods may be nested. -/
theorem derive_agrees : ∀ (deeper : Nat) (frames : List Frame) (m : MappingMethod),
    (p.derive deeper frames m).Agrees (p.derive deeper frames m) p.SameSight
  | 0, _, _ => by
    unfold derive
    exact (agrees_tell _ _).bind fun _ => agrees_pure _
  | deeper + 1, _, _ => by
    unfold derive
    exact ((planWith_agrees (derive_agrees deeper)).map some).within _

/-- **A root is planned by what is seen.** -/
theorem planRoot_agrees (root : MappingMethod) :
    (p.planRoot root).Agrees (p.planRoot root) p.SameSight :=
  planWith_agrees (derive_agrees _)

end Planner

/-! ## Generators -/

namespace Generator

open Narrated

variable {g : Generator} {declared : List MappingMethod} {m : MappingMethod}
  {shapes shapes' : ShapeCache}

/-- Verification does not look at the shapes. -/
theorem verify_agrees {σ : Type} {R : σ → σ → Prop} (types : Registry) (method : String)
    (plan : MappingPlan) :
    (Contract.verify types method plan).Agrees (Contract.verify types method plan) R := by
  unfold Contract.verify
  refine ((agrees_apart _ _).within _).bind fun checked => ?_
  exact (agrees_tell _ _).bind fun _ => agrees_pure _

/-- **A generator plans a method by the shapes that its cache shows**, and keeps caches alike that show the
same. -/
theorem plan_agrees :
    (g.plan declared m).Agrees (g.plan declared m) fun c c' => g.view c' = g.view c := by
  have planned := Planner.planRoot_agrees (p := g.planner declared m) m
  unfold plan
  refine Agrees.bind (Agrees.within ?_ _) fun plan => verify_agrees _ _ _
  exact planned.focus (fun _ _ view => ⟨view, rfl⟩) fun _ _ _ _ sight _ => sight.1

/-- **Over caches that show the same shapes planning comes to the same**, be it a report. -/
theorem plan_result_eq_of_view (view : g.view shapes' = g.view shapes) :
    ((g.plan declared m).run shapes').result = ((g.plan declared m).run shapes).result :=
  ((plan_agrees shapes shapes' view).1).symm

end Generator

end BeanMapping
