import BeanMapping.Proofs.Accepted
import BeanMapping.Proofs.DerivedMethods
import Mathlib.Data.List.Perm.Basic

/-!
# Warnings of lost order

Which properties of a plan tree lose the order of their source, and the warnings that say so. The action of a
pair is chosen twice: before its conversion is resolved, to leave out what cannot be written, and after. Each
choice warns, and all that is planned for a nested method is told in between.

A computation that succeeds gives some warnings (`Narrated.Warns`), a bind those of its parts in turn
(`warns_bind_iff`), and most steps of the planner give none (`Narrated.Silent`). The lemmas go through the steps
that do, over whatever supplies derived plans, and end with an induction on how much deeper methods may be nested
(`derive_warns`).

Results:
* **`planWith_warns`**: planning a method warns twice for each property of its tree that loses the order;
* **`warns_twice_of_lost_order`**: so does planning and verifying a root method.
-/

namespace BeanMapping

/-- The event says that the order of a source is lost. -/
def Event.tellsLostOrder (e : Event) : Bool :=
  e.level == .warn && e.message == "Target collection does not keep insertion order; source order is lost"

/-! ## Lost order -/

/-- The collection keeps the order in which its elements are added. A container that is not known is taken
to. -/
def Property.keepsOrder (p : Property) : Bool := (p.valueType.container?.map Container.keepsOrder).getD true

/-- The warning of a target that loses the order. -/
def Property.orderWarning (p : Property) : Event :=
  ⟨.warn, "Target collection does not keep insertion order; source order is lost",
    [("property", .text p.name), ("collection", .text p.valueType.text)]⟩

/-- Elements are written in order to a collection that does not keep it. -/
def PlannedProperty.losesOrder {ρ : Type} (x : PlannedProperty ρ) : Bool :=
  x.action.isElementWise && !x.target.keepsOrder

namespace MappingPlan

variable {xs ys : List (PlannedProperty MappingPlan)} {x : PlannedProperty MappingPlan}

/-- The properties, and those of the plans that they embed, that lose the order of their source. -/
def losing (xs : List (PlannedProperty MappingPlan)) : List (PlannedProperty MappingPlan) :=
  (allProperties xs).filter PlannedProperty.losesOrder

/-- The properties of a tree that lose the order of their source. -/
def orderLosing (p : MappingPlan) : List (PlannedProperty MappingPlan) := losing p.properties

/-- The properties that lose the order in a plan that may be embedded. -/
def losingOf (q : Option MappingPlan) : List (PlannedProperty MappingPlan) := (q.map orderLosing).getD []

theorem losing_append_perm (xs ys : List (PlannedProperty MappingPlan)) :
    (losing (xs ++ ys)).Perm (losing xs ++ losing ys) := by
  unfold losing allProperties
  rw [← List.filter_append, embedded_append, List.flatMap_append, List.append_assoc, List.append_assoc]
  refine List.Perm.filter _ (List.Perm.append_left _ ?_)
  rw [← List.append_assoc, ← List.append_assoc]
  exact List.Perm.append_right _ List.perm_append_comm

/-- A property loses the order itself, or in the plan that it embeds. -/
theorem losing_singleton_perm (x : PlannedProperty MappingPlan) :
    (losing [x]).Perm ([x].filter PlannedProperty.losesOrder ++ losingOf x.plan?) := by
  unfold losing allProperties embedded
  rw [List.filter_append]
  refine List.Perm.append_left _ ?_
  cases embeds : x.plan? with
  | none =>
    rw [List.filterMap_cons_none embeds]
    exact List.Perm.refl _
  | some q =>
    rw [List.filterMap_cons_some embeds, List.filterMap_nil, List.flatMap_singleton, postorder_eq_embedded,
      List.flatMap_append, List.flatMap_singleton]
    exact List.perm_append_comm.filter _

end MappingPlan

/-- Two warnings for each property. -/
def warnedTwice (xs : List (PlannedProperty MappingPlan)) : List Event :=
  xs.flatMap fun x => [x.target.orderWarning, x.target.orderWarning]

theorem warnedTwice_append (xs ys : List (PlannedProperty MappingPlan)) :
    warnedTwice (xs ++ ys) = warnedTwice xs ++ warnedTwice ys :=
  List.flatMap_append

theorem warnedTwice_perm {xs ys : List (PlannedProperty MappingPlan)} (h : xs.Perm ys) :
    (warnedTwice xs).Perm (warnedTwice ys) :=
  h.flatMap_right _

/-- One warning and then one more. -/
theorem warnedTwice_filter_singleton (x : PlannedProperty MappingPlan) (keeps : PlannedProperty MappingPlan → Bool) :
    warnedTwice ([x].filter keeps) =
      ([x].filter keeps).map (·.target.orderWarning) ++ ([x].filter keeps).map (·.target.orderWarning) := by
  cases h : keeps x <;> simp [warnedTwice, h]

theorem length_warnedTwice (xs : List (PlannedProperty MappingPlan)) : (warnedTwice xs).length = 2 * xs.length := by
  unfold warnedTwice
  rw [List.length_flatMap]
  simp [Nat.mul_comm]

/-! ## The events of an action -/

namespace CorrelatedProperty

variable {pair : CorrelatedProperty} {strategy : CollectionStrategy} {action : PropertyAction} {converts : Bool}

theorem keepsSourceOrder_eq (pair : CorrelatedProperty) : pair.keepsSourceOrder = pair.target.keepsOrder := by
  unfold keepsSourceOrder Property.keepsOrder
  cases pair.target.valueType.container? <;> rfl

/-- Collections are written element by element, and only they. -/
theorem isElementWise_of_action? (h : pair.action? strategy converts = some action) :
    action.isElementWise = pair.isCollectionPair := by
  unfold action? collectionAction? at h
  cases hc : pair.isCollectionPair <;> grind [PropertyAction.isElementWise]

/-- Choosing an action warns where the property that is planned by it loses the order. -/
theorem filter_actionEvents_of_some (updatesTarget : Bool) (conversion : Option (Conversion MappingPlan))
    (h : pair.action? strategy converts = some action) :
    (pair.actionEvents strategy updatesTarget).filter Event.tellsLostOrder =
      ([⟨pair.source, pair.target, action, conversion⟩].filter PlannedProperty.losesOrder).map
        (·.target.orderWarning) := by
  have elementWise := isElementWise_of_action? h
  unfold action? at h
  unfold actionEvents PlannedProperty.losesOrder
  cases hc : pair.isCollectionPair with
  | true =>
    rw [hc, if_pos rfl] at h
    rw [h, if_pos rfl, keepsSourceOrder_eq]
    cases hk : pair.target.keepsOrder <;> simp [Event.tellsLostOrder, Property.orderWarning, elementWise, hc, hk]
  | false =>
    rw [hc, if_neg Bool.false_ne_true] at h
    have writable : pair.target.hasSetter = true := by
      by_contra unwritable
      rw [if_neg unwritable] at h
      cases h
    simp [elementWise, hc, writable]

/-- Where there is no action, nothing warns. -/
theorem filter_actionEvents_of_none (updatesTarget : Bool) (h : pair.action? strategy converts = none) :
    (pair.actionEvents strategy updatesTarget).filter Event.tellsLostOrder = [] := by
  unfold action? at h
  unfold actionEvents
  cases hc : pair.isCollectionPair with
  | true =>
    rw [hc, if_pos rfl] at h
    rw [h]
    rfl
  | false =>
    cases hs : pair.target.hasSetter <;> rfl

end CorrelatedProperty

/-! ## Warnings of a computation -/

namespace Narrated

variable {σ τ α β : Type} {s t : σ} {w : List Event} {a b : α}

/-- From the state `s` the computation succeeds with `a`, leaves `t`, and gives the warnings `w` of lost
order. -/
def Warns (x : Generation σ α) (s : σ) (a : α) (t : σ) (w : List Event) : Prop :=
  x.Gives s a t ∧ (x.run s).told.filter Event.tellsLostOrder = w

theorem Gives.told_eq {x : Generation σ α} {f : α → Generation σ β} (hx : x.Gives s a t) :
    ((x >>= f).run s).told = (x.run s).told ++ ((f a).run t).told := by
  obtain ⟨hr, rfl⟩ := hx
  rw [run_bind_ok hr]

theorem warns_pure_iff : (pure a : Generation σ α).Warns s b t w ↔ a = b ∧ s = t ∧ w = [] := by
  unfold Warns
  rw [gives_pure_iff, and_assoc, eq_comm (b := w)]
  rfl

theorem warns_tell_iff {told : List Event} {u : Unit} :
    (tell told : Generation σ Unit).Warns s u t w ↔ s = t ∧ w = told.filter Event.tellsLostOrder := by
  unfold Warns
  rw [gives_tell_iff, eq_comm (b := w)]
  rfl

theorem warns_get_iff {r : σ} : (get : Generation σ σ).Warns s r t w ↔ s = r ∧ s = t ∧ w = [] := by
  unfold Warns
  rw [gives_get_iff, and_assoc, eq_comm (b := w)]
  rfl

theorem warns_modify_iff {f : σ → σ} {u : Unit} :
    (modify f : Generation σ Unit).Warns s u t w ↔ f s = t ∧ w = [] := by
  unfold Warns
  rw [gives_modify_iff, eq_comm (b := w)]
  rfl

theorem not_warns_reject {r : Report} : ¬ (reject r : Generation σ α).Warns s a t w :=
  fun h => not_gives_reject h.1

/-- **A bind gives the warnings of its parts in turn.** -/
theorem warns_bind_iff {x : Generation σ α} {f : α → Generation σ β} {b : β} :
    (x >>= f).Warns s b t w ↔
      ∃ a u v v', x.Warns s a u v ∧ (f a).Warns u b t v' ∧ w = v ++ v' := by
  constructor
  · rintro ⟨gives, rfl⟩
    obtain ⟨a, u, hx, hf⟩ := gives_bind_iff.mp gives
    refine ⟨a, u, _, _, ⟨hx, rfl⟩, ⟨hf, rfl⟩, ?_⟩
    rw [hx.told_eq, List.filter_append]
  · rintro ⟨a, u, v, v', ⟨hx, rfl⟩, ⟨hf, rfl⟩, rfl⟩
    refine ⟨gives_bind_iff.mpr ⟨a, u, hx, hf⟩, ?_⟩
    rw [hx.told_eq, List.filter_append]

theorem warns_map_iff {x : Generation σ α} {f : α → β} {b : β} :
    (f <$> x).Warns s b t w ↔ ∃ a, x.Warns s a t w ∧ f a = b := by
  rw [map_eq_pure_bind, warns_bind_iff]
  constructor
  · rintro ⟨a, u, v, v', hx, hp, rfl⟩
    obtain ⟨rfl, rfl, rfl⟩ := warns_pure_iff.mp hp
    exact ⟨a, (List.append_nil v).symm ▸ hx, rfl⟩
  · rintro ⟨a, hx, rfl⟩
    exact ⟨a, t, w, [], hx, warns_pure_iff.mpr ⟨rfl, rfl, rfl⟩, (List.append_nil w).symm⟩

theorem warns_within_iff {place : String} {x : Generation σ α} :
    (within place x).Warns s a t w ↔ x.Warns s a t w :=
  and_congr_left' gives_within_iff

theorem warns_focus_iff {part : σ → τ} {put : τ → σ → σ} {x : Generation τ α} :
    (focus part put x).Warns s a t w ↔ ∃ u, x.Warns (part s) a u w ∧ put u s = t := by
  unfold Warns
  rw [gives_focus_iff]
  constructor
  · rintro ⟨⟨u, gives, left⟩, warned⟩
    exact ⟨u, ⟨gives, warned⟩, left⟩
  · rintro ⟨u, ⟨gives, warned⟩, left⟩
    exact ⟨⟨u, gives, left⟩, warned⟩

/-! ## Computations without warnings -/

/-- The computation warns of nothing. -/
def Silent (x : Generation σ α) : Prop := ∀ s a t w, x.Warns s a t w → w = []

theorem Silent.eq_nil {x : Generation σ α} (h : x.Silent) (warns : x.Warns s a t w) : w = [] := h s a t w warns

theorem silent_pure (a : α) : (pure a : Generation σ α).Silent := fun _ _ _ _ h => (warns_pure_iff.mp h).2.2

theorem silent_reject (r : Report) : (reject r : Generation σ α).Silent :=
  fun _ _ _ _ h => absurd h not_warns_reject

theorem silent_get : (get : Generation σ σ).Silent := fun _ _ _ _ h => (warns_get_iff.mp h).2.2

theorem silent_modify (f : σ → σ) : (modify f : Generation σ Unit).Silent :=
  fun _ _ _ _ h => (warns_modify_iff.mp h).2

theorem silent_tell {told : List Event} (h : ∀ e ∈ told, e.tellsLostOrder = false) :
    (tell told : Generation σ Unit).Silent := by
  intro s u t w warns
  rw [(warns_tell_iff.mp warns).2]
  exact List.filter_eq_nil_iff.mpr fun e mem => by simp [h e mem]

theorem silent_ofExcept (r : Except Fault α) : (ofExcept r : Generation σ α).Silent := by
  cases r with
  | error f => exact silent_reject _
  | ok a => exact silent_pure a

theorem Silent.bind {x : Generation σ α} {f : α → Generation σ β} (hx : x.Silent) (hf : ∀ a, (f a).Silent) :
    (x >>= f).Silent := by
  intro s b t w warns
  obtain ⟨a, u, v, v', hv, hv', rfl⟩ := warns_bind_iff.mp warns
  rw [hx.eq_nil hv, (hf a).eq_nil hv']
  rfl

/-- After a part that warns of nothing, a bind gives the warnings of the rest. -/
theorem Silent.warns_of_bind {x : Generation σ α} {f : α → Generation σ β} {b : β} (hx : x.Silent)
    (h : (x >>= f).Warns s b t w) : ∃ a u, x.Gives s a u ∧ (f a).Warns u b t w := by
  obtain ⟨a, u, v, v', hv, hv', rfl⟩ := warns_bind_iff.mp h
  rw [hx.eq_nil hv]
  exact ⟨a, u, hv.1, hv'⟩

/-- Before a rest that warns of nothing, a bind gives the warnings of its first part. -/
theorem Warns.of_silent_rest {x : Generation σ α} {f : α → Generation σ β} {b : β}
    (h : (x >>= f).Warns s b t w) (hf : ∀ a, (f a).Silent) : ∃ a u, x.Warns s a u w ∧ (f a).Gives u b t := by
  obtain ⟨a, u, v, v', hv, hv', rfl⟩ := warns_bind_iff.mp h
  rw [(hf a).eq_nil hv', List.append_nil]
  exact ⟨a, u, hv, hv'.1⟩

theorem silent_forM {step : α → Generation σ PUnit} :
    ∀ {l : List α}, (∀ a ∈ l, (step a).Silent) → (l.forM step).Silent
  | [], _ => silent_pure _
  | a :: _, h => (h a List.mem_cons_self).bind fun _ => silent_forM fun b mem => h b (List.mem_cons_of_mem a mem)

theorem Silent.within {x : Generation σ α} (h : x.Silent) (place : String) : (within place x).Silent :=
  fun _ _ _ _ warns => h.eq_nil (warns_within_iff.mp warns)

theorem Silent.apart {x : Generation τ Unit} (h : x.Silent) (t : τ) : (apart t x : Generation σ τ).Silent := by
  rintro s u s' w ⟨gives, warned⟩
  exact h.eq_nil ⟨(gives_apart_iff.mp gives).1, warned⟩

end Narrated

/-! ## Steps without warnings -/

section Silent

open Narrated

namespace Introspection

theorem memberEvents_silent (owner : TypeName) (before : List AccessorUse) (members : List MemberDescriptor) :
    ∀ e ∈ memberEvents owner before members, e.tellsLostOrder = false := by
  induction members generalizing before with
  | nil => exact fun e mem => absurd mem List.not_mem_nil
  | cons m rest ih =>
    unfold memberEvents
    split
    · exact List.forall_mem_cons.mpr ⟨rfl, ih before⟩
    · refine List.forall_mem_append.mpr ⟨?_, ih _⟩
      split
      · exact List.forall_mem_singleton.mpr rfl
      · exact fun e mem => absurd mem List.not_mem_nil

theorem setterEvent?_silent {owner : TypeName} {uses : List AccessorUse} {name : String} {e : Event}
    (h : setterEvent? owner uses name = some e) : e.tellsLostOrder = false := by
  unfold setterEvent? at h
  split at h
  · split at h
    · cases h
    · cases h
      rfl
  · cases h

theorem Attachment.event?_silent {a : Attachment} {e : Event} (h : a.event? = some e) :
    e.tellsLostOrder = false := by
  obtain ⟨_, -, rfl⟩ := Option.map_eq_some_iff.mp h
  rfl

theorem buildEvents_silent (i : Inflector) (d : TypeDescriptor) :
    ∀ e ∈ buildEvents i d, e.tellsLostOrder = false := by
  intro e mem
  simp only [buildEvents, List.mem_append, List.mem_filterMap, List.mem_map] at mem
  rcases mem with ((mem | ⟨_, _, told⟩) | ⟨_, _, told⟩) | ⟨_, _, rfl⟩
  · exact memberEvents_silent _ _ _ e mem
  · exact setterEvent?_silent told
  · exact Attachment.event?_silent told
  · rfl

/-- What introspection warns of is not lost order. -/
theorem events_silent (r : Registry) (i : Inflector) (c : ShapeCache) (t : TypeName) :
    ∀ e ∈ events r i c t, e.tellsLostOrder = false := by
  unfold events
  split
  · exact List.forall_mem_singleton.mpr rfl
  · split
    · exact fun e mem => absurd mem List.not_mem_nil
    · refine List.forall_mem_append.mpr ⟨?_, List.forall_mem_singleton.mpr rfl⟩
      split
      · split
        · exact buildEvents_silent i _
        · exact fun e mem => absurd mem List.not_mem_nil
      · exact fun e mem => absurd mem List.not_mem_nil

end Introspection

theorem Correlation.events_silent (i : Inflector) (precedence : NamePrecedence) (source target : BeanShape)
    (o : PropertyOptions) : ∀ e ∈ events i precedence source target o, e.tellsLostOrder = false := by
  unfold events
  split
  · exact fun e mem => absurd mem List.not_mem_nil
  · intro e mem
    obtain ⟨s, -, rfl⟩ := List.mem_map.mp mem
    unfold pairEvent
    split <;> rfl

theorem Resolution.routeEvents_silent (property : String) (target : TypeName) (route : Route) :
    ∀ e ∈ routeEvents property target route, e.tellsLostOrder = false := by
  cases route with
  | rule | generic | builtin => exact List.forall_mem_singleton.mpr rfl
  | ask => exact fun e mem => absurd mem List.not_mem_nil

namespace Contract

variable {types : Registry}

theorem account_silent (p : MappingPlan) (property invoked : String) (failure : TypeName) :
    (account types p property invoked failure).Silent := by
  unfold account
  split
  · exact silent_tell (List.forall_mem_singleton.mpr rfl)
  · refine (silent_modify _).bind fun _ => ?_
    split
    · exact silent_pure _
    · exact silent_reject _

theorem walk_silent (p : MappingPlan) : (walk types p).Silent := by
  induction p using MappingPlan.inductionOn with
  | step p ih =>
    rw [walk_eq]
    refine (silent_modify _).bind fun _ => Silent.bind ?_ fun _ => silent_forM ih
    exact silent_forM fun x _ => silent_forM fun i _ => silent_forM fun f _ => account_silent p _ _ f

theorem verify_silent {σ : Type} (method : String) (p : MappingPlan) :
    (verify types method p : Generation σ VerifiedPlan).Silent :=
  (((walk_silent p).apart []).within _).bind fun _ =>
    (silent_tell (List.forall_mem_singleton.mpr rfl)).bind fun _ => silent_pure _

end Contract

namespace Planner

variable {p : Planner}

theorem introspect_silent (t : TypeName) : (p.introspect t).Silent :=
  silent_get.bind fun _ => (silent_tell (Introspection.events_silent _ _ _ _)).bind fun _ =>
    (silent_modify _).bind fun _ => silent_ofExcept _

theorem introspectTarget_silent (t : TypeName) : (p.introspectTarget t).Silent :=
  (introspect_silent t).bind fun _ => silent_ofExcept _

theorem correlate_silent (source target : BeanShape) (o : PropertyOptions) :
    (p.correlate source target o).Silent :=
  (silent_tell (Correlation.events_silent _ _ _ _ _)).bind fun _ => silent_ofExcept _

end Planner

end Silent

/-! ## Warnings of the planner -/

namespace Planner

open Narrated MappingPlan

variable {p : Planner} {α : Type} {s t : PlanState} {w : List Event}
  {nested : TypeName → TypeName → Plans (Option (NestedMapping MappingPlan))} {supply : Supplier}

/-- Where the computation succeeds, it warns twice for each property of its result that loses the order. What
was derived before stays without plans, so that no plan is told of again. -/
def WarnsTwice (x : Plans α) (lost : α → List (PlannedProperty MappingPlan)) : Prop :=
  ∀ ⦃s a t w⦄, Bare s → x.Warns s a t w → Bare t ∧ w.Perm (warnedTwice (lost a))

/-- The search for a mapping warns of the plan that it embeds. -/
theorem nestedMapping_warns (supplies : ∀ frames m, WarnsTwice (supply frames m) losingOf) (frames : List Frame)
    (source target : TypeName) :
    WarnsTwice (p.nestedMapping supply frames source target) (fun n => losingOf (n.bind NestedMapping.plan)) := by
  intro s n t w bare h
  -- A mapping that is known is found without a plan and without a warning.
  have known : ∀ {r : NestedMapping MappingPlan}, r.plan = none →
      ([] : List Event).Perm (warnedTwice (losingOf ((some r).bind NestedMapping.plan))) := by
    intro r plan_eq
    rw [Option.bind_some, plan_eq]
    exact List.Perm.refl _
  unfold nestedMapping at h
  split at h
  · rename_i d declared
    obtain ⟨rfl, rfl, rfl⟩ := warns_pure_iff.mp h
    obtain ⟨_, -, -, rfl⟩ := declaredMapping?_eq_some declared
    exact ⟨bare, known rfl⟩
  split at h
  · obtain ⟨rfl, rfl, rfl⟩ := warns_pure_iff.mp h
    exact ⟨bare, List.Perm.refl _⟩
  split at h
  · simp only [warns_bind_iff, warns_tell_iff, warns_pure_iff] at h
    obtain ⟨_, _, _, _, ⟨rfl, rfl⟩, ⟨rfl, rfl, rfl⟩, rfl⟩ := h
    exact ⟨bare, known rfl⟩
  obtain ⟨_, _, got, sought⟩ := silent_get.warns_of_bind h
  obtain ⟨rfl, rfl⟩ := gives_get_iff.mp got
  split at sought
  · rename_i d found
    simp only [warns_bind_iff, warns_tell_iff, warns_pure_iff] at sought
    obtain ⟨_, _, _, _, ⟨rfl, rfl⟩, ⟨rfl, rfl, rfl⟩, rfl⟩ := sought
    exact ⟨bare, known (bare d (List.mem_of_find?_eq_some found))⟩
  obtain ⟨answer, u, supplied, answered⟩ := sought.of_silent_rest (by
    rintro (_ | plan)
    · exact silent_pure _
    · exact (silent_modify _).bind fun _ => silent_pure _)
  obtain ⟨bare, told⟩ := supplies _ _ bare supplied
  cases answer with
  | none =>
    obtain ⟨rfl, rfl⟩ := gives_pure_iff.mp answered
    exact ⟨bare, told⟩
  | some plan =>
    simp only [gives_bind_iff, gives_modify_iff, gives_pure_iff] at answered
    obtain ⟨_, _, rfl, rfl, rfl⟩ := answered
    exact ⟨bare.snoc, told⟩

section Pairs

variable (asks : ∀ a b, WarnsTwice (nested a b) fun n => losingOf (n.bind NestedMapping.plan))

include asks

/-- Following a route warns of the plan that it embeds: only a nested mapping has one. -/
theorem follow_warns (property : String) (source target : TypeName) (route : Route) :
    WarnsTwice (Resolution.follow nested property source target route)
      (fun c => losingOf (c.bind Conversion.plan?)) := by
  intro s c t w bare h
  unfold Resolution.follow at h
  split at h
  case h_5 =>
    obtain ⟨answer, u, asked, answered⟩ := h.of_silent_rest (by
      rintro (_ | n)
      · exact silent_reject _
      · exact (silent_tell (List.forall_mem_singleton.mpr rfl)).bind fun _ => silent_pure _)
    obtain ⟨bare, told⟩ := asks _ _ bare asked
    cases answer with
    | none => exact absurd answered not_gives_reject
    | some n =>
      simp only [gives_bind_iff, gives_tell_iff, gives_pure_iff] at answered
      obtain ⟨_, _, rfl, rfl, rfl⟩ := answered
      exact ⟨bare, told⟩
  all_goals
    obtain ⟨rfl, rfl, rfl⟩ := warns_pure_iff.mp h
    exact ⟨bare, List.Perm.refl _⟩

theorem resolve_warns (property : String) (source declared : TypeName) (hint : Option TypeName) :
    WarnsTwice (Resolution.resolve p.types p.book nested property source declared hint)
      (fun c => losingOf (c.bind Conversion.plan?)) := by
  intro s c t w bare h
  unfold Resolution.resolve at h
  obtain ⟨target, _, fits, h⟩ := (silent_ofExcept _).warns_of_bind h
  obtain ⟨-, rfl⟩ := gives_ofExcept_iff.mp fits
  obtain ⟨_, _, told, h⟩ := (silent_tell (Resolution.routeEvents_silent _ _ _)).warns_of_bind h
  obtain rfl := gives_tell_iff.mp told
  exact follow_warns asks property source target _ bare h

/-- A pair is told of before its conversion is resolved and after. -/
theorem planPair_warns (m : MappingMethod) (pair : CorrelatedProperty) :
    WarnsTwice (p.planPair nested m pair) (fun x => losing x.toList) := by
  intro s r t w bare h
  unfold planPair at h
  obtain ⟨_, u, _, _, told, chosen, rfl⟩ := warns_bind_iff.mp h
  obtain ⟨rfl, rfl⟩ := warns_tell_iff.mp told
  split at chosen
  · rename_i unwritable
    obtain ⟨rfl, rfl, rfl⟩ := warns_pure_iff.mp chosen
    rw [CorrelatedProperty.filter_actionEvents_of_none _ unwritable]
    exact ⟨bare, List.Perm.refl _⟩
  · rename_i first writable
    simp only [warns_bind_iff, warns_within_iff, warns_tell_iff, warns_pure_iff] at chosen
    obtain ⟨conversion, u, v, _, resolved, ⟨_, _, _, _, ⟨rfl, rfl⟩, ⟨rfl, rfl, rfl⟩, rfl⟩, rfl⟩ := chosen
    obtain ⟨bare, warned⟩ := resolve_warns asks _ _ _ _ bare resolved
    refine ⟨bare, ?_⟩
    cases writes : pair.action? (m.strategy.getD p.config.collectionStrategy) conversion.isSome with
    | none => exact absurd (writable.symm.trans ((action?_eq_none_iff _ _).mp writes)) (by simp)
    | some action =>
      rw [CorrelatedProperty.filter_actionEvents_of_some _ conversion writes, List.append_nil]
      refine List.Perm.trans ?_ (warnedTwice_perm (losing_singleton_perm _).symm)
      rw [warnedTwice_append, warnedTwice_filter_singleton, List.append_assoc]
      refine List.Perm.append_left _ (List.perm_append_comm.trans ?_)
      exact List.Perm.append_left _ warned

theorem planPairs_warns (m : MappingMethod) : ∀ pairs, WarnsTwice (p.planPairs nested m pairs) losing
  | [] => by
    intro s xs t w bare h
    rw [planPairs] at h
    obtain ⟨rfl, rfl, rfl⟩ := warns_pure_iff.mp h
    exact ⟨bare, List.Perm.refl _⟩
  | pair :: rest => by
    intro s xs t w bare h
    rw [planPairs] at h
    simp only [warns_bind_iff, warns_pure_iff] at h
    obtain ⟨first, u, v, _, hfirst, ⟨others, u', v', _, hothers, ⟨rfl, rfl, rfl⟩, rfl⟩, rfl⟩ := h
    obtain ⟨bare, told⟩ := planPair_warns asks m pair bare hfirst
    obtain ⟨bare, told'⟩ := planPairs_warns m rest bare hothers
    refine ⟨bare, ?_⟩
    rw [List.append_nil]
    refine (told.append told').trans ?_
    rw [← warnedTwice_append]
    exact warnedTwice_perm (losing_append_perm _ _).symm

end Pairs

/-- **Planning a method warns twice for each property of its tree that loses the order.** -/
theorem planWith_warns (supplies : ∀ frames m, WarnsTwice (supply frames m) losingOf) (frames : List Frame)
    (m : MappingMethod) : WarnsTwice (p.planWith supply frames m) orderLosing := by
  intro s plan t w bare h
  unfold planWith at h
  obtain ⟨source, s₁, hsource, h⟩ := (introspect_silent _).warns_of_bind h
  obtain ⟨target, s₂, htarget, h⟩ := (introspectTarget_silent _).warns_of_bind h
  obtain ⟨pairs, s₃, hpairs, h⟩ := (correlate_silent _ _ _).warns_of_bind h
  have opens : p.Opens m s pairs s₃ := ⟨_, _, _, _, hsource, htarget, hpairs⟩
  obtain ⟨xs, s₄, planned, ended⟩ := h.of_silent_rest fun _ =>
    (silent_tell (List.forall_mem_singleton.mpr rfl)).bind fun _ => silent_pure _
  simp only [gives_bind_iff, gives_tell_iff, gives_pure_iff] at ended
  obtain ⟨_, _, rfl, rfl, rfl⟩ := ended
  exact planPairs_warns (nestedMapping_warns supplies _) m pairs (opens.bare bare) planned

/-- Derived plans are warned of, however much deeper methods may be nested. -/
theorem derive_warns (deeper : Nat) : ∀ frames m, WarnsTwice (p.derive deeper frames m) losingOf := by
  induction deeper with
  | zero =>
    intro frames m s plan t w bare h
    unfold derive at h
    simp only [warns_bind_iff, warns_tell_iff, warns_pure_iff] at h
    obtain ⟨_, _, _, _, ⟨rfl, rfl⟩, ⟨rfl, rfl, rfl⟩, rfl⟩ := h
    exact ⟨bare, List.Perm.refl _⟩
  | succ deeper ih =>
    intro frames m s plan t w bare h
    unfold derive at h
    obtain ⟨q, planned, rfl⟩ := warns_map_iff.mp (warns_within_iff.mp h)
    exact planWith_warns ih frames m bare planned

end Planner

/-! ## Result -/

namespace Generator

open Narrated

variable {g : Generator} {declared : List MappingMethod} {root : MappingMethod} {shapes : ShapeCache}
  {v : VerifiedPlan}

/-- The warnings of lost order while a method is planned and verified. -/
def orderWarnings (g : Generator) (declared : List MappingMethod) (root : MappingMethod) (shapes : ShapeCache) :
    List Event :=
  ((g.plan declared root).run shapes).told.filter Event.tellsLostOrder

theorem orderWarnings_perm (accepted : ((g.plan declared root).run shapes).result = .ok v) :
    (g.orderWarnings declared root shapes).Perm (warnedTwice v.plan.orderLosing) := by
  have warns : (g.plan declared root).Warns shapes v _ (g.orderWarnings declared root shapes) :=
    ⟨gives_of_result accepted, rfl⟩
  unfold plan at warns
  obtain ⟨plan, u, planned, verified⟩ := warns.of_silent_rest fun _ => Contract.verify_silent _ _
  obtain ⟨t, planned, -⟩ := warns_focus_iff.mp (warns_within_iff.mp planned)
  obtain rfl := (Contract.verified_of_gives verified).plan_eq
  exact (Planner.planWith_warns (Planner.derive_warns _) [] root (Planner.bare_of_nil rfl) planned).2

/-- **Each property of a plan tree that loses the order of its source is warned of twice.** While a method is
planned and verified, the warnings of lost order are, but for their order, two for each property that is written
element by element to a collection that does not keep the order, in the root plan and in the plans that it
embeds, with the name of the property and the type of the collection. So there are as many warnings as such
properties exactly where there are none. -/
theorem warns_twice_of_lost_order (accepted : ((g.plan declared root).run shapes).result = .ok v) :
    (g.orderWarnings declared root shapes).Perm (warnedTwice v.plan.orderLosing) ∧
    (g.orderWarnings declared root shapes).length = 2 * v.plan.orderLosing.length ∧
    ((g.orderWarnings declared root shapes).length = v.plan.orderLosing.length ↔ v.plan.orderLosing = []) := by
  have warned := orderWarnings_perm accepted
  have twice : (g.orderWarnings declared root shapes).length = 2 * v.plan.orderLosing.length := by
    rw [warned.length_eq, length_warnedTwice]
  refine ⟨warned, twice, ?_⟩
  rw [twice, ← List.length_eq_zero_iff]
  omega

/-! ### A catalog of which the copy has sets -/

/-- Catalogs have lists of shelves and these have lists of titles; the copies have sets. -/
def catalogs : Generator where
  types := .ofList [
    ⟨⟨"Catalog"⟩, .bean, [], [.getter "getShelves" ⟨"Vec<Shelf>"⟩]⟩,
    ⟨⟨"CatalogDto"⟩, .bean, [], [.writer "setShelves" ⟨"HashSet<ShelfDto>"⟩]⟩,
    ⟨⟨"Shelf"⟩, .bean, [], [.getter "getTitles" ⟨"Vec<String>"⟩]⟩,
    ⟨⟨"ShelfDto"⟩, .bean, [], [.writer "setTitles" ⟨"BTreeSet<String>"⟩]⟩]
  config := .default
  book := .empty
  valid := GeneratorConfig.fault?_default

/-- Maps a catalog. -/
def mapCatalog : MappingMethod where
  name := "catalog_to_dto"
  sourceType := ⟨"Catalog"⟩
  targetType := ⟨"CatalogDto"⟩

theorem catalog_is_planned : ∃ v, ((catalogs.plan [] mapCatalog).run .empty).result = .ok v :=
  isOk_eq_true_iff.mp (by decide +kernel)

/-- The method for a shelf is derived between the two choices for the shelves of the catalog. -/
theorem catalog_warnings : (catalogs.orderWarnings [] mapCatalog .empty).map Event.fields =
    [[("property", .text "shelves"), ("collection", .text "HashSet<ShelfDto>")],
      [("property", .text "titles"), ("collection", .text "BTreeSet<String>")],
      [("property", .text "titles"), ("collection", .text "BTreeSet<String>")],
      [("property", .text "shelves"), ("collection", .text "HashSet<ShelfDto>")]] := by
  decide +kernel

theorem length_catalog_warnings : (catalogs.orderWarnings [] mapCatalog .empty).length = 4 := by
  rw [← List.length_map Event.fields, catalog_warnings]
  rfl

/-- Four warnings stand for two properties. -/
theorem catalog_is_warned_of_twice : ∃ v, ((catalogs.plan [] mapCatalog).run .empty).result = .ok v ∧
    v.plan.orderLosing.length = 2 ∧ (catalogs.orderWarnings [] mapCatalog .empty).length = 4 := by
  obtain ⟨v, accepted⟩ := catalog_is_planned
  obtain ⟨-, twice, -⟩ := warns_twice_of_lost_order accepted
  rw [length_catalog_warnings] at twice
  exact ⟨v, accepted, by omega, length_catalog_warnings⟩

/-- There are more warnings than properties that lose the order. -/
theorem catalog_is_not_warned_of_once : ∃ v, ((catalogs.plan [] mapCatalog).run .empty).result = .ok v ∧
    (catalogs.orderWarnings [] mapCatalog .empty).length ≠ v.plan.orderLosing.length := by
  obtain ⟨v, accepted⟩ := catalog_is_planned
  have counted := (orderWarnings_perm accepted).length_eq
  rw [length_catalog_warnings, length_warnedTwice] at counted
  exact ⟨v, accepted, by rw [length_catalog_warnings]; omega⟩

end Generator

end BeanMapping
