import BeanMapping.Proofs.NestingDepth
import BeanMapping.Proofs.ReachedMethods

/-!
# Situations of planning

What a planner has come to while it plans a root: the methods in progress, the state, and the plans that
were built for the recorded methods (`Situation`).

It comes from one point to the next by planning a pair, and from a pair to what is inside by opening the
method that is derived for it (`Point`). Between the points, a method is being opened or about to be recorded
(`Reached`). The root is in progress from the first point to the last.

Nothing is left out: where the planning of a root ends, be it by a plan or by a rejection deep inside, the
planner is in a reached situation.

Results:
* **`Point.finish`**, `reached_of_gives`: what is planned is left at a point with no more pairs;
* **`Point.halts`**, by induction on how many more methods may be in progress: what is rejected is left in a
  reached situation;
* **`exists_reached_end`**: so is every root, whatever it comes to.
-/

namespace BeanMapping

/-- **A situation of planning**: the methods in progress, the state, and the plans that were built for the
recorded methods, in the order in which these were recorded. -/
structure Situation where
  inProgress : List Frame
  state : PlanState
  built : List MappingPlan

namespace Planner

open Narrated
open MappingPlan (embedded)

variable {p : Planner} {cache : ShapeCache} {frames : List Frame} {m root : MappingMethod}
  {pair : CorrelatedProperty} {pairs : List CorrelatedProperty} {s t u : PlanState}
  {xs : List (PlannedProperty MappingPlan)} {source target a : TypeName} {plan : MappingPlan}
  {built : List MappingPlan} {supply : Supplier}
  {nested : TypeName → TypeName → Plans (Option (NestedMapping MappingPlan))}

/-! ## Reached situations -/

/-- The states in which a method is opened: at first, with its source introspected, and with its target
introspected as well. -/
inductive Opening (p : Planner) (m : MappingMethod) (s : PlanState) : PlanState → Prop
  | start : Opening p m s s
  | source {shape : BeanShape} {t : PlanState} (h : (p.introspect m.sourceType).Gives s shape t) :
      Opening p m s t
  | target {shape shape' : BeanShape} {t u : PlanState} (h : (p.introspect m.sourceType).Gives s shape t)
      (h' : (p.introspect m.targetType).Gives t shape' u) : Opening p m s u

/-- A method is derived for a pair, as there is none for its types yet and room for one. -/
structure Derives (p : Planner) (frames : List Frame) (m : MappingMethod) (pair : CorrelatedProperty)
    (s : PlanState) (source target : TypeName) : Prop where
  written : p.writable m pair = true
  wants : p.Wants m pair source target
  fresh : p.Fresh frames s.derived source target
  room : frames.length < p.config.maxNestingDepth

/-- **The points of planning a root**: the methods in progress, of which the last is being planned, its pairs
that are still to be planned, the state, and the plans that were built. -/
inductive Point (p : Planner) (root : MappingMethod) (cache : ShapeCache) :
    List Frame → MappingMethod → List CorrelatedProperty → PlanState → List MappingPlan → Prop
  /-- The root was opened. -/
  | opened {pairs : List CorrelatedProperty} {t : PlanState} (opens : p.Opens root ⟨cache, []⟩ pairs t) :
      Point p root cache [frameOf root] root pairs t []
  /-- A pair was planned. -/
  | next {frames : List Frame} {m : MappingMethod} {pair : CorrelatedProperty}
      {pairs : List CorrelatedProperty} {s t : PlanState} {built : List MappingPlan}
      {r : Option (PlannedProperty MappingPlan)} (point : Point p root cache frames m (pair :: pairs) s built)
      (planned : (p.planPair (p.nestedMapping p.deriveWithin frames) m pair).Gives s r t) :
      Point p root cache frames m pairs t (built ++ embedded r.toList)
  /-- A method that is derived for a pair was opened. -/
  | inside {frames : List Frame} {m : MappingMethod} {pair : CorrelatedProperty}
      {pairs inner : List CorrelatedProperty} {s t : PlanState} {built : List MappingPlan}
      {source target : TypeName} (point : Point p root cache frames m (pair :: pairs) s built)
      (derives : p.Derives frames m pair s source target)
      (opens : p.Opens (p.derivedMethod source target) s inner t) :
      Point p root cache (frames ++ [frameOf (p.derivedMethod source target)])
        (p.derivedMethod source target) inner t built

/-- **The situations that a planner reaches while it plans a root.** Once the root was opened it is in progress
in all of them; when it no longer is, it has been planned. -/
inductive Reached (p : Planner) (root : MappingMethod) (cache : ShapeCache) : Situation → Prop
  /-- The root is being opened. -/
  | opening {t : PlanState} (opening : p.Opening root ⟨cache, []⟩ t) : Reached p root cache ⟨[], t, []⟩
  /-- A pair is about to be planned, or all pairs of a method were. -/
  | point {frames : List Frame} {m : MappingMethod} {pairs : List CorrelatedProperty} {s : PlanState}
      {built : List MappingPlan} (point : p.Point root cache frames m pairs s built) :
      Reached p root cache ⟨frames, s, built⟩
  /-- A method that is derived for a pair is being opened. -/
  | derived {frames : List Frame} {m : MappingMethod} {pair : CorrelatedProperty}
      {pairs : List CorrelatedProperty} {s t : PlanState} {built : List MappingPlan}
      {source target : TypeName} (point : p.Point root cache frames m (pair :: pairs) s built)
      (derives : p.Derives frames m pair s source target)
      (opening : p.Opening (p.derivedMethod source target) s t) : Reached p root cache ⟨frames, t, built⟩
  /-- A method that is derived for a pair was planned, and is about to be recorded. -/
  | planned {frames : List Frame} {m : MappingMethod} {pair : CorrelatedProperty}
      {pairs : List CorrelatedProperty} {s t : PlanState} {built : List MappingPlan}
      {source target : TypeName} {plan : MappingPlan}
      (point : p.Point root cache frames m (pair :: pairs) s built)
      (derives : p.Derives frames m pair s source target)
      (planned : (p.planWith p.deriveWithin frames (p.derivedMethod source target)).Gives s plan t) :
      Reached p root cache ⟨frames, t, built ++ embedded plan.properties⟩

/-! ## What is planned -/

/-- The pairs of a method are planned one by one, from each point to the next. -/
theorem Point.finish (h : p.Point root cache frames m pairs s built)
    (gives : (p.planPairs (p.nestedMapping p.deriveWithin frames) m pairs).Gives s xs t) :
    p.Point root cache frames m [] t (built ++ embedded xs) := by
  induction pairs generalizing s xs built with
  | nil =>
    obtain ⟨rfl, rfl⟩ := gives_pure_iff.mp gives
    have same : built ++ embedded [] = built := List.append_nil built
    rwa [same]
  | cons pair rest ih =>
    obtain ⟨r, u, ys, first, others, rfl⟩ := planPairs_cons_gives gives
    have next := ih (h.next first) others
    rwa [List.append_assoc, ← MappingPlan.embedded_append] at next

/-- **A planned root is left with all of its pairs planned.** -/
theorem reached_of_gives (h : (p.planRoot root).Gives ⟨cache, []⟩ plan t) :
    p.Reached root cache ⟨[frameOf root], t, embedded plan.properties⟩ := by
  rw [← planWith_eq_planRoot p.follows_deriveWithin] at h
  obtain ⟨pairs, u, xs, opens, planned, rfl⟩ := planWith_gives h
  exact .point ((Point.opened opens).finish planned)

/-! ## What is rejected -/

/-- A type that is refused changes nothing. -/
theorem introspect_halts (h : (p.introspect a).Halts s t) : s = t := by
  unfold introspect at h
  simp only [halts_bind_iff, not_halts_get, not_halts_tell, not_halts_modify, halts_ofExcept_iff,
    gives_get_iff, gives_tell_iff, gives_modify_iff, false_or] at h
  obtain ⟨_, _, ⟨rfl, rfl⟩, _, _, rfl, _, _, rfl, ⟨fault, refused⟩, rfl⟩ := h
  unfold Introspection.cacheAfter
  rw [refused]

/-- A method is rejected while it is opened, or with one of its pairs. -/
theorem planWith_halts (h : (p.planWith supply frames m).Halts s t) :
    p.Opening m s t ∨ ∃ pairs u, p.Opens m s pairs u ∧
      (p.planPairs (p.nestedMapping supply (frames ++ [frameOf m])) m pairs).Halts u t := by
  unfold planWith at h
  rcases halts_bind_iff.mp h with refused | ⟨source, u, hs, h⟩
  · obtain rfl := introspect_halts refused
    exact Or.inl .start
  rcases halts_bind_iff.mp h with refused | ⟨target, v, ht, h⟩
  · unfold introspectTarget at refused
    rcases halts_bind_iff.mp refused with refused | ⟨shape, w, shown, unwritable⟩
    · obtain rfl := introspect_halts refused
      exact Or.inl (.source hs)
    · obtain ⟨-, rfl⟩ := halts_ofExcept_iff.mp unwritable
      exact Or.inl (.target hs shown)
  rcases halts_bind_iff.mp h with refused | ⟨pairs, w, hc, h⟩
  · unfold correlate at refused
    simp only [halts_bind_iff, not_halts_tell, halts_ofExcept_iff, gives_tell_iff, false_or] at refused
    obtain ⟨_, _, rfl, -, rfl⟩ := refused
    unfold introspectTarget at ht
    obtain ⟨shape, w, shown, writable⟩ := gives_bind_iff.mp ht
    obtain ⟨-, rfl⟩ := gives_ofExcept_iff.mp writable
    exact Or.inl (.target hs shown)
  rcases halts_bind_iff.mp h with halts | ⟨xs, v, -, h⟩
  · exact Or.inr ⟨pairs, w, ⟨source, target, _, _, hs, ht, hc⟩, halts⟩
  · simp only [halts_bind_iff, not_halts_tell, not_halts_pure, and_false, exists_false, or_self] at h

/-- A mapping is found without a change, unless it has to be derived. -/
theorem nestedMapping_cases (supply : Supplier) (frames : List Frame) (s : PlanState)
    (route_eq : Resolution.route p.types p.book source target = .ask) :
    (∃ answer, (p.nestedMapping supply frames source target).Gives s answer s) ∨
      p.Fresh frames s.derived source target := by
  unfold nestedMapping
  split
  · exact Or.inl ⟨_, gives_pure_iff.mpr ⟨rfl, rfl⟩⟩
  · rename_i undeclared
    split
    · exact Or.inl ⟨_, gives_pure_iff.mpr ⟨rfl, rfl⟩⟩
    · rename_i beans
      simp only [Bool.or_eq_true, Bool.not_eq_true', not_or, Bool.not_eq_false] at beans
      split
      · exact Or.inl ⟨_, gives_bind_iff.mpr ⟨(), s, gives_tell _ s, gives_pure_iff.mpr ⟨rfl, rfl⟩⟩⟩
      · rename_i notInProgress
        cases recorded : s.derived.find? fun d => d.sourceType == source && d.targetType == target with
        | some d =>
          refine Or.inl ⟨some d, gives_bind_iff.mpr ⟨s, s, gives_get s, ?_⟩⟩
          rw [recorded]
          exact gives_bind_iff.mpr ⟨(), s, gives_tell _ s, gives_pure_iff.mpr ⟨rfl, rfl⟩⟩
        | none =>
          refine Or.inr ⟨⟨route_eq, undeclared, beans.1, beans.2⟩, ?_, ?_⟩
          · simpa using notInProgress
          · simpa [NestedMapping.pair] using recorded

/-- A mapping that has to be derived is the supplier's to refuse. -/
theorem Fresh.nestedMapping_refused (h : p.Fresh frames s.derived source target)
    (refused : (p.nestedMapping supply frames source target).Halts s t ∨
      (p.nestedMapping supply frames source target).Gives s none t) :
    (supply frames (p.derivedMethod source target)).Halts s t ∨
      (supply frames (p.derivedMethod source target)).Gives s none t := by
  have notInProgress : frames.find? (fun f => f.source == source && f.target == target) = none := by
    simpa using h.not_in_progress
  have notDerived : s.derived.find? (fun d => d.sourceType == source && d.targetType == target) =
      none := by
    simpa [NestedMapping.pair] using h.not_derived
  unfold nestedMapping at refused
  simp only [h.undeclared, h.source_bean, h.target_bean, notInProgress] at refused
  rcases refused with halts | gives
  · rcases halts_bind_iff.mp halts with halts | ⟨_, _, got, halts⟩
    · exact absurd halts not_halts_get
    obtain ⟨rfl, rfl⟩ := gives_get_iff.mp got
    rw [notDerived] at halts
    rcases halts_bind_iff.mp halts with halts | ⟨answer, u, -, halts⟩
    · exact Or.inl halts
    · cases answer with
      | none => exact absurd halts not_halts_pure
      | some plan => simp only [halts_bind_iff, not_halts_modify, not_halts_pure, and_false,
          exists_false, or_self] at halts
  · obtain ⟨_, _, got, gives⟩ := gives_bind_iff.mp gives
    obtain ⟨rfl, rfl⟩ := gives_get_iff.mp got
    rw [notDerived] at gives
    obtain ⟨answer, u, supplied, gives⟩ := gives_bind_iff.mp gives
    cases answer with
    | none =>
      obtain ⟨-, rfl⟩ := gives_pure_iff.mp gives
      exact Or.inr supplied
    | some plan =>
      obtain ⟨_, _, -, gives⟩ := gives_bind_iff.mp gives
      exact absurd (gives_pure_iff.mp gives).1 (Option.some_ne_none _)

/-- A pair that can be written is rejected before its mapping is searched for, or because none is found. -/
theorem planPair_halts (h : (p.planPair nested m pair).Halts s t) :
    s = t ∨ ∃ source target, p.writable m pair = true ∧ p.Wants m pair source target ∧
      Resolution.route p.types p.book source target = .ask ∧
      ((nested source target).Halts s t ∨ (nested source target).Gives s none t) := by
  unfold planPair at h
  rcases halts_bind_iff.mp h with told | ⟨_, _, told, h⟩
  · exact absurd told not_halts_tell
  obtain rfl := gives_tell_iff.mp told
  split at h
  · exact absurd h not_halts_pure
  rename_i action writes
  rcases halts_bind_iff.mp h with h | ⟨conversion, u, -, h⟩
  · rw [halts_within_iff] at h
    unfold Resolution.resolve at h
    rcases halts_bind_iff.mp h with h | ⟨target, _, hint, h⟩
    · exact Or.inl (halts_ofExcept_iff.mp h).2
    obtain ⟨target_eq, rfl⟩ := gives_ofExcept_iff.mp hint
    rcases halts_bind_iff.mp h with told | ⟨_, _, told, h⟩
    · exact absurd told not_halts_tell
    obtain rfl := gives_tell_iff.mp told
    unfold Resolution.follow at h
    split at h
    · exact absurd h not_halts_pure
    · exact absurd h not_halts_pure
    · exact absurd h not_halts_pure
    · exact absurd h not_halts_pure
    · rename_i route_eq
      refine Or.inr ⟨_, target, writable_of_writes writes, ⟨rfl, target_eq⟩, route_eq, ?_⟩
      rcases halts_bind_iff.mp h with halts | ⟨answer, u, found, h⟩
      · exact Or.inl halts
      · cases answer with
        | some n => simp only [halts_bind_iff, not_halts_tell, not_halts_pure, and_false, exists_false,
            or_self] at h
        | none =>
          obtain rfl := halts_reject_iff.mp h
          exact Or.inr found
  · simp only [halts_bind_iff, not_halts_tell, not_halts_pure, and_false, exists_false, or_self] at h

/-- A derived plan is refused at the limit, or because the method is rejected. -/
theorem deriveWithin_refused (h : (p.deriveWithin frames m).Halts s t ∨ (p.deriveWithin frames m).Gives s none t) :
    s = t ∨ frames.length < p.config.maxNestingDepth ∧ (p.planWith p.deriveWithin frames m).Halts s t := by
  rw [p.follows_deriveWithin] at h
  unfold supplyNext at h
  split at h
  · rcases h with halts | gives
    · simp only [halts_bind_iff, not_halts_tell, not_halts_pure, and_false, exists_false, or_self] at halts
    · obtain ⟨_, _, told, gives⟩ := gives_bind_iff.mp gives
      exact Or.inl ((gives_tell_iff.mp told).trans (gives_pure_iff.mp gives).2)
  · rename_i below
    rcases h with halts | gives
    · rw [halts_within_iff, halts_map_iff] at halts
      exact Or.inr ⟨Nat.lt_of_not_le below, halts⟩
    · rw [gives_within_iff, gives_map_iff] at gives
      obtain ⟨_, -, none⟩ := gives
      exact absurd none (Option.some_ne_none _)

/-- **What is rejected is left in a reached situation**: by induction on how many more methods may be in
progress, and then on the pairs. -/
theorem Point.halts :
    ∀ {room : Nat} {frames : List Frame} {m : MappingMethod} {pairs : List CorrelatedProperty}
      {s t : PlanState} {built : List MappingPlan},
      p.config.maxNestingDepth - frames.length = room → p.Point root cache frames m pairs s built →
      (p.planPairs (p.nestedMapping p.deriveWithin frames) m pairs).Halts s t →
        ∃ b, p.Reached root cache b ∧ b.state = t
  | _, _, _, [], _, _, _, _, _, h => absurd h not_halts_pure
  | room, frames, m, pair :: pairs, s, t, built, room_eq, point, h => by
    unfold planPairs at h
    rcases halts_bind_iff.mp h with first | ⟨r, u, planned, h⟩
    · rcases planPair_halts first with rfl | ⟨source, target, written, wants, route_eq, refused⟩
      · exact ⟨_, .point point, rfl⟩
      -- where the mapping is looked up, only its absence is left for the pair to be rejected
      rcases nestedMapping_cases p.deriveWithin frames s route_eq with ⟨answer, found⟩ | fresh
      · rcases refused with halts | gives
        · exact absurd halts found.not_halts
        · exact ⟨_, .point point, (found.unique gives).2⟩
      -- where it is derived, the limit changes nothing, and the method may be rejected inside
      rcases deriveWithin_refused (fresh.nestedMapping_refused refused) with rfl | ⟨room, halts⟩
      · exact ⟨_, .point point, rfl⟩
      have derives : p.Derives frames m pair s source target := ⟨written, wants, fresh, room⟩
      rcases planWith_halts halts with opening | ⟨inner, u, opens, halts⟩
      · exact ⟨_, .derived point derives opening, rfl⟩
      · exact Point.halts rfl (.inside point derives opens) halts
    · rcases halts_bind_iff.mp h with others | ⟨_, _, -, h⟩
      · exact Point.halts room_eq (.next point planned) others
      · exact absurd h not_halts_pure
termination_by room _ _ pairs => (room, pairs.length)
decreasing_by
  · rw [List.length_append, List.length_singleton]
    exact Prod.Lex.left _ _ (by omega)
  · exact Prod.Lex.right _ (Nat.lt_succ_self _)

/-- **Wherever the planning of a root ends, it ends in a reached situation.** -/
theorem exists_reached_end (p : Planner) (root : MappingMethod) (cache : ShapeCache) :
    ∃ b, p.Reached root cache b ∧ b.state = ((p.planRoot root).run ⟨cache, []⟩).state := by
  rcases gives_or_halts (p.planRoot root) ⟨cache, []⟩ with ⟨plan, gives⟩ | halts
  · exact ⟨_, reached_of_gives gives, rfl⟩
  · rw [← planWith_eq_planRoot p.follows_deriveWithin] at halts ⊢
    rcases planWith_halts halts with opening | ⟨pairs, u, opens, halts⟩
    · exact ⟨_, .opening opening, rfl⟩
    · exact Point.halts rfl (.opened opens) halts

end Planner

end BeanMapping
