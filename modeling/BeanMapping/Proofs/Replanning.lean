import BeanMapping.Proofs.DiscoveryOrder
import BeanMapping.Proofs.Outlines
import BeanMapping.Proofs.Situations

/-!
# Planning a derived method again

A planner records the methods that it has derived, and refers to them where they are asked for again. What
it would plan for such a method, had nothing been recorded, has the same outline. This is so in every
situation that the planner reaches while it plans a root; when the root is no longer in progress, its plan is
finished, and its types would be those of a derived method.

In a reached situation each method that a recorded one needs is recorded, in progress, or planned and about to
be recorded (`Closed`). So planning afresh never lacks a method, unless it meets the limit; and what it
plans is settled by the outline of the method.

Results:
* **`Point.ledger`**: what is true before each pair, by induction on how it is reached;
* **`Closed.derive_proceeds`**: recorded methods can be derived again, by induction on how much deeper methods
  may be nested;
* **`Generator.derived_plans_agree`**: planning a recorded method again stops at the limit or gives its
  outline.
-/

namespace BeanMapping

namespace Planner

open Narrated
open MappingPlan (embedded allProperties)

variable {p : Planner} {shapes : ShapeView} {cache : ShapeCache} {deeper : Nat}
  {frames inner : List Frame} {m root : MappingMethod} {pair : CorrelatedProperty}
  {pairs : List CorrelatedProperty} {s t u : PlanState} {xs : List (PlannedProperty MappingPlan)}
  {source target : TypeName} {plan q : MappingPlan} {built all : List MappingPlan} {b : Situation}

/-! ## Steps -/

/-- Opening changes no more than the shapes, and not what is seen of them. -/
theorem Opening.sameSight (h : p.Opening m s t) : p.SameSight s t := by
  cases h with
  | start => exact ⟨rfl, rfl⟩
  | source h => exact ⟨view_of_introspect h, derived_of_introspect h⟩
  | target h h' =>
    exact ⟨(view_of_introspect h').trans (view_of_introspect h),
      (derived_of_introspect h').trans (derived_of_introspect h)⟩

theorem nestedMapping_deriveWithin (p : Planner) (frames : List Frame) :
    p.nestedMapping p.deriveWithin frames =
      p.nestedMapping (p.derive (p.config.maxNestingDepth - frames.length)) frames :=
  nestedMapping_congr rfl

/-- A pair that was planned has a derivation. -/
theorem planned_of_planPair {r : Option (PlannedProperty MappingPlan)}
    (h : (p.planPair (p.nestedMapping p.deriveWithin frames) m pair).Gives s r t) :
    p.Planned (p.config.maxNestingDepth - frames.length) frames m [pair] s r.toList t := by
  have nothing : (p.planPairs (p.nestedMapping p.deriveWithin frames) m []).Gives t [] t :=
    gives_pure_iff.mpr ⟨rfl, rfl⟩
  have gives := planPairs_gives_cons h nothing
  rw [List.append_nil, nestedMapping_deriveWithin] at gives
  exact planned_of_gives gives

/-- A method that was planned was opened, and its pairs have a derivation. -/
theorem planned_of_planWith (h : (p.planWith p.deriveWithin frames m).Gives s plan t) :
    ∃ pairs u xs deeper, p.Opens m s pairs u ∧
      p.Planned deeper (frames ++ [frameOf m]) m pairs u xs t ∧ plan = planOf m xs := by
  obtain ⟨pairs, u, xs, opens, planned, rfl⟩ := planWith_gives h
  rw [nestedMapping_deriveWithin] at planned
  exact ⟨pairs, u, xs, _, opens, planned_of_gives planned, rfl⟩

/-! ## Recorded methods -/

/-- The types are those of a plan of the list, or of a method in progress. -/
def Mapped (frames : List Frame) (plans : List MappingPlan) (pair : TypeName × TypeName) : Prop :=
  pair ∈ plans.map MappingPlan.pair ∨ pair ∈ frames.map Frame.pair

/-- The plan is that of a method that is derived: it has the outline of this method, and what the method needs
is mapped. -/
structure Supported (p : Planner) (root : MappingMethod) (shapes : ShapeView) (frames : List Frame)
    (plans : List MappingPlan) (q : MappingPlan) : Prop where
  nestable : p.Nestable q.sourceType q.targetType
  outlined : p.Outlined root shapes (p.derivedMethod q.sourceType q.targetType) q
  needs : ∀ source target, p.Needs shapes (p.derivedMethod q.sourceType q.targetType) source target →
    Mapped frames plans (source, target)

/-- **The methods of some plans need no others**, but for those in progress. -/
def Closed (p : Planner) (root : MappingMethod) (shapes : ShapeView) (frames : List Frame)
    (plans : List MappingPlan) : Prop :=
  ∀ q ∈ plans, p.Supported root shapes frames plans q

theorem Mapped.append {pair : TypeName × TypeName} (h : Mapped frames built pair) (plans : List MappingPlan) :
    Mapped frames (built ++ plans) pair := by
  unfold Mapped
  rw [List.map_append]
  exact h.imp_left (List.mem_append_left _)

theorem Mapped.inside {pair : TypeName × TypeName} (h : Mapped frames built pair) (f : Frame) :
    Mapped (frames ++ [f]) built pair := by
  unfold Mapped
  rw [List.map_append]
  exact h.imp_right (List.mem_append_left _)

/-- The last method in progress is one of the list instead. -/
theorem Mapped.outside {pair : TypeName × TypeName} {f : Frame} (h : Mapped (frames ++ [f]) built pair)
    (same : q.pair = f.pair) : Mapped frames (built ++ [q]) pair := by
  rcases h with recorded | inProgress
  · exact Mapped.append (Or.inl recorded) _
  · unfold Mapped
    rw [List.map_append, List.mem_append, List.map_singleton, List.mem_singleton] at inProgress ⊢
    rw [same]
    exact inProgress.elim Or.inr fun own => Or.inl (Or.inr own)

/-- A plan is still supported where what was mapped is still mapped. -/
theorem Supported.mono (h : p.Supported root shapes frames built q)
    (mapped : ∀ a, Mapped frames built a → Mapped inner all a) : p.Supported root shapes inner all q :=
  ⟨h.nestable, h.outlined, fun source target needed => mapped _ (h.needs source target needed)⟩

/-- **What is true of planning a root**: the recorded methods are those whose plans were built, and these
need no others. -/
structure Ledger (p : Planner) (root : MappingMethod) (shapes : ShapeView) (frames : List Frame)
    (s : PlanState) (built : List MappingPlan) : Prop where
  view_eq : p.view s = shapes
  derived_eq : s.derived = built.map MappingPlan.reference
  underway : p.Underway root frames s
  closed : p.Closed root shapes frames built

theorem pairs_of_derived_eq (recorded : s.derived = built.map MappingPlan.reference) :
    s.derived.map NestedMapping.pair = built.map MappingPlan.pair := by
  rw [recorded, List.map_map]
  rfl

/-- What is seen and recorded is all that counts. -/
theorem Ledger.of_sameSight (ledger : p.Ledger root shapes frames s built) (sight : p.SameSight s t) :
    p.Ledger root shapes frames t built :=
  ⟨sight.1.trans ledger.view_eq, sight.2.trans ledger.derived_eq, ledger.underway.of_derived_eq sight.2,
    ledger.closed⟩

/-- What a method needs whose properties were planned is recorded or in progress. -/
theorem Planned.covers (h : p.Planned deeper frames m pairs s xs t) (bare : Bare s)
    (recorded : t.derived = built.map MappingPlan.reference) {m' : MappingMethod}
    (outlined : p.Outlined root shapes m' q) (sub : ∀ x ∈ q.properties, x ∈ allProperties xs)
    (needs : p.Needs shapes m' source target) : Mapped frames built (source, target) := by
  unfold Mapped
  rw [← pairs_of_derived_eq recorded]
  obtain ⟨_, ys, opens, settled, -, rfl⟩ := outlined
  obtain ⟨x, mem, n, refers, pair_eq⟩ := needs.exists_reference opens (fulfils_of_settled settled)
  rcases h.accounted bare x (sub x mem) n refers with ⟨d, hd, creates, rfl⟩ | inProgress | recorded
  · exact absurd pair_eq.symm (ne_of_undeclared needs.nestable.undeclared hd creates)
  · obtain ⟨f, hf, made⟩ := List.mem_map.mp inProgress
    have types : f.pair = n.pair := congrArg NestedMapping.pair made
    exact Or.inr (List.mem_map.mpr ⟨f, hf, types.trans pair_eq⟩)
  · exact Or.inl (List.mem_map.mpr ⟨n.bare, recorded, pair_eq⟩)

/-- Planning pairs records the methods whose plans are embedded. -/
theorem Ledger.planned (ledger : p.Ledger root shapes frames s built)
    (h : p.Planned deeper frames m pairs s xs t) :
    p.Ledger root shapes frames t (built ++ embedded xs) := by
  have bare := ledger.underway.bare
  have derived_eq : t.derived = (built ++ embedded xs).map MappingPlan.reference := by
    rw [h.derived_eq bare, List.map_append, ledger.derived_eq]
  refine ⟨h.view_eq.trans ledger.view_eq, derived_eq, h.underway ledger.underway, ?_⟩
  refine List.forall_mem_append.mpr ⟨fun q mem => ?_, fun q mem => ?_⟩
  · exact (ledger.closed q mem).mono fun _ mapped => mapped.append _
  · have outlined := h.outlined_embedded ledger.underway mem
    rw [ledger.view_eq] at outlined
    refine ⟨(h.origin bare ledger.underway.contracted q mem).nestable, outlined, fun a b needed => ?_⟩
    refine h.covers bare derived_eq outlined (fun x hx => ?_) needed
    exact MappingPlan.mem_allProperties_iff.mpr (Or.inr ⟨q, mem, hx⟩)

/-- Opening a method that has to be derived records nothing. -/
theorem Ledger.inside (ledger : p.Ledger root shapes frames s built)
    (fresh : p.Fresh frames s.derived source target)
    (opens : p.Opens (p.derivedMethod source target) s pairs t) :
    p.Ledger root shapes (frames ++ [frameOf (p.derivedMethod source target)]) t built := by
  refine ⟨opens.opensOver.2.trans ledger.view_eq, opens.derived_eq.trans ledger.derived_eq,
    ledger.underway.inside fresh opens, fun q mem => ?_⟩
  exact (ledger.closed q mem).mono fun _ mapped => mapped.inside _

/-- **What is true before each pair**: by induction on how it is reached. -/
theorem Point.ledger (h : p.Point root cache frames m pairs s built) :
    p.Ledger root (p.view ⟨cache, []⟩) frames s built := by
  induction h with
  | opened opens =>
    exact ⟨opens.opensOver.2, opens.derived_eq, underway_root opens rfl,
      fun q mem => absurd mem List.not_mem_nil⟩
  | next _ planned ih => exact ih.planned (planned_of_planPair planned)
  | inside _ derives opens ih => exact ih.inside derives.fresh opens

/-! ## Planning afresh -/

/-- The event tells that the limit was met. -/
def AtLimit (p : Planner) (e : Event) : Prop := ∃ m, e = p.limitEvent m

theorem Outlined.isPlanOf (h : p.Outlined root shapes m plan) : p.IsPlanOf shapes m plan := by
  obtain ⟨pairs, xs, opens, settled, -, rfl⟩ := h
  exact ⟨pairs, xs, opens, fulfils_of_settled settled, rfl⟩

/-- A method of a closed list is planned, unless the supplier of derived plans tells of the limit: it is
asked for methods of the list only. -/
theorem Closed.planWith_proceeds (supply : Supplier) (closed : p.Closed root shapes frames all)
    (sub : frames.map Frame.pair ⊆ inner.map Frame.pair)
    (mem : (source, target) ∈ all.map MappingPlan.pair)
    (supplied : ∀ a b, (a, b) ∈ all.map MappingPlan.pair →
      p.Proceeds shapes p.AtLimit (supply (inner ++ [frameOf (p.derivedMethod source target)])
        (p.derivedMethod a b)) (· ≠ none)) :
    p.Proceeds shapes p.AtLimit (p.planWith supply inner (p.derivedMethod source target))
      fun _ => True := by
  obtain ⟨q, hq, types⟩ := List.mem_map.mp mem
  obtain ⟨rfl, rfl⟩ := Prod.mk.inj types
  obtain ⟨-, outlined, needs⟩ := closed q hq
  obtain ⟨pairs, opens, settled⟩ := outlined.isPlanOf.settledBy fun _ _ => trivial
  refine Planner.planWith_proceeds opens (fun pair mem writes => ?_) fun a b needed free => ?_
  · obtain ⟨x, settles, -⟩ := settled pair mem writes
    exact ⟨x, settles⟩
  · refine supplied a b ((needs a b needed).resolve_right fun inProgress => free ?_)
    rw [List.map_append]
    exact List.mem_append_left _ (sub inProgress)

/-- **A method of a closed list is derived, unless the limit is met**: by induction on how much deeper methods
may be nested. -/
theorem Closed.derive_proceeds (closed : p.Closed root shapes frames all) :
    ∀ (deeper : Nat) (inner : List Frame) (source target : TypeName),
      frames.map Frame.pair ⊆ inner.map Frame.pair → (source, target) ∈ all.map MappingPlan.pair →
        p.Proceeds shapes p.AtLimit (p.derive deeper inner (p.derivedMethod source target)) (· ≠ none)
  | 0, _, source, target, _, _ => by
    intro s _
    refine Or.inr ⟨p.limitEvent (p.derivedMethod source target), ?_, _, rfl⟩
    unfold derive
    exact told_bind_of_left _ List.mem_cons_self
  | deeper + 1, inner, source, target, sub, mem => by
    have planned := closed.planWith_proceeds (p.derive deeper) sub mem fun a b mem => by
      refine closed.derive_proceeds deeper _ a b ?_ mem
      rw [List.map_append]
      exact List.subset_append_of_subset_left _ sub
    intro s view
    unfold derive
    refine GivesUnless.within (GivesUnless.map (planned s view) fun plan t kept => ?_) _
    exact ⟨Option.some_ne_none _, kept.2⟩

/-- **Planning the method of a plan again** from a state, with nothing recorded. -/
def planAfresh (p : Planner) (frames : List Frame) (s : PlanState) (q : MappingPlan) :
    Narration Report Event PlanState MappingPlan :=
  (p.planWith p.deriveWithin frames (p.derivedMethod q.sourceType q.targetType)).run
    { s with derived := [] }

/-- **This stops at the limit, or gives the outline of the plan.** -/
def AgreesAfresh (p : Planner) (frames : List Frame) (s : PlanState) (q : MappingPlan) : Prop :=
  (∃ plan, (p.planAfresh frames s q).result = .ok plan ∧ plan.bare = q.bare) ∨
    (∃ r, (p.planAfresh frames s q).result = .error r) ∧ ∃ e ∈ (p.planAfresh frames s q).told, p.AtLimit e

/-- **Methods of a closed list that are recorded are planned afresh alike.** -/
theorem Closed.agreesAfresh (closed : p.Closed root shapes frames all) (view : p.view s = shapes)
    (underway : p.Underway root frames s) (mem : q ∈ all) (recorded : q.reference ∈ s.derived) :
    p.AgreesAfresh frames s q := by
  obtain ⟨nestable, outlined, -⟩ := closed q mem
  have fresh : p.Fresh frames [] q.sourceType q.targetType := underway.fresh_of_forget recorded nestable
  have alike : ∀ plan t, (p.planWith p.deriveWithin frames (p.derivedMethod q.sourceType q.targetType)).Gives
      { s with derived := [] } plan t → plan.bare = q.bare := by
    intro plan t gives
    obtain ⟨pairs, u, xs, deeper, opens, planned, rfl⟩ := planned_of_planWith gives
    have opensOver := opens.opensOver.1
    rw [view_derived, view] at opensOver
    exact (planned.outlined (underway.forget.inside fresh opens) opensOver).bare_eq outlined
  have proceeds := closed.planWith_proceeds p.deriveWithin (List.Subset.refl _)
    (List.mem_map_of_mem mem) fun a b mem => by
      refine closed.derive_proceeds _ _ a b ?_ mem
      rw [List.map_append]
      exact List.subset_append_left _ _
  unfold AgreesAfresh
  cases result : (p.planAfresh frames s q).result with
  | ok plan => exact Or.inl ⟨plan, rfl, alike plan _ (gives_of_result result)⟩
  | error r =>
    refine Or.inr ⟨⟨r, rfl⟩, (proceeds { s with derived := [] } view).resolve_left ?_⟩
    rintro ⟨plan, t, gives, -⟩
    exact absurd gives (Fails.not_gives result)

/-- A method that was planned and is about to be recorded closes the list. -/
theorem Ledger.closed_with (ledger : p.Ledger root shapes frames s built)
    (fresh : p.Fresh frames s.derived source target)
    (opens : p.Opens (p.derivedMethod source target) s pairs t)
    (planned : p.Planned deeper (frames ++ [frameOf (p.derivedMethod source target)])
      (p.derivedMethod source target) pairs t xs u) :
    p.Closed root shapes frames
      (built ++ embedded xs ++ [planOf (p.derivedMethod source target) xs]) := by
  have opened := ledger.inside fresh opens
  have after := opened.planned planned
  have opensOver := opens.opensOver.1
  rw [ledger.view_eq] at opensOver
  have outlined := planned.outlined opened.underway opensOver
  -- the method was in progress when these were planned, and is one of the list now
  have moved : ∀ a, Mapped (frames ++ [frameOf (p.derivedMethod source target)]) (built ++ embedded xs) a →
      Mapped frames (built ++ embedded xs ++ [planOf (p.derivedMethod source target) xs]) a :=
    fun _ mapped => mapped.outside rfl
  refine List.forall_mem_append.mpr ⟨fun q mem => (after.closed q mem).mono moved,
    List.forall_mem_singleton.mpr ⟨fresh.toNestable, outlined, fun a b needed => moved _ ?_⟩⟩
  exact planned.covers opened.underway.bare after.derived_eq outlined
    (fun x hx => MappingPlan.mem_allProperties_iff.mpr (Or.inl hx)) needed

theorem Ledger.mem_derived (ledger : p.Ledger root shapes frames s built) (mem : q ∈ built) :
    q.reference ∈ s.derived := by
  rw [ledger.derived_eq]
  exact List.mem_map_of_mem mem

theorem Ledger.agreesAfresh (ledger : p.Ledger root shapes frames s built) (mem : q ∈ built) :
    p.AgreesAfresh frames s q :=
  ledger.closed.agreesAfresh ledger.view_eq ledger.underway mem (ledger.mem_derived mem)

/-- **In every reached situation the plans that were built are those of the recorded methods**, which are
planned afresh alike. -/
theorem Reached.agreesAfresh (h : p.Reached root cache b) :
    b.state.derived = b.built.map MappingPlan.reference ∧
      ∀ q ∈ b.built, p.AgreesAfresh b.inProgress b.state q := by
  cases h with
  | opening opening => exact ⟨opening.sameSight.2, fun q mem => absurd mem List.not_mem_nil⟩
  | point point => exact ⟨point.ledger.derived_eq, fun q mem => point.ledger.agreesAfresh mem⟩
  | derived point derives opening =>
    have ledger := point.ledger.of_sameSight opening.sameSight
    exact ⟨ledger.derived_eq, fun q mem => ledger.agreesAfresh mem⟩
  | planned point derives gives =>
    have ledger := point.ledger
    obtain ⟨pairs, u, xs, deeper, opens, planned, rfl⟩ := planned_of_planWith gives
    have after := (ledger.inside derives.fresh opens).planned planned
    have underway := after.underway.outside ledger.underway.root_mem
    have closed := ledger.closed_with derives.fresh opens planned
    refine ⟨after.derived_eq, fun q mem => ?_⟩
    exact closed.agreesAfresh after.view_eq underway (List.mem_append_left _ mem) (after.mem_derived mem)

end Planner

/-! ## Planning a root -/

namespace Generator

open Planner (frameOf)
open MappingPlan (embedded)

/-- **Recorded methods are planned afresh alike.** In every situation that a planner reaches while it plans a
root, the recorded methods are those of the plans that were built. Planning one of these methods again, with
nothing recorded, stops at the nesting limit or gives its plan, but for the plans that are embedded. -/
theorem derived_plans_agree (g : Generator) (declared : List MappingMethod) (root : MappingMethod)
    {cache : ShapeCache} {b : Situation} (reached : (g.planner declared root).Reached root cache b) :
    b.state.derived = b.built.map MappingPlan.reference ∧
      ∀ q ∈ b.built, (g.planner declared root).AgreesAfresh b.inProgress b.state q :=
  reached.agreesAfresh

/-- Plans a root with nothing declared. -/
def rootRun (g : Generator) (root : MappingMethod) : Narration Report Event PlanState MappingPlan :=
  ((g.planner [] root).planRoot root).run ⟨.empty, []⟩

/-- Plans a derived method again when the root is planned. -/
def replanned (g : Generator) (root : MappingMethod) (q : MappingPlan) : Except Report MappingPlan :=
  ((g.planner [] root).planAfresh [frameOf root] (g.rootRun root).state q).result

/-- A box stands on a shelf, whose method is in progress, and holds an item, whose method was recorded. Planned
afresh, the method of a box derives that of an item, with the same outline. -/
theorem derived_plans_agree_for_shelf : ∃ plan, (shelves.rootRun mapShelf).result = .ok plan ∧
    (embedded plan.properties).map MappingPlan.method = ["map_item_to_item_dto", "map_box_to_box_dto"] ∧
    ∀ q ∈ embedded plan.properties, ∃ again,
      shelves.replanned mapShelf q = .ok again ∧ again.bare = q.bare := by
  obtain ⟨plan, planned, evaluated⟩ := Narrated.exists_ok_of_any
    (show (shelves.rootRun mapShelf).result.toOption.any (fun plan =>
      (embedded plan.properties).map MappingPlan.method == ["map_item_to_item_dto", "map_box_to_box_dto"] &&
        (embedded plan.properties).all fun q => (shelves.replanned mapShelf q).isOk) = true by decide +kernel)
  rw [Bool.and_eq_true, beq_iff_eq, List.all_eq_true] at evaluated
  have gives : ((shelves.planner [] mapShelf).planRoot mapShelf).Gives ⟨.empty, []⟩ plan
      (shelves.rootRun mapShelf).state := ⟨planned, rfl⟩
  obtain ⟨-, agree⟩ := derived_plans_agree shelves [] mapShelf (Planner.reached_of_gives gives)
  dsimp only at agree
  refine ⟨plan, planned, evaluated.1, fun q mem => ?_⟩
  rcases agree q mem with ⟨again, accepted, same⟩ | ⟨⟨r, refused⟩, -⟩
  · exact ⟨again, accepted, same⟩
  · obtain ⟨again, accepted⟩ := Narrated.isOk_eq_true_iff.mp (evaluated.2 q mem)
    cases refused.symm.trans accepted

/-- Where methods may be nested only two deep, a lead refers to the method of his home, which was recorded. Planned
afresh, his method would derive it, which is too deep. -/
example : (shallowTeams.rootRun mapTeam).result.toOption.map (fun plan =>
    (embedded plan.properties).map fun q => (q.method, (shallowTeams.replanned mapTeam q).isOk)) =
      some [("map_address_to_address_dto", true), ("map_person_to_person_dto", false)] := by
  decide +kernel

end Generator

end BeanMapping
