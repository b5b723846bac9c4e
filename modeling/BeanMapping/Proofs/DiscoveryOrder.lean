import BeanMapping.Proofs.ExactCorrelation
import BeanMapping.Proofs.NestingLimit
import BeanMapping.Proofs.ReorderedTypes

/-!
# The order in which nested methods are found

Two registries that differ only in the order of members (`Registry.DiffersInOrder`), where the properties of
the reordered beans correlate by exact names only. A method has the same pairs over both, in another order.
So a root reaches the same methods over both, and each is acceptable over both or over none.

Results:
* **`Planner.reaches_of_order`**, **`Planner.SettledBy.of_order`**: what a root reaches, and what can be
  planned;
* **`Generator.order_matters_at_limit`**: what is planned over one registry is planned over the other,
  unless a limit is met there that is less than the number of plans;
* **`Generator.order_decides_at_limit`**: below that number the order may decide.
-/

namespace BeanMapping

open Introspection (describedShape shapeOf)
open Correlation (ByExactNames)

/-! ## Registries -/

namespace Registry

variable {r r' : Registry} {i : Inflector} {precedence : NamePrecedence} {options : List PropertyOptions}

/-- The types of a registry that have their members in another order in a second one correlate with every
type by exact names only, whichever of the options hold. -/
def ExactBeside (r r' : Registry) (i : Inflector) (precedence : NamePrecedence)
    (options : List PropertyOptions) : Prop :=
  ∀ d ∈ r.items, ∀ e ∈ r.items, d ∉ r'.items ∨ e ∉ r'.items →
    ∀ o ∈ options, ByExactNames i precedence (describedShape i d) (describedShape i e) o

instance : Decidable (ExactBeside r r' i precedence options) :=
  inferInstanceAs (Decidable (∀ d ∈ r.items, ∀ e ∈ r.items, d ∉ r'.items ∨ e ∉ r'.items →
    ∀ o ∈ options, ByExactNames i precedence (describedShape i d) (describedShape i e) o))

/-- **Two registries differ only in the order of members**, of beans whose properties correlate by exact
names only over either. -/
structure DiffersInOrder (r r' : Registry) (i : Inflector) (precedence : NamePrecedence)
    (options : List PropertyOptions) : Prop where
  reordered : r.Reordered r'
  exact : r.ExactBeside r' i precedence options
  exact' : r'.ExactBeside r i precedence options

instance : Decidable (r.DiffersInOrder r' i precedence options) :=
  decidable_of_iff (r.Reordered r' ∧ r.ExactBeside r' i precedence options ∧
      r'.ExactBeside r i precedence options)
    ⟨fun ⟨reordered, exact, exact'⟩ => ⟨reordered, exact, exact'⟩,
      fun ⟨reordered, exact, exact'⟩ => ⟨reordered, exact, exact'⟩⟩

theorem DiffersInOrder.symm (h : r.DiffersInOrder r' i precedence options) :
    r'.DiffersInOrder r i precedence options :=
  ⟨h.reordered.symm, h.exact', h.exact⟩

/-- Types of which one is described differently correlate by exact names only. -/
theorem ExactBeside.byExactNames (h : r.ExactBeside r' i precedence options) {t u : TypeName}
    {source target : BeanShape} {o : PropertyOptions} (mem : o ∈ options)
    (source_eq : shapeOf r i t = .ok source) (target_eq : shapeOf r i u = .ok target)
    (differ : ¬(r.describe t = r'.describe t ∧ r.describe u = r'.describe u)) :
    ByExactNames i precedence source target o := by
  by_cases beans : r.isBean t = true ∧ r.isBean u = true
  · obtain ⟨d, hd, -⟩ := (Option.any_eq_true _ _).mp beans.1
    obtain ⟨e, he, -⟩ := (Option.any_eq_true _ _).mp beans.2
    obtain rfl := Except.ok.inj (source_eq.symm.trans (Introspection.shapeOf_of_describe hd))
    obtain rfl := Except.ok.inj (target_eq.symm.trans (Introspection.shapeOf_of_describe he))
    refine h d (Keyed.mem_of_find? hd) e (Keyed.mem_of_find? he) ?_ o mem
    by_contra kept
    rw [not_or, not_not, not_not] at kept
    obtain rfl := name_of_describe hd
    obtain rfl := name_of_describe he
    have same : r'.describe d.name = some d ∧ r'.describe e.name = some e :=
      ⟨find?_of_nodup r'.distinct kept.1, find?_of_nodup r'.distinct kept.2⟩
    exact differ ⟨hd.trans same.1.symm, he.trans same.2.symm⟩
  · refine Correlation.byExactNames_of_nil ?_
    rw [not_and_or, Bool.not_eq_true, Bool.not_eq_true] at beans
    exact beans.imp (Introspection.properties_eq_nil source_eq) (Introspection.properties_eq_nil target_eq)

end Registry

/-! ## Planning -/

namespace Planner

variable {p : Planner} {types : Registry} {m root : MappingMethod} {pair : CorrelatedProperty}
  {pairs : List CorrelatedProperty} {source target : TypeName} {x : PlannedProperty MappingPlan}
  {c : Option (Conversion MappingPlan)} {options : List PropertyOptions}

/-- The planner over other types. -/
def withTypes (p : Planner) (types : Registry) : Planner := { p with types }

/-- What introspection gives for each type. -/
def shapes (p : Planner) : ShapeView := shapeOf p.types p.inflector

/-! ### Pairs -/

section Reordered

variable (h : p.types.Reordered types)
include h

theorem Wants.of_order (wants : p.Wants m pair source target) :
    (p.withTypes types).Wants m pair source target :=
  ⟨wants.source_eq, (h.targetType_eq _ _ _).symm.trans wants.target_eq⟩

theorem Nestable.of_order (nestable : p.Nestable source target) :
    (p.withTypes types).Nestable source target :=
  ⟨(h.route_eq _ _ _).symm.trans nestable.route_eq, nestable.undeclared,
    (h.isBean_eq _).symm.trans nestable.source_bean, (h.isBean_eq _).symm.trans nestable.target_bean⟩

theorem Converts.of_order (converts : p.Converts source target c) :
    (p.withTypes types).Converts source target c := by
  have route_eq := h.route_eq p.book source target
  cases converts with
  | direct direct =>
    refine .direct ?_
    cases direct with
    | rule hr => exact .rule (route_eq.symm.trans hr)
    | generic hr => exact .generic (route_eq.symm.trans hr)
    | identity hr => exact .identity (route_eq.symm.trans hr)
    | builtin hr hb => exact .builtin (route_eq.symm.trans hr) hb
  | declared hr found => exact .declared (route_eq.symm.trans hr) found
  | supplied nestable pair_eq => exact .supplied (nestable.of_order h) pair_eq

theorem Settles.of_order (settles : p.Settles m pair x) : (p.withTypes types).Settles m pair x := by
  obtain ⟨source, target, wants, converts, contracted⟩ := settles.resolves
  exact ⟨settles.source_eq, settles.target_eq, settles.writes, source, target, wants.of_order h,
    converts.of_order h, contracted⟩

end Reordered

/-! ### Methods -/

section Differs

variable (h : p.types.DiffersInOrder types p.inflector p.config.namePrecedence options)
include h

/-- **A method has the same pairs over both registries**, in another order. -/
theorem OpensOver.of_order (mem : m.options ∈ options) (opens : p.OpensOver p.shapes m pairs) :
    ∃ pairs', (p.withTypes types).OpensOver (p.withTypes types).shapes m pairs' ∧
      ∀ pair, pair ∈ pairs ↔ pair ∈ pairs' := by
  obtain ⟨source, target, hs, ht, writable, correlated⟩ := opens
  obtain ⟨source', hs', source_perm, source_same⟩ := h.reordered.shapeOf hs
  obtain ⟨target', ht', target_perm, target_same⟩ := h.reordered.shapeOf ht
  have writable' : Introspection.writable? m.targetType target' = .ok target' := by
    have same : target.isWritable = target'.isWritable := target_perm.any_eq
    unfold Introspection.writable? at writable ⊢
    rw [same] at writable
    split at writable
    · rename_i test
      rw [if_pos test]
    · cases writable
  by_cases same : p.types.describe m.sourceType = types.describe m.sourceType ∧
      p.types.describe m.targetType = types.describe m.targetType
  · obtain rfl := source_same same.1
    obtain rfl := target_same same.2
    exact ⟨pairs, ⟨source, target, hs', ht', writable', correlated⟩, fun _ => Iff.rfl⟩
  · have exact := h.exact.byExactNames mem hs ht same
    obtain ⟨pairs', correlated', all'⟩ := h.exact'.byExactNames mem hs' ht' fun ⟨hs, ht⟩ =>
      same ⟨hs.symm, ht.symm⟩
    obtain ⟨_, correlated_eq, all⟩ := exact
    obtain rfl := Except.ok.inj (correlated.symm.trans correlated_eq)
    refine ⟨pairs', ⟨source', target', hs', ht', writable', correlated'⟩, fun pair => ?_⟩
    have readable : source.readable.Perm source'.readable := source_perm.filter _
    have targets : (Correlation.targetsOf m.options target).Perm (Correlation.targetsOf m.options target') :=
      target_perm.filter _
    rw [Correlation.mem_iff_of_exact (Introspection.sound_of_shapeOf hs).nodup
        (Introspection.sound_of_shapeOf ht).nodup correlated all,
      Correlation.mem_iff_of_exact (Introspection.sound_of_shapeOf hs').nodup
        (Introspection.sound_of_shapeOf ht').nodup correlated' all', readable.mem_iff, targets.mem_iff]

/-- A method that can be settled over one registry can be settled over the other, by the same. -/
theorem SettledBy.of_order {P : PlannedProperty MappingPlan → Prop} (mem : m.options ∈ options)
    (settled : p.SettledBy p.shapes m P) : (p.withTypes types).SettledBy (p.withTypes types).shapes m P := by
  obtain ⟨pairs, opens, settled⟩ := settled
  obtain ⟨pairs', opens', same⟩ := opens.of_order h mem
  refine ⟨pairs', opens', fun pair hp writable => ?_⟩
  obtain ⟨x, settles, hx⟩ := settled pair ((same pair).mpr hp) writable
  exact ⟨x, settles.of_order h.reordered, hx⟩

theorem Acceptable.of_order (mem : m.options ∈ options) (acceptable : p.Acceptable p.shapes m) :
    (p.withTypes types).Acceptable (p.withTypes types).shapes m := by
  have settled := SettledBy.of_order h mem acceptable
  simp only [h.reordered.unchecked_iff, h.reordered.covered_iff] at settled
  exact settled

theorem Needs.of_order (mem : m.options ∈ options) (needs : p.Needs p.shapes m source target) :
    (p.withTypes types).Needs (p.withTypes types).shapes m source target := by
  obtain ⟨nestable, pairs, opens, pair, hp, writable, wants⟩ := needs
  obtain ⟨pairs', opens', same⟩ := opens.of_order h mem
  exact ⟨nestable.of_order h.reordered, pairs', opens', pair, (same pair).mp hp, writable,
    wants.of_order h.reordered⟩

end Differs

/-- A reached method has the options of the root, or none. -/
theorem Reaches.options_mem {shapes : ShapeView} (reached : p.Reaches shapes root m) :
    m.options ∈ [root.options, .empty] := by
  cases reached with
  | root => exact List.mem_cons_self
  | needed => exact List.mem_cons_of_mem _ List.mem_cons_self

section Roots

variable (h : p.types.DiffersInOrder types p.inflector p.config.namePrecedence [root.options, .empty])
include h

theorem Reaches.of_order (reached : p.Reaches p.shapes root m) :
    (p.withTypes types).Reaches (p.withTypes types).shapes root m := by
  induction reached with
  | root => exact .root
  | needed reached needs other ih => exact .needed ih (needs.of_order h reached.options_mem) other

/-- **A root reaches the same methods over both registries.** -/
theorem reaches_iff_of_order :
    p.Reaches p.shapes root m ↔ (p.withTypes types).Reaches (p.withTypes types).shapes root m :=
  ⟨fun reached => reached.of_order h,
    fun reached => Reaches.of_order (p := p.withTypes types) h.symm reached⟩

/-- **A root that is planned over one registry is planned over the other**, unless a limit is met there that
is less than the number of plans. -/
theorem planRoot_of_order {s s' t : PlanState} {plan : MappingPlan} (tree : p.PlannedTree root plan)
    (nothing : s.derived = []) (view : p.view s = p.shapes)
    (view' : (p.withTypes types).view s' = (p.withTypes types).shapes)
    (gives : (p.planRoot root).Gives s plan t) :
    ((p.withTypes types).planRoot root).GivesUnless s' (fun _ _ => True)
      ((p.withTypes types).LimitBelow plan.nodes.length) := by
  have plannable : ∀ m, (p.withTypes types).Reaches (p.withTypes types).shapes root m →
      (p.withTypes types).Plannable (p.withTypes types).shapes m ∧
        (frameOf m).pair ∈ plan.nodes.map MappingPlan.pair := by
    intro m reached'
    have reached := (reaches_iff_of_order h).mpr reached'
    have here := tree.plannable nothing gives (view ▸ reached)
    rw [view] at here
    exact ⟨SettledBy.of_order h reached.options_mem here.1, here.2⟩
  have proceeds := planRoot_proceeds (fun m reached => (plannable m reached).1)
    (fun m reached => (plannable m reached).2) s' view'
  rw [List.length_map] at proceeds
  exact proceeds.imp fun _ _ _ => trivial

end Roots

end Planner

/-! ## Generators -/

namespace Generator

variable {g : Generator} {types : Registry} {declared : List MappingMethod} {m : MappingMethod}
  {c c' : ShapeCache}

/-- The generator over other types. -/
def withTypes (g : Generator) (types : Registry) : Generator := { g with types }

/-- The types of a generator differ from others only in the order of members, of beans whose properties
correlate by exact names only in what is planned for a method. -/
def DiffersInOrder (g : Generator) (types : Registry) (m : MappingMethod) : Prop :=
  g.types.DiffersInOrder types ⟨g.config.singularOverrides⟩ g.config.namePrecedence [m.options, .empty]

instance : Decidable (g.DiffersInOrder types m) :=
  inferInstanceAs (Decidable (g.types.DiffersInOrder types _ _ _))

/-- **What one generator plans for a method, another plans as well**, unless it meets a nesting limit that
is less than the number of plans in the tree of the first; and so with what it accepts. -/
structure PlansUpToLimit (g g' : Generator) (declared : List MappingMethod) (m : MappingMethod)
    (c c' : ShapeCache) : Prop where
  planned : ∀ plan t, ((g.planner declared m).planRoot m).Gives ⟨c, []⟩ plan t →
    ((g'.planner declared m).planRoot m).GivesUnless ⟨c', []⟩ (fun _ _ => True)
      ((g'.planner declared m).LimitBelow plan.nodes.length)
  accepted : ∀ v t, (g.plan declared m).Gives c v t →
    (g'.plan declared m).GivesUnless c' (fun _ _ => True)
      ((g'.planner declared m).LimitBelow v.plan.nodes.length)

/-- Over a faithful cache a generator sees what introspection gives. -/
theorem view_eq_shapes (faithful : g.Faithful c) : g.view c = (g.planner declared m).shapes :=
  funext fun _ => faithful.introspect_eq

theorem plansUpToLimit_of_order (differs : g.DiffersInOrder types m) (faithful : g.Faithful c)
    (faithful' : (g.withTypes types).Faithful c') :
    g.PlansUpToLimit (g.withTypes types) declared m c c' := by
  have view : g.view c = (g.planner declared m).shapes := view_eq_shapes faithful
  have view' : (g.withTypes types).view c' = ((g.withTypes types).planner declared m).shapes :=
    view_eq_shapes faithful'
  refine ⟨fun plan t gives => ?_, fun v t gives => ?_⟩
  · have tree : (g.planner declared m).PlannedTree m plan := Planner.plannedTree_of_gives rfl gives
    have seen : (g.planner declared m).view ⟨c, []⟩ = (g.planner declared m).shapes := view
    have seen' : ((g.planner declared m).withTypes types).view ⟨c', []⟩ =
        ((g.planner declared m).withTypes types).shapes := view'
    exact Planner.planRoot_of_order (p := g.planner declared m) differs tree rfl seen seen' gives
  · have acceptable : ∀ m', ((g.withTypes types).planner declared m).Reaches
          ((g.withTypes types).view c') m m' →
        ((g.withTypes types).planner declared m).Acceptable ((g.withTypes types).view c') m' ∧
          (Planner.frameOf m').pair ∈ v.plan.nodes.map MappingPlan.pair := by
      intro m' reached'
      rw [view'] at reached' ⊢
      have reached := (Planner.reaches_iff_of_order (p := g.planner declared m) differs).mpr reached'
      have here := acceptable_of_gives gives (view ▸ reached)
      rw [view] at here
      exact ⟨Planner.Acceptable.of_order (p := g.planner declared m) differs reached.options_mem here.1,
        here.2⟩
    have accepts := plan_unless (fun m' reached => (acceptable m' reached).1)
      fun m' reached => (acceptable m' reached).2
    rwa [List.length_map] at accepts

/-- **The order of discovery matters at the nesting limit only.** Over two registries that differ only in
the order of members, of beans whose accessors are unique, that have no adders and whose properties
correlate by exact names only: what is planned over one is planned over the other, unless a nesting limit
is met there that is less than the number of plans of the first tree. So it is with what is accepted. -/
theorem order_matters_at_limit (declared : List MappingMethod) (differs : g.DiffersInOrder types m)
    (faithful : g.Faithful c) (faithful' : (g.withTypes types).Faithful c') :
    g.PlansUpToLimit (g.withTypes types) declared m c c' ∧
      (g.withTypes types).PlansUpToLimit g declared m c' c :=
  ⟨plansUpToLimit_of_order differs faithful faithful',
    plansUpToLimit_of_order (g := g.withTypes types) differs.symm faithful' faithful⟩

/-! ### Teams -/

/-- Teams with a home and a lead, who has a home as well. -/
def teamTypes (members : List MemberDescriptor) : Registry :=
  .ofList [
    ⟨⟨"Team"⟩, .bean, [], members⟩,
    ⟨⟨"TeamDto"⟩, .bean, [], [.writer "setHome" ⟨"AddressDto"⟩, .writer "setLead" ⟨"PersonDto"⟩]⟩,
    ⟨⟨"Person"⟩, .bean, [], [.getter "getHome" ⟨"Address"⟩]⟩,
    ⟨⟨"PersonDto"⟩, .bean, [], [.writer "setHome" ⟨"AddressDto"⟩]⟩,
    ⟨⟨"Address"⟩, .bean, [], [.getter "getCity" ⟨"String"⟩]⟩,
    ⟨⟨"AddressDto"⟩, .bean, [], [.writer "setCity" ⟨"String"⟩]⟩]

/-- Teams that name their lead first. -/
def leadFirst : Registry := teamTypes [.getter "getLead" ⟨"Person"⟩, .getter "getHome" ⟨"Address"⟩]

/-- Teams that name their home first. -/
def teams : Generator where
  types := teamTypes [.getter "getHome" ⟨"Address"⟩, .getter "getLead" ⟨"Person"⟩]
  config := .default
  book := .empty
  valid := GeneratorConfig.fault?_default

/-- The same teams, where methods may be nested only two deep. -/
def shallowTeams : Generator :=
  { teams with config := { GeneratorConfig.default with maxNestingDepth := 2 }, valid := rfl }

/-- Maps a team. -/
def mapTeam : MappingMethod where
  name := "team_to_dto"
  sourceType := ⟨"Team"⟩
  targetType := ⟨"TeamDto"⟩

/-- What a generator accepts for a team. -/
def teamOutcome (g : Generator) : Except Report VerifiedPlan := ((g.plan [] mapTeam).run .empty).result

theorem teams_differ : teams.DiffersInOrder leadFirst mapTeam := by decide +kernel

/-- Three plans fit the usual limit, in whatever order a team names its members. -/
theorem order_matters_at_limit_for_teams : ∃ v, teamOutcome teams = .ok v ∧ v.plan.nodes.length = 3 ∧
    ∃ v', teamOutcome (teams.withTypes leadFirst) = .ok v' := by
  obtain ⟨v, planned, count⟩ := Narrated.exists_ok_of_any
    (show (teamOutcome teams).toOption.any (fun v => v.plan.nodes.length == 3) = true by decide +kernel)
  rw [beq_iff_eq] at count
  have both :=
    order_matters_at_limit [] teams_differ teams.faithful_empty (teams.withTypes leadFirst).faithful_empty
  rcases both.1.accepted v _ (Narrated.gives_of_result planned) with ⟨v', _, planned', -⟩ | ⟨_, -, below, -⟩
  · exact ⟨v, planned, count, v', planned'.1⟩
  · rw [count] at below
    exact absurd below (by decide)

/-- **A limit of two decides by the order.** A home that is found first is planned below the team, and used
again for the lead. A lead that is found first has his home planned below him, which is too deep. -/
theorem order_decides_at_limit : shallowTeams.DiffersInOrder leadFirst mapTeam ∧
    (∃ v, teamOutcome shallowTeams = .ok v) ∧
      ∃ r, teamOutcome (shallowTeams.withTypes leadFirst) = .error r := by
  refine ⟨teams_differ, Narrated.isOk_eq_true_iff.mp (by decide +kernel),
    Narrated.isOk_eq_false_iff.mp (by decide +kernel)⟩

end Generator

end BeanMapping
