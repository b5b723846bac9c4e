import BeanMapping.Proofs.KeptTargets
import Mathlib.Data.List.Chain

/-!
# Nested calls

The plans of a table may refer to one another, and to themselves, in any way: nothing in a table makes a
run end. What ends it is the source. A property hands to a nested method the value that the source has
for it, or an element of that value (`parts`), and either is less deep than the source.

`NestedCall` is the relation between a method with its source and a nested method with the value that it
may be called for. A run asks for no other nested runs (`runWith_congr`), and each of these is over a
value that is less deep (`NestedCall.depth_lt`).

`runWithin` runs with a bound on how deep calls are nested: what is called beyond the bound is left to
something else, about which nothing is said. A run ends when some bound is enough, so that nothing is left.

Results:
* **`length_le_depth`**: a chain of nested calls is no longer than the source is deep;
* **`runs_end`**: the depth of the source is a bound that is always enough.
-/

namespace BeanMapping.CompiledMapping

variable {m : CompiledMapping} {depth : Nat} {σ : Type} {plan : MappingPlan}
  {x : PlannedProperty MappingPlan} {conversion : Option (Conversion MappingPlan)} {fields : Members}
  {u v : Json} {method : String}

/-! ## What a property converts -/

/-- The values that a property converts: the elements of the source value, or that value itself. -/
def parts (x : PlannedProperty MappingPlan) (v : Json) : List Json :=
  if x.action.isElementWise then itemsOf v else [v]

theorem parts_of_elements (h : x.action.isElementWise = true) (items : List Json) :
    parts x (.arr items) = items := by
  unfold parts
  simp [h, itemsOf]

theorem parts_of_whole (h : x.action.isElementWise = false) (v : Json) : parts x v = [v] := by
  unfold parts
  simp [h]

theorem depth_lt_of_mem_itemsOf (h : u ∈ itemsOf v) : u.depth < v.depth := by
  cases v with
  | arr items => exact Json.depth_lt_of_mem_arr h
  | _ => cases h

theorem depth_le_of_mem_parts (h : u ∈ parts x v) : u.depth ≤ v.depth := by
  unfold parts at h
  split at h
  · exact Nat.le_of_lt (depth_lt_of_mem_itemsOf h)
  · obtain rfl := List.mem_singleton.mp h
    exact Nat.le_refl _

/-- **What a property converts is less deep than the source**, be it an element or the whole value. -/
theorem HasValue.depth_lt (value : HasValue fields x v) (h : u ∈ parts x v) :
    u.depth < (Json.obj fields).depth :=
  Nat.lt_of_le_of_lt (depth_le_of_mem_parts h) (Json.depth_lt_of_find? value.1)

/-! ## Nested calls -/

/-- A run of a method over a source may call a method over a value. -/
inductive NestedCall (m : CompiledMapping) : String × Json → String × Json → Prop
  | intro {method : String} {plan : MappingPlan} {fields : Members} {x : PlannedProperty MappingPlan}
      {v u : Json} {n : NestedMapping MappingPlan} (found : m.plans.find? method = some plan)
      (mem : x ∈ plan.properties) (value : HasValue fields x v) (part : u ∈ parts x v)
      (nested : x.conversion = some (.nested n)) : NestedCall m (method, .obj fields) (n.method, u)

theorem NestedCall.depth_lt {a b : String × Json} (h : m.NestedCall a b) : b.2.depth < a.2.depth := by
  cases h with
  | intro _ _ value part _ => exact value.depth_lt part

/-- **A chain of nested calls is no longer than its source is deep.** -/
theorem length_le_depth {a : String × Json} {calls : List (String × Json)}
    (chain : List.IsChain m.NestedCall (a :: calls)) : calls.length ≤ a.2.depth := by
  induction calls generalizing a with
  | nil => exact Nat.zero_le _
  | cons b rest ih =>
    rw [List.isChain_cons_cons] at chain
    have shorter := ih chain.2
    have less := chain.1.depth_lt
    rw [List.length_cons]
    omega

/-! ## What a run asks for -/

section Asked

variable {below below' : RunsBelow depth}

/-- To convert a value, the nested method of the conversion is asked for. -/
theorem convert_congr (h : v.depth < depth)
    (same : ∀ n, conversion = some (.nested n) → below n.method v h = below' n.method v h) :
    (m.convert below conversion v h : Running σ Json) = m.convert below' conversion v h := by
  unfold convert
  split
  · rfl
  · rfl
  · rfl
  · rename_i n
    rw [same n rfl]

/-- Runs of nested methods agree for the values of a list. -/
def AgreeOn (below below' : RunsBelow depth) (conversion : Option (Conversion MappingPlan))
    (items : List Json) : Prop :=
  ∀ v ∈ items, ∀ h n, conversion = some (.nested n) → below n.method v h = below' n.method v h

theorem convertAll_congr : ∀ (items : List Json) (h : ∀ v ∈ items, v.depth < depth),
    AgreeOn below below' conversion items →
      (m.convertAll below conversion items h : Running σ (List Json)) =
        m.convertAll below' conversion items h
  | [], _, _ => rfl
  | v :: rest, h, same => by
    unfold convertAll
    rw [convert_congr _ (same v List.mem_cons_self _),
      convertAll_congr rest _ fun w hw => same w (List.mem_cons_of_mem v hw)]

theorem appendAll_congr (signal : List Step) : ∀ (items : List Json) (h : ∀ v ∈ items, v.depth < depth),
    AgreeOn below below' x.conversion items →
      m.appendAll below x signal items h = m.appendAll below' x signal items h
  | [], _, _ => rfl
  | v :: rest, h, same => by
    unfold appendAll
    rw [convert_congr _ (same v List.mem_cons_self _),
      appendAll_congr signal rest _ fun w hw => same w (List.mem_cons_of_mem v hw)]

/-- What comes after the elements of a value matters only where there are any. -/
theorem elements_bind_congr {α : Type} {property : String} (h : v.depth < depth)
    {f g : { items : List Json // ∀ w ∈ items, w.depth < depth } → Running σ α}
    (same : ∀ items hs, v = .arr items → f ⟨items, hs⟩ = g ⟨items, hs⟩) :
    (elements property v h >>= f) = elements property v h >>= g := by
  cases v with
  | arr items =>
    unfold elements
    rw [Narrated.pure_bind, Narrated.pure_bind, same items _ rfl]
  | _ => rfl

/-- **A property asks for nested runs over what it converts.** -/
theorem apply_congr (h : v.depth < depth) (same : AgreeOn below below' x.conversion (parts x v)) :
    m.apply below plan x v h = m.apply below' plan x v h := by
  have whole : x.action.isElementWise = false →
      (m.convert below x.conversion v h : Running Members Json) = m.convert below' x.conversion v h := by
    intro kind
    rw [parts_of_whole kind] at same
    exact convert_congr h (same v (List.mem_singleton_self v) h)
  have each : x.action.isElementWise = true → ∀ items, v = .arr items →
      AgreeOn below below' x.conversion items := by
    rintro kind items rfl
    rwa [parts_of_elements kind] at same
  unfold apply
  cases action : x.action with
  | assign | convertAssign => simp only [whole (by rw [action]; rfl)]
  | replaceSet =>
    refine elements_bind_congr h fun items hs eq => ?_
    simp only [convertAll_congr items hs (each (by rw [action]; rfl) items eq)]
  | mergeAdd via =>
    have each := each (by rw [action]; rfl)
    cases via with
    | adder =>
      refine bind_congr fun _ => elements_bind_congr h fun items hs eq => ?_
      exact appendAll_congr _ items hs (each items eq)
    | getter =>
      refine bind_congr fun _ => elements_bind_congr h fun items hs eq => ?_
      simp only [appendAll_congr _ items hs (each items eq)]

end Asked

theorem applyAll_congr {below below' : RunsBelow (Json.obj fields).depth} :
    ∀ xs : List (PlannedProperty MappingPlan),
      (∀ x ∈ xs, ∀ v, HasValue fields x v → AgreeOn below below' x.conversion (parts x v)) →
        m.applyAll plan fields below xs = m.applyAll plan fields below' xs
  | [], _ => rfl
  | x :: rest, same => by
    have first : m.applyFrom plan fields below x = m.applyFrom plan fields below' x := by
      rcases exists_hasValue_or fields x with ⟨v, value⟩ | absent
      · obtain ⟨h, eq⟩ : ∃ h, m.applyFrom plan fields below x = m.apply below plan x v h :=
          value.applyFrom_eq
        obtain ⟨_, eq'⟩ : ∃ h, m.applyFrom plan fields below' x = m.apply below' plan x v h :=
          value.applyFrom_eq
        rw [eq, eq']
        exact apply_congr h (same x List.mem_cons_self v value)
      · rw [applyFrom_of_absent absent, applyFrom_of_absent absent]
    unfold applyAll
    rw [first, applyAll_congr rest fun y hy => same y (List.mem_cons_of_mem x hy)]

/-- **A run asks for the runs of its nested calls, and for no others.** -/
theorem runWith_congr {source : Json} {below below' : RunsBelow source.depth}
    (same : ∀ name u h, m.NestedCall (method, source) (name, u) → below name u h = below' name u h) :
    m.runWith method source below = m.runWith method source below' := by
  unfold runWith
  cases found : m.plans.find? method with
  | none => rfl
  | some plan =>
    cases source with
    | obj fields =>
      refine congrArg (overTarget plan.targetType) (applyAll_congr plan.properties ?_)
      intro x mem v value u part h n nested
      exact same n.method u h (.intro found mem value part nested)
    | _ => rfl

/-! ## Bounded runs -/

/-- A run in which calls are nested no deeper than a bound; a call that would be nested deeper is left to
`beyond`. -/
def runWithin (m : CompiledMapping) (beyond : String → Json → Running Json Unit) :
    (bound : Nat) → (method : String) → (source : Json) → Running Json Unit
  | 0, method, source => m.runWith method source fun name v _ => beyond name v
  | bound + 1, method, source => m.runWith method source fun name v _ => m.runWithin beyond bound name v

/-- **A bound as high as the source is deep is enough**: nothing is left to what is beyond it. By induction
on the bound; what is called is over a value that is less deep. -/
theorem runWithin_eq_run (beyond : String → Json → Running Json Unit) {bound : Nat} (method : String)
    (source : Json) (enough : source.depth ≤ bound) :
    m.runWithin beyond bound method source = m.run method source := by
  induction bound generalizing method source with
  | zero =>
    rw [runWithin, run_eq]
    refine runWith_congr fun name u h _ => ?_
    exact absurd h (by omega)
  | succ bound ih =>
    rw [runWithin, run_eq]
    refine runWith_congr fun name u _ nested => ih name u ?_
    have less := nested.depth_lt
    exact Nat.le_of_lt_succ (Nat.lt_of_lt_of_le less enough)

/-- **Every run ends**, whatever the plans of the table refer to. A run asks for the runs of its nested
calls only; a chain of these is no longer than the source is deep; and with that as a bound on how deep
calls are nested a mapping comes to what it comes to without a bound, whatever is beyond it. -/
theorem runs_end (m : CompiledMapping) (source target : Json) :
    (∀ method v (below below' : RunsBelow v.depth),
      (∀ name u h, m.NestedCall (method, v) (name, u) → below name u h = below' name u h) →
        m.runWith method v below = m.runWith method v below') ∧
    (∀ calls, List.IsChain m.NestedCall ((m.method, source) :: calls) → calls.length ≤ source.depth) ∧
    ∀ beyond bound, source.depth ≤ bound →
      (m.runWithin beyond bound m.method source).run target = m.mapInto source target ∧
      (m.runWithin beyond bound m.method source).run (.obj []) = m.map source := by
  refine ⟨fun method v below below' => runWith_congr, fun calls => length_le_depth, ?_⟩
  intro beyond bound enough
  have same := m.runWithin_eq_run beyond m.method source enough
  exact ⟨congrArg (·.run target) same, congrArg (·.run (.obj [])) same⟩

/-! ### Teams and their members -/

/-- A property that is passed on under its own name. -/
def handing (name : String) (accessors : Accessors) (action : PropertyAction)
    (conversion : Option (Conversion MappingPlan)) : PlannedProperty MappingPlan :=
  ⟨⟨name, ⟨"Value"⟩, none, {}⟩, ⟨name, ⟨"Value"⟩, none, accessors⟩, action, conversion⟩

/-- The conversion of a person. -/
def byPerson : Option (Conversion MappingPlan) :=
  some (.nested ⟨"person_to_dto", ⟨"Person"⟩, ⟨"PersonDto"⟩, [], none⟩)

/-- The conversion of a team. -/
def byTeam : Option (Conversion MappingPlan) :=
  some (.nested ⟨"team_to_dto", ⟨"Team"⟩, ⟨"TeamDto"⟩, [], none⟩)

/-- A team has a lead, members that are added one by one, mentors that are put into the list that is
there, and tags that are set. -/
def teamPlan : MappingPlan := ⟨"team_to_dto", ⟨"Team"⟩, ⟨"TeamDto"⟩, false, [],
  [handing "lead" { setter := some ⟨"setLead", []⟩ } .convertAssign byPerson,
    handing "members" { setter := some ⟨"setMembers", []⟩, adder := some ⟨"addMember", []⟩ }
      (.mergeAdd .adder) byPerson,
    handing "mentors" { getter := some ⟨"getMentors", []⟩ } (.mergeAdd .getter) byPerson,
    handing "tags" { setter := some ⟨"setTags", []⟩ } .replaceSet none]⟩

/-- A person has a name and is in a team. -/
def memberPlan : MappingPlan := ⟨"person_to_dto", ⟨"Person"⟩, ⟨"PersonDto"⟩, false, [],
  [handing "name" { setter := some ⟨"setName", []⟩ } .assign none,
    handing "team" { setter := some ⟨"setTeam", []⟩ } .convertAssign byTeam]⟩

/-- Maps teams, linked with what maps persons; either calls the other. -/
def toTeam : CompiledMapping :=
  (⟨"team_to_dto", .ofFirsts [teamPlan], .empty⟩ : CompiledMapping).linkedWith
    ⟨"person_to_dto", .ofFirsts [memberPlan], .empty⟩

/-- A team whose lead is in a team with a lead that is none. -/
def ledTeam : Json := .obj [("lead", .obj [("team", .obj [("lead", .bool true)])])]

/-- Teams and persons call each other as deep as the team is, where the third nested call is refused. With
a bound of two it would be left to what is beyond, and the run would come to another end. -/
theorem runs_end_for_teams :
    (∃ calls, List.IsChain toTeam.NestedCall ((toTeam.method, ledTeam) :: calls) ∧ calls.length = 3 ∧
      calls.length ≤ ledTeam.depth) ∧
    ledTeam.depth = 3 ∧
    (∀ beyond, (toTeam.runWithin beyond 3 toTeam.method ledTeam).run .null = toTeam.mapInto ledTeam .null) ∧
    (toTeam.mapInto ledTeam .null).result = .error (.notAnObject ⟨"Person"⟩ "bool") ∧
    ((toTeam.runWithin (fun _ _ => pure ()) 2 toTeam.method ledTeam).run .null).result = .ok () := by
  obtain ⟨-, chains, bounded⟩ := runs_end toTeam ledTeam .null
  have team : toTeam.plans.find? "team_to_dto" = some teamPlan := rfl
  have member : toTeam.plans.find? "person_to_dto" = some memberPlan := rfl
  have first : toTeam.NestedCall ("team_to_dto", ledTeam)
      ("person_to_dto", .obj [("team", .obj [("lead", .bool true)])]) :=
    .intro team List.mem_cons_self ⟨rfl, Json.noConfusion⟩ List.mem_cons_self rfl
  have second : toTeam.NestedCall ("person_to_dto", .obj [("team", .obj [("lead", .bool true)])])
      ("team_to_dto", .obj [("lead", .bool true)]) :=
    .intro member (List.mem_cons_of_mem _ List.mem_cons_self)
      ⟨rfl, Json.noConfusion⟩ List.mem_cons_self rfl
  have third : toTeam.NestedCall ("team_to_dto", .obj [("lead", .bool true)])
      ("person_to_dto", .bool true) :=
    .intro team List.mem_cons_self ⟨rfl, Json.noConfusion⟩ List.mem_cons_self rfl
  have chain : List.IsChain toTeam.NestedCall ((toTeam.method, ledTeam) :: _) :=
    .cons_cons first (.cons_cons second (.cons_cons third (.singleton _)))
  exact ⟨⟨_, chain, rfl, chains _ chain⟩, by decide +kernel,
    fun beyond => (bounded beyond 3 (by decide +kernel)).1, by decide +kernel, by decide +kernel⟩

end BeanMapping.CompiledMapping
