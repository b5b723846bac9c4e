import BeanMapping.Proofs.MemberOrigins
import BeanMapping.Proofs.NestedCalls

/-!
# Traces of calls

Which members a run calls, said without running anything. The trace of a method over a source (`trace`) is
put together from its plan, in the order of the plan: a property for which the source has no value gives
nothing; one that merges by an adder gives, for each element, the trace of the nested method and then a
call; any other gives the traces of all that it converts and then one call. What a nested method gives is
again a trace, over a value inside the source.

All runs write to one log, be they nested or not. A computation records a list of calls when its log has a
beginning of that list, and all of it where the computation succeeds (`Narrated.Records`). One bind after
the other records one list after the other, so the lemmas go through the functions of a run, each for any
way to run nested methods, and end with an induction on the depth of the source.

Results:
* **`trace_eq`**: the equation of traces;
* **`run_records`**: a run records its trace;
* **`calls_are_trace`**: what a mapping that succeeds has recorded is the trace of its source.
-/

namespace BeanMapping

/-- The role of the member that receives what an action writes. -/
def PropertyAction.role : PropertyAction → AccessorRole
  | .assign | .convertAssign | .replaceSet => .setter
  | .mergeAdd .adder => .adder
  | .mergeAdd .getter => .getter

namespace CompiledMapping

variable {m : CompiledMapping} {plan : MappingPlan} {x : PlannedProperty MappingPlan} {fields : Members}
  {v : Json}

/-! ## The trace of a source -/

/-- The value that a source has for a property, if it is there and not `null`. -/
def valueFor? (fields : Members) (x : PlannedProperty MappingPlan) : Option Json :=
  match Json.find? fields x.source.name with
  | none | some .null => none
  | some v => some v

theorem valueFor?_eq_some_iff : valueFor? fields x = some v ↔ HasValue fields x v := by
  unfold valueFor? HasValue
  split
  · rename_i absent
    simp [absent]
  · rename_i null
    simp only [null, reduceCtorEq, Option.some.injEq, false_iff]
    rintro ⟨rfl, nonnull⟩
    exact nonnull rfl
  · rename_i w nonnull found
    simp only [found, Option.some.injEq]
    exact ⟨fun same => ⟨same, same ▸ nonnull⟩, fun held => held.1⟩

/-- The call of a property: the method of its plan, the name of its target, the member that the target has
for its action, and the action. -/
def callFor (plan : MappingPlan) (x : PlannedProperty MappingPlan) : MutatorCall where
  method := plan.method
  property := x.target.name
  member := ((x.target.accessors.get? x.action.role).map (·.member)).getD ""
  action := x.action

theorem ofProperty_eq (plan : MappingPlan) (x : PlannedProperty MappingPlan) :
    MutatorCall.ofProperty plan x = callFor plan x := by
  unfold MutatorCall.ofProperty PlannedProperty.mutator? callFor
  rcases x.action with _ | _ | (_ | _) | _ <;> rfl

/-- The trace of a value that is converted: that of the nested method, where there is one. -/
def nestedTrace (below : String → Json → List MutatorCall)
    (conversion : Option (Conversion MappingPlan)) (u : Json) : List MutatorCall :=
  match conversion with
  | some (.nested n) => below n.method u
  | _ => []

/-- The trace of a property over a source value: an adder is called after each element, any other member
once, after all that is converted. -/
def propertyTrace (below : String → Json → List MutatorCall) (plan : MappingPlan)
    (x : PlannedProperty MappingPlan) (v : Json) : List MutatorCall :=
  match x.action with
  | .mergeAdd .adder =>
    (parts x v).flatMap fun u => nestedTrace below x.conversion u ++ [callFor plan x]
  | _ => (parts x v).flatMap (nestedTrace below x.conversion) ++ [callFor plan x]

/-- The trace of a method over a source, with `below` for the traces of nested methods. -/
def traceWith (m : CompiledMapping) (below : String → Json → List MutatorCall) (method : String)
    (source : Json) : List MutatorCall :=
  match m.plans.find? method, source with
  | some plan, .obj fields =>
    plan.properties.flatMap fun x => (valueFor? fields x).toList.flatMap (propertyTrace below plan x)
  | _, _ => []

/-- **The trace of a method over a source.** Nested methods are called for values that are less deep, which
ends the recursion and cuts nothing off (`trace_eq`). -/
def trace (m : CompiledMapping) (method : String) (source : Json) : List MutatorCall :=
  m.traceWith (fun name u => if u.depth < source.depth then m.trace name u else []) method source
termination_by source.depth

theorem traceWith_congr {below below' : String → Json → List MutatorCall} (method : String)
    {source : Json} (same : ∀ name u, u.depth < source.depth → below name u = below' name u) :
    m.traceWith below method source = m.traceWith below' method source := by
  unfold traceWith
  split
  · rename_i plan fields found
    refine List.flatMap_congr fun x _ => List.flatMap_congr fun v value => ?_
    have held := valueFor?_eq_some_iff.mp (Option.mem_toList.mp value)
    have nested : ∀ u ∈ parts x v, nestedTrace below x.conversion u = nestedTrace below' x.conversion u := by
      intro u part
      unfold nestedTrace
      split
      · exact same _ u (held.depth_lt part)
      · rfl
    unfold propertyTrace
    split
    · exact List.flatMap_congr fun u part => by rw [nested u part]
    · rw [List.flatMap_congr nested]
  · rfl

/-- **The equation of traces.** -/
theorem trace_eq (m : CompiledMapping) (method : String) (source : Json) :
    m.trace method source = m.traceWith m.trace method source := by
  rw [trace]
  exact traceWith_congr method fun name u less => if_pos less

end CompiledMapping

/-! ## What a computation records -/

namespace Narrated

variable {σ τ α β : Type} {l l' : List MutatorCall}

/-- The calls that a computation makes from a state. -/
def callsFrom (x : Running σ α) (s : σ) : List MutatorCall := (x.run s).told.filterMap Step.call?

/-- The computation makes the calls of a beginning of the list, and all of them where it succeeds. -/
def Records (x : Running σ α) (l : List MutatorCall) : Prop :=
  ∀ s, x.callsFrom s <+: l ∧ ∀ a, (x.run s).result = .ok a → x.callsFrom s = l

theorem records_pure (a : α) : (pure a : Running σ α).Records [] :=
  fun _ => ⟨List.prefix_rfl, fun _ _ => rfl⟩

theorem records_get : (get : Running σ σ).Records [] := fun _ => ⟨List.prefix_rfl, fun _ _ => rfl⟩

theorem records_modify (f : σ → σ) : (modify f : Running σ Unit).Records [] :=
  fun _ => ⟨List.prefix_rfl, fun _ _ => rfl⟩

theorem records_tell (told : List Step) :
    (tell told : Running σ Unit).Records (told.filterMap Step.call?) :=
  fun _ => ⟨List.prefix_rfl, fun _ _ => rfl⟩

/-- What is rejected has called nothing yet, so it records any list. -/
theorem records_reject (e : ExecutionError) (l : List MutatorCall) :
    (reject e : Running σ α).Records l :=
  fun _ => ⟨List.nil_prefix, fun _ ok => by cases ok⟩

/-- **A bind records one list after the other**: where its first part fails, there is nothing more. -/
theorem Records.bind {x : Running σ α} {f : α → Running σ β} (hx : x.Records l)
    (hf : ∀ a, (f a).Records l') : (x >>= f).Records (l ++ l') := by
  intro s
  obtain ⟨begun, all⟩ := hx s
  cases first : (x.run s).result with
  | error e =>
    unfold callsFrom
    rw [run_bind_error first]
    exact ⟨begun.trans (List.prefix_append l l'), fun _ ok => by cases ok⟩
  | ok a =>
    obtain ⟨begun', all'⟩ := hf a (x.run s).state
    have both : (x >>= f).callsFrom s = l ++ (f a).callsFrom (x.run s).state := by
      rw [← all a first]
      unfold callsFrom
      rw [run_bind_ok first]
      exact List.filterMap_append
    rw [both]
    refine ⟨(List.prefix_append_right_inj l).mpr begun', fun b ok => ?_⟩
    rw [run_bind_ok first] at ok
    rw [all' b ok]

theorem Records.focus {x : Running τ α} (h : x.Records l) (part : σ → τ) (put : τ → σ → σ) :
    (Narrated.focus part put x : Running σ α).Records l :=
  fun s => h (part s)

/-- A computation with a state of its own writes to the same log. -/
theorem Records.apart {x : Running τ Unit} (h : x.Records l) (t : τ) :
    (Narrated.apart t x : Running σ τ).Records l := by
  intro s
  obtain ⟨begun, all⟩ := h t
  refine ⟨begun, fun a ok => ?_⟩
  obtain ⟨gives, -⟩ := gives_apart_iff.mp (gives_of_result ok)
  exact all () gives.1

end Narrated

/-! ## What a run records -/

namespace CompiledMapping

open Narrated

variable {m : CompiledMapping} {depth : Nat} {σ : Type} {plan : MappingPlan}
  {x : PlannedProperty MappingPlan} {fields : Members} {traces : String → Json → List MutatorCall}

section Parts

variable {below : RunsBelow depth}

/-- A nested method is the only conversion that calls members. -/
theorem convert_records (runs : ∀ name u h, (below name u h).Records (traces name u))
    (conversion : Option (Conversion MappingPlan)) (v : Json) (h : v.depth < depth) :
    (m.convert below conversion v h : Running σ Json).Records (nestedTrace traces conversion v) := by
  unfold convert nestedTrace
  rcases conversion with _ | (b | ⟨path, target, failures⟩ | n)
  · exact records_pure v
  · exact records_pure v
  · dsimp only
    unfold callConverter
    split
    · exact records_reject _ _
    · split
      · exact records_pure _
      · exact records_reject _ _
  · exact (runs n.method v h).apart _

theorem convertAll_records (runs : ∀ name u h, (below name u h).Records (traces name u))
    (conversion : Option (Conversion MappingPlan)) :
    ∀ (items : List Json) (h : ∀ v ∈ items, v.depth < depth),
      (m.convertAll below conversion items h : Running σ (List Json)).Records
        (items.flatMap (nestedTrace traces conversion))
  | [], _ => records_pure []
  | v :: rest, h => by
    unfold convertAll
    rw [List.flatMap_cons]
    refine (convert_records runs conversion v _).bind fun first => ?_
    rw [← List.append_nil (rest.flatMap _)]
    exact (convertAll_records runs conversion rest _).bind fun others => records_pure _

theorem append_records (name : String) (w : Json) : (append name w).Records [] := by
  unfold append
  refine (records_get).bind fun fields => ?_
  split
  · exact records_modify _
  · exact records_reject _ _

/-- After each element the signal is told. -/
theorem appendAll_records (runs : ∀ name u h, (below name u h).Records (traces name u))
    (signal : List Step) :
    ∀ (items : List Json) (h : ∀ v ∈ items, v.depth < depth),
      (m.appendAll below x signal items h).Records
        (items.flatMap fun u => nestedTrace traces x.conversion u ++ signal.filterMap Step.call?)
  | [], _ => records_pure ()
  | v :: rest, h => by
    unfold appendAll
    rw [List.flatMap_cons, List.append_assoc]
    refine (convert_records runs x.conversion v _).bind fun w => ?_
    refine (append_records x.target.name w).bind fun _ => ?_
    exact (records_tell signal).bind fun _ => appendAll_records runs signal rest _

/-- What comes after the elements of a value records the list that it has for the items of an array. -/
theorem elements_bind_records {α : Type} {property : String} {v : Json} (h : v.depth < depth)
    {f : { items : List Json // ∀ w ∈ items, w.depth < depth } → Running σ α} {l : List MutatorCall}
    (records : ∀ items hs, v = .arr items → (f ⟨items, hs⟩).Records l) :
    (elements property v h >>= f).Records l := by
  cases v with
  | arr items =>
    unfold elements
    rw [Narrated.pure_bind]
    exact records items _ rfl
  | _ => exact records_reject (.notACollection property) l

/-- **A property records its trace.** -/
theorem apply_records (runs : ∀ name u h, (below name u h).Records (traces name u)) {v : Json}
    (h : v.depth < depth) : (m.apply below plan x v h).Records (propertyTrace traces plan x v) := by
  have called : ([Step.called (MutatorCall.ofProperty plan x)]).filterMap Step.call? = [callFor plan x] := by
    rw [ofProperty_eq]
    rfl
  have told := records_tell (σ := Members) [Step.called (MutatorCall.ofProperty plan x)]
  rw [called] at told
  unfold apply propertyTrace
  cases action : x.action with
  | assign | convertAssign =>
    rw [parts_of_whole (by rw [action]; rfl)]
    dsimp only
    rw [List.flatMap_singleton]
    exact (convert_records runs x.conversion v h).bind fun w =>
      (records_modify _).bind fun _ => told
  | replaceSet =>
    refine elements_bind_records h fun items hs eq => ?_
    rw [eq, parts_of_elements (by rw [action]; rfl)]
    exact (convertAll_records runs x.conversion items hs).bind fun ws =>
      (records_modify _).bind fun _ => told
  | mergeAdd via =>
    cases via with
    | adder =>
      refine (records_modify (opened x.target.name)).bind fun _ =>
        elements_bind_records h fun items hs eq => ?_
      rw [eq, parts_of_elements (by rw [action]; rfl), ← called]
      exact appendAll_records runs _ items hs
    | getter =>
      refine (records_modify (opened x.target.name)).bind fun _ =>
        elements_bind_records h fun items hs eq => ?_
      rw [eq, parts_of_elements (by rw [action]; rfl)]
      refine Records.bind ?_ fun _ => told
      simpa using appendAll_records (x := x) (m := m) runs [] items hs

end Parts

section Methods

variable {source : Json}

theorem applyFrom_records {below : RunsBelow (Json.obj fields).depth}
    (runs : ∀ name u h, (below name u h).Records (traces name u)) (x : PlannedProperty MappingPlan) :
    (m.applyFrom plan fields below x).Records
      ((valueFor? fields x).toList.flatMap (propertyTrace traces plan x)) := by
  rcases exists_hasValue_or fields x with ⟨v, value⟩ | absent
  · obtain ⟨h, eq⟩ : ∃ h, m.applyFrom plan fields below x = m.apply below plan x v h :=
      value.applyFrom_eq
    rw [eq, valueFor?_eq_some_iff.mpr value, Option.toList_some, List.flatMap_singleton]
    exact apply_records runs h
  · have none : valueFor? fields x = none :=
      Option.eq_none_iff_forall_ne_some.mpr fun v some => absent v (valueFor?_eq_some_iff.mp some)
    rw [applyFrom_of_absent absent, none]
    exact records_tell _

theorem applyAll_records {below : RunsBelow (Json.obj fields).depth}
    (runs : ∀ name u h, (below name u h).Records (traces name u)) :
    ∀ xs : List (PlannedProperty MappingPlan), (m.applyAll plan fields below xs).Records
      (xs.flatMap fun x => (valueFor? fields x).toList.flatMap (propertyTrace traces plan x))
  | [] => records_pure ()
  | x :: rest => by
    unfold applyAll
    rw [List.flatMap_cons]
    exact (applyFrom_records runs x).bind fun _ => applyAll_records runs rest

theorem overTarget_records {l : List MutatorCall} {y : Running Members Unit} (h : y.Records l)
    (typeName : TypeName) : (overTarget typeName y).Records l := by
  unfold overTarget
  refine records_get.bind fun target => ?_
  cases target with
  | obj | null => exact h.focus _ _
  | _ => exact records_reject _ l

theorem runWith_records {below : RunsBelow source.depth}
    (runs : ∀ name u h, (below name u h).Records (traces name u)) (method : String) :
    (m.runWith method source below).Records (m.traceWith traces method source) := by
  unfold runWith traceWith
  cases m.plans.find? method with
  | none => exact records_reject _ _
  | some plan =>
    cases source with
    | obj fields => exact overTarget_records (applyAll_records runs plan.properties) plan.targetType
    | _ => exact records_reject _ _

/-- **A run records its trace**: by induction on the depth of the source. -/
theorem run_records (m : CompiledMapping) (method : String) (source : Json) :
    (m.run method source).Records (m.trace method source) := by
  rw [run_eq, trace_eq]
  exact runWith_records (fun name u _ => run_records m name u) method
termination_by source.depth

end Methods

/-- **The recorded calls are the trace of the source**, whatever the target, where a mapping succeeds; the
trace is put together by its equation. Where a mapping fails, it has recorded a beginning of the trace. -/
theorem calls_are_trace (m : CompiledMapping) (source target : Json) :
    ((m.map source).result = .ok () → calls (m.map source) = m.trace m.method source) ∧
    ((m.mapInto source target).result = .ok () →
      calls (m.mapInto source target) = m.trace m.method source) ∧
    calls (m.mapInto source target) <+: m.trace m.method source ∧
    ∀ method v, m.trace method v = m.traceWith m.trace method v := by
  have records := run_records m m.method source
  exact ⟨(records (.obj [])).2 (), (records target).2 (), (records target).1, m.trace_eq⟩

/-! ### A team with a lead, members and a mentor -/

/-- A team whose lead is in a team of its own without members; of its two members one has no name. -/
def mixedTeam : Json := .obj [
  ("tags", .arr [.str "old", .str "new"]),
  ("members", .arr [.obj [("name", .str "Bob")], .obj [("name", .null)]]),
  ("lead", .obj [("name", .str "Ada"), ("team", .obj [("members", .arr []), ("tags", .arr [])])]),
  ("mentors", .arr [.obj [("name", .str "Eve")]])]

/-- The members that are called for the team, those of persons and of the lead's team between them. -/
def mixedCalls : List (String × String) :=
  [("person_to_dto", "setName"), ("team_to_dto", "setTags"), ("person_to_dto", "setTeam"),
    ("team_to_dto", "setLead"), ("person_to_dto", "setName"), ("team_to_dto", "addMember"),
    ("team_to_dto", "addMember"), ("person_to_dto", "setName"), ("team_to_dto", "getMentors"),
    ("team_to_dto", "setTags")]

/-- The trace of the team, in which a team is mapped while another one is. -/
theorem calls_are_trace_of_team :
    (toTeam.map mixedTeam).result = .ok () ∧ (toTeam.mapInto mixedTeam .null).result = .ok () ∧
    calls (toTeam.map mixedTeam) = toTeam.trace toTeam.method mixedTeam ∧
    calls (toTeam.mapInto mixedTeam .null) = toTeam.trace toTeam.method mixedTeam ∧
    (toTeam.trace toTeam.method mixedTeam).map (fun c => (c.method, c.member)) = mixedCalls := by
  have mapped : (toTeam.map mixedTeam).result = .ok () := by decide +kernel
  have mappedInto : (toTeam.mapInto mixedTeam .null).result = .ok () := by decide +kernel
  obtain ⟨map_eq, mapInto_eq, -⟩ := calls_are_trace toTeam mixedTeam .null
  refine ⟨mapped, mappedInto, map_eq mapped, mapInto_eq mappedInto, ?_⟩
  rw [← map_eq mapped]
  decide +kernel

end CompiledMapping

end BeanMapping
