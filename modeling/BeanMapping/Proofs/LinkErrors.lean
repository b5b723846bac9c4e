import BeanMapping.Proofs.PlanTree
import BeanMapping.Proofs.Running

/-!
# Link errors

A run ends because a method is not linked, or a converter not registered, only if it comes to the place
where that is needed. A mapping reaches its own method, and what the plan of a method that it reaches
refers to (`Reaches`). It misses a method that it reaches and does not bind (`MissesMethod`), and a
converter that a plan that it reaches calls and that is not registered (`MissesConverter`).

No other link error ends a run, by induction on the depth of the source (`run_justified`). And each of
these ends the run over some source: one that holds nothing but the values that lead to the place, with
one member at each method, which reads one property (`Reaches.exists_source`). For this a plan has to
read each property of its source once.

Results:
* **`exists_unknownMethod_iff`**, **`exists_missingConverter_iff`**: the link errors in which the runs of
  a mapping end are the methods and the converters that it misses.
-/

namespace BeanMapping

theorem PlannedProperty.converterPath?_eq_some_iff {ρ : Type} {x : PlannedProperty ρ} {path : String} :
    x.converterPath? = some path ↔
      ∃ target failures, x.conversion = some (.converter path target failures) := by
  rcases x with ⟨source, target, action, _ | (_ | _ | n)⟩ <;> simp [converterPath?]

namespace CompiledMapping

variable {l : CompiledMapping} {depth : Nat} {method name path : String} {p : MappingPlan}
  {x : PlannedProperty MappingPlan} {e : ExecutionError}

/-! ## What a mapping reaches -/

/-- A run may come to the method: it is the mapping's own, or the plan of a method that a run may come
to refers to it. -/
inductive Reaches (l : CompiledMapping) : String → Prop
  | own : Reaches l l.method
  | reference {method : String} {p : MappingPlan} {n : NestedMapping MappingPlan}
      (reached : Reaches l method) (found : l.plans.find? method = some p) (hn : n ∈ p.references) :
      Reaches l n.method

/-- What holds of the mapping's own method, and is handed on along references, holds of all that it
reaches. -/
theorem Reaches.closed {P : String → Prop} (h : l.Reaches name) (own : P l.method)
    (reference : ∀ method p, P method → l.plans.find? method = some p →
      ∀ n ∈ p.references, P n.method) : P name := by
  induction h with
  | own => exact own
  | reference _ found hn ih => exact reference _ _ ih found _ hn

/-- A run may come to call the converter. -/
def Calls (l : CompiledMapping) (path : String) : Prop :=
  ∃ method p x, l.Reaches method ∧ l.plans.find? method = some p ∧ x ∈ p.properties ∧
    x.converterPath? = some path

/-- The mapping reaches a method that it does not bind. -/
def MissesMethod (l : CompiledMapping) (name : String) : Prop :=
  l.Reaches name ∧ l.plans.find? name = none

/-- The mapping may come to call a converter that is not registered. -/
def MissesConverter (l : CompiledMapping) (path : String) : Prop :=
  l.Calls path ∧ l.converters.find? path = none

/-- A link error is about something that the mapping misses. -/
def Justified (l : CompiledMapping) : ExecutionError → Prop
  | .unknownMethod name => l.MissesMethod name
  | .missingConverter path => l.MissesConverter path
  | _ => True

/-! ## Every link error is justified -/

theorem ofShape_justified (l : CompiledMapping) : OfShape l.Justified :=
  ⟨fun _ _ => trivial, fun _ => trivial⟩

theorem converts_justified {below : RunsBelow depth}
    (runs : ∀ name, l.Reaches name → ∀ v h, (below name v h).FailsOnly l.Justified)
    (reached : l.Reaches method) (found : l.plans.find? method = some p) (hx : x ∈ p.properties) :
    l.Converts below x l.Justified := by
  intro v h
  unfold convert
  split
  · exact Narrated.failsOnly_pure _
  · exact Narrated.failsOnly_pure _
  · rename_i path target failures hc
    have calls := PlannedProperty.converterPath?_eq_some_iff.mpr ⟨target, failures, hc⟩
    unfold callConverter
    cases missing : l.converters.find? path with
    | none =>
      exact Narrated.failsOnly_reject ⟨⟨method, p, x, reached, found, hx, calls⟩, missing⟩
    | some convert =>
      dsimp only
      cases convert v target with
      | ok w => exact Narrated.failsOnly_pure w
      | error failure => exact Narrated.failsOnly_reject trivial
  · rename_i n hc
    have hn : n ∈ p.references :=
      MappingPlan.mem_references_iff.mpr ⟨x, hx, PlannedProperty.nested?_eq_some_iff.mpr hc⟩
    exact Narrated.failsOnly_apart (runs n.method (reached.reference found hn) v h)

/-- **The link errors of a run are justified**: by induction on the depth of the source. -/
theorem run_justified (method : String) (reached : l.Reaches method) (source : Json) :
    (l.run method source).FailsOnly l.Justified := by
  rw [run_eq]
  cases found : l.plans.find? method with
  | none =>
    unfold runWith
    rw [found]
    exact Narrated.failsOnly_reject ⟨reached, found⟩
  | some p =>
    refine failsOnly_runWith (ofShape_justified l) found fun x hx => ?_
    refine converts_justified (fun name reached v _ => ?_) reached found hx
    exact run_justified name reached v
termination_by source.depth

theorem justified_of_mapInto {source target : Json} (h : (l.mapInto source target).result = .error e) :
    l.Justified e :=
  run_justified _ .own source target e h

/-! ## Everything that is missed ends a run -/

/-- The runs of nested methods. -/
abbrev runs (l : CompiledMapping) (depth : Nat) : RunsBelow depth := fun method v _ => l.run method v

/-- Some source value carries the one value to be converted. -/
theorem exists_carries (x : PlannedProperty MappingPlan) {v : Json} (nonnull : v ≠ .null) :
    ∃ w, Carries x w [v] ∧ w ≠ .null := by
  unfold Carries
  split
  · exact ⟨.arr [v], rfl, Json.noConfusion⟩
  · exact ⟨v, rfl, nonnull⟩

/-- What fails to be converted is not written, whatever is done for the property. -/
theorem apply_fails {below : RunsBelow depth} {v w : Json} {s : Members} (carries : Carries x w [v])
    (fails : ∀ h t, (l.convert below x.conversion v h : Running Members Json).Fails t e)
    (h : w.depth < depth) : (l.apply below p x w h).Fails s e := by
  unfold Carries at carries
  unfold apply
  cases action : x.action with
  | assign | convertAssign =>
    rw [action] at carries
    obtain rfl : v = w := List.singleton_inj.mp carries
    exact (fails h s).bind _
  | replaceSet =>
    rw [action] at carries
    obtain rfl : w = .arr [v] := carries
    obtain ⟨_, items⟩ := elements_gives x.source.name h s
    exact items.bind_fails (((fails _ s).bind _).bind _)
  | mergeAdd via =>
    rw [action] at carries
    obtain rfl : w = .arr [v] := carries
    obtain ⟨_, items⟩ := elements_gives x.source.name h (opened x.target.name s)
    cases via with
    | adder =>
      refine (Narrated.gives_modify _ s).bind_fails ?_
      exact items.bind_fails ((fails _ _).bind _)
    | getter =>
      refine (Narrated.gives_modify _ s).bind_fails ?_
      exact items.bind_fails (((fails _ _).bind _).bind _)

/-- Of the properties of a plan, that one alone is written for which the source has a value. -/
theorem applyAll_fails {v w : Json} (carries : Carries x w [v]) (nonnull : w ≠ .null)
    {below : RunsBelow (Json.obj [(x.source.name, w)]).depth}
    (fails : ∀ h t, (l.convert below x.conversion v h : Running Members Json).Fails t e) :
    ∀ (xs : List (PlannedProperty MappingPlan)), x ∈ xs → (xs.map (·.source.name)).Nodup →
      ∀ s, (l.applyAll p [(x.source.name, w)] below xs).Fails s e
  | y :: rest, hx, distinct, s => by
    rw [List.map_cons, List.nodup_cons] at distinct
    unfold applyAll
    by_cases same : x.source.name = y.source.name
    · have own : x = y := by
        refine (List.mem_cons.mp hx).resolve_right fun later => distinct.1 ?_
        exact List.mem_map.mpr ⟨x, later, same⟩
      subst own
      have held : Json.find? [(x.source.name, w)] x.source.name = some w :=
        (Json.find?_cons _ _ _).trans (if_pos rfl)
      refine Narrated.Fails.bind ?_ _
      unfold applyFrom
      split
      · rename_i absent
        rw [held] at absent
        cases absent
      · rename_i null
        rw [held] at null
        exact absurd (Option.some.inj null) nonnull
      · rename_i u found
        obtain rfl := Option.some.inj (held.symm.trans found)
        exact apply_fails carries fails _
    · have absent : Json.find? [(x.source.name, w)] y.source.name = none :=
        (Json.find?_cons _ _ _).trans (if_neg same)
      have skipped : (l.applyFrom p [(x.source.name, w)] below y).Gives s () s := by
        unfold applyFrom
        split
        · exact Narrated.gives_tell_iff.mpr rfl
        · exact Narrated.gives_tell_iff.mpr rfl
        · rename_i found
          rw [absent] at found
          cases found
      have later : x ∈ rest := by
        refine (List.mem_cons.mp hx).resolve_left fun own => same ?_
        rw [own]
      exact skipped.bind_fails (applyAll_fails carries nonnull fails rest later distinct.2 s)

/-- The plans of the mapping read each property of their source once. -/
def ReadsOnce (l : CompiledMapping) : Prop :=
  ∀ method p, l.plans.find? method = some p → (p.properties.map (·.source.name)).Nodup

/-- A value that a property fails to convert makes a source over which the method fails. -/
theorem exists_source_of_convert (once : l.ReadsOnce) (found : l.plans.find? method = some p)
    (hx : x ∈ p.properties) {v : Json} (nonnull : v ≠ .null)
    (fails : ∀ depth h t, (l.convert (l.runs depth) x.conversion v h : Running Members Json).Fails t e) :
    ∃ source, source ≠ .null ∧ (l.run method source).Fails (.obj []) e := by
  obtain ⟨w, carries, held⟩ := exists_carries x nonnull
  refine ⟨.obj [(x.source.name, w)], Json.noConfusion, ?_⟩
  rw [run_eq]
  unfold runWith
  rw [found]
  exact applyAll_fails carries held (fails _) p.properties hx (once method p found) []

/-- **A failure of a method that the mapping reaches is one of the mapping**, over a source that leads
to the method. -/
theorem Reaches.exists_source (once : l.ReadsOnce) (reached : l.Reaches method) {v : Json}
    (nonnull : v ≠ .null) (fails : (l.run method v).Fails (.obj []) e) :
    ∃ source, (l.map source).result = .error e := by
  induction reached generalizing v with
  | own => exact ⟨v, fails⟩
  | reference _ found hn ih =>
    obtain ⟨x, hx, refers⟩ := MappingPlan.mem_references_iff.mp hn
    have converts := PlannedProperty.nested?_eq_some_iff.mp refers
    obtain ⟨source, nonnull, fails⟩ := exists_source_of_convert once found hx nonnull fun depth h t => by
      rw [converts]
      exact fails.apart t
    exact ih nonnull fails

theorem MissesMethod.exists_source (once : l.ReadsOnce) (h : l.MissesMethod name) :
    ∃ source, (l.map source).result = .error (.unknownMethod name) := by
  obtain ⟨reached, unbound⟩ := h
  refine reached.exists_source once (v := .obj []) Json.noConfusion ?_
  rw [run_eq]
  unfold runWith
  rw [unbound]
  exact Narrated.fails_reject _ _

theorem MissesConverter.exists_source (once : l.ReadsOnce) (h : l.MissesConverter path) :
    ∃ source, (l.map source).result = .error (.missingConverter path) := by
  obtain ⟨⟨method, p, x, reached, found, hx, calls⟩, missing⟩ := h
  obtain ⟨target, failures, converts⟩ := PlannedProperty.converterPath?_eq_some_iff.mp calls
  have fails : ∀ depth (h : (Json.bool true).depth < depth) t,
      (l.convert (l.runs depth) x.conversion (.bool true) h : Running Members Json).Fails t
        (.missingConverter path) := by
    intro depth h t
    rw [converts]
    show (l.callConverter path target (.bool true)).Fails t (.missingConverter path)
    unfold callConverter
    rw [missing]
    exact Narrated.fails_reject _ _
  obtain ⟨source, nonnull, fails⟩ := exists_source_of_convert once found hx Json.noConfusion fails
  exact reached.exists_source once nonnull fails

/-! ## The link errors of a mapping -/

/-- **The methods that the runs of a mapping do not find are those that it misses**, into a new target
as into one that is there. -/
theorem exists_unknownMethod_iff (once : l.ReadsOnce) :
    ((∃ source, (l.map source).result = .error (.unknownMethod name)) ↔ l.MissesMethod name) ∧
      ((∃ source target, (l.mapInto source target).result = .error (.unknownMethod name)) ↔
        l.MissesMethod name) := by
  refine ⟨⟨fun ⟨source, h⟩ => justified_of_mapInto h, fun h => h.exists_source once⟩,
    fun ⟨source, target, h⟩ => justified_of_mapInto h, fun h => ?_⟩
  obtain ⟨source, failed⟩ := h.exists_source once
  exact ⟨source, .obj [], failed⟩

/-- **The converters that the runs of a mapping do not find are those that it misses**, into a new
target as into one that is there. -/
theorem exists_missingConverter_iff (once : l.ReadsOnce) :
    ((∃ source, (l.map source).result = .error (.missingConverter path)) ↔ l.MissesConverter path) ∧
      ((∃ source target, (l.mapInto source target).result = .error (.missingConverter path)) ↔
        l.MissesConverter path) := by
  refine ⟨⟨fun ⟨source, h⟩ => justified_of_mapInto h, fun h => h.exists_source once⟩,
    fun ⟨source, target, h⟩ => justified_of_mapInto h, fun h => ?_⟩
  obtain ⟨source, failed⟩ := h.exists_source once
  exact ⟨source, .obj [], failed⟩

end CompiledMapping

end BeanMapping
