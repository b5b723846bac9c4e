import BeanMapping.Proofs.Accepted
import BeanMapping.Proofs.Rendering
import Mathlib.Data.List.Nodup

/-!
# Derived methods that roots share

An emitter renders a derived method with the first root that needs it, and remembers the name only. The
function has the failures and the strategy of that root; the calls from another root are made as that
root's own plan of the method needs them.

`Session` is a run of emissions through one emitter. Its definitions agree with a call when each of them
is what the plan renders as that was derived for the calling root (`AgreesWithCallers`).

Results:
* **`Session.unique`**: a derived method is rendered once in a session;
* **`shared_methods_agree_iff`**: the definitions of a session agree with their callers exactly when
  the callee of each call is defined, and only by plans that look alike to the emitter; a definition
  returns a result as its callers expect exactly when both of the roots declare a checked failure or
  neither does, and writes its collections as the calling root prescribes exactly when the strategies
  choose alike;
* `shared_methods_disagree`: two roots of which only one declares a checked failure.
-/

namespace BeanMapping

/-! ## Strategies -/

namespace PlannedProperty

variable {x : PlannedProperty MappingPlan} {first other : CollectionStrategy}

/-- The strategy chooses how the property is written: it is a collection that has a setter and an
adder. -/
structure Chooses (x : PlannedProperty MappingPlan) : Prop where
  collections : CorrelatedProperty.isCollectionPair ⟨x.source, x.target, .exact⟩ = true
  setter : x.target.hasSetter = true
  adder : x.target.hasAdder = true

theorem action?_of_chooses (h : x.Chooses) (strategy : CollectionStrategy) (converts : Bool) :
    CorrelatedProperty.action? strategy ⟨x.source, x.target, .exact⟩ converts =
      some (if strategy = .preferAdder then .mergeAdd .adder else .replaceSet) := by
  unfold CorrelatedProperty.action? CorrelatedProperty.collectionAction?
  rw [if_pos h.collections, h.setter, h.adder]
  dsimp only
  split <;> rfl

theorem action?_of_not_chooses (h : ¬ x.Chooses) (converts : Bool) :
    CorrelatedProperty.action? first ⟨x.source, x.target, .exact⟩ converts =
      CorrelatedProperty.action? other ⟨x.source, x.target, .exact⟩ converts := by
  unfold CorrelatedProperty.action?
  by_cases collections :
      CorrelatedProperty.isCollectionPair ⟨x.source, x.target, .exact⟩ = true
  · rw [if_pos collections, if_pos collections]
    unfold CorrelatedProperty.collectionAction?
    cases hs : x.target.hasSetter
    · cases x.target.hasAdder <;> rfl
    · cases ha : x.target.hasAdder
      · rfl
      · exact absurd ⟨collections, hs, ha⟩ h
  · rw [if_neg collections, if_neg collections]

/-- **What one strategy prescribes another prescribes too, unless there is a choice** and only one of
them prefers the adder. -/
theorem Prescribed.iff_of (h : x.Prescribed first) :
    x.Prescribed other ↔ (x.Chooses → (first = .preferAdder ↔ other = .preferAdder)) := by
  unfold Prescribed at h ⊢
  by_cases chooses : x.Chooses
  · rw [action?_of_chooses chooses] at h ⊢
    rw [← h]
    by_cases hf : first = .preferAdder <;> by_cases ho : other = .preferAdder <;>
      simp [hf, ho, chooses]
  · rw [action?_of_not_chooses chooses] at h
    exact ⟨fun _ h => absurd h chooses, fun _ => h⟩

/-- A conversion is never left out. -/
theorem Prescribed.action_ne_assign (h : x.Prescribed first) (converts : x.conversion.isSome = true) :
    x.action ≠ .assign := by
  unfold Prescribed CorrelatedProperty.action? CorrelatedProperty.collectionAction? at h
  rw [converts] at h
  intro assign
  rw [assign] at h
  split at h
  · split at h
    · split at h <;> simp at h
    · simp at h
    · simp at h
    · split at h <;> simp at h
  · split at h <;> simp at h

end PlannedProperty

namespace Code

open Contract (Unchecked)
open Rendering (AreFunctions)

/-! ## Failures -/

/-- A method declares a checked failure. -/
def DeclaresChecked (types : Registry) (m : MappingMethod) : Prop :=
  ∃ f ∈ m.declaredFailures, ¬ Unchecked types f

theorem isFallible_iff {g : Generator} {declared : List MappingMethod} {m : MappingMethod}
    {v : VerifiedPlan} (accepted : g.Accepted declared m v) :
    Rendering.isFallible v m.declaredFailures = true ↔ DeclaresChecked g.types m := by
  have root := MappingPlan.mem_nodes_self v.plan
  have failures := accepted.declaredFailures_eq v.plan root
  unfold Rendering.isFallible DeclaresChecked
  rw [List.any_eq_true]
  refine exists_congr fun f => and_congr_right fun mem => ?_
  rw [accepted.verified.isChecked_iff]
  exact and_iff_left ⟨v.plan, root, Or.inl (failures ▸ mem)⟩

/-- A function returns a result exactly when its plan declares a checked failure. -/
theorem returnsResult_eq {v : VerifiedPlan} {p : MappingPlan} {f : Function}
    (h : Rendering.function v p = .ok f) :
    f.returnsResult = Rendering.isFallible v p.declaredFailures := by
  obtain ⟨-, -, -, -, error, -⟩ := Rendering.function_eq_ok_iff.mp h
  unfold Rendering.errorType at error
  unfold Function.returnsResult Rendering.isFallible
  cases checked : p.declaredFailures.filter v.isChecked with
  | nil =>
    rw [checked] at error
    rw [← Except.ok.inj error, Option.isSome_none, eq_comm, List.any_eq_false]
    exact List.filter_eq_nil_iff.mp checked
  | cons a rest =>
    have mem : a ∈ p.declaredFailures.filter v.isChecked := checked ▸ List.mem_cons_self
    have some : f.error.isSome = true := by
      rw [checked] at error
      cases rest with
      | nil =>
        obtain ⟨_, -, error⟩ := Rendering.bind_eq_ok_iff.mp error
        rw [← Except.ok.inj error, Option.isSome_some]
      | cons => rw [← Except.ok.inj error, Option.isSome_some]
    rw [some, eq_comm, List.any_eq_true]
    exact ⟨a, List.mem_filter.mp mem⟩

/-- The call of a nested method is followed by `?` exactly when the reference declares a checked
failure. -/
theorem converted_isFallible_eq {v : VerifiedPlan} {x : PlannedProperty MappingPlan}
    {n : NestedMapping MappingPlan} {s : Statement} (hn : x.nested? = some n)
    (writes : x.action ≠ .assign) (h : Rendering.statement v x = .ok s) :
    s.converted.isFallible = Rendering.isFallible v n.declaredFailures := by
  have nested : ∀ {c}, Rendering.converted v x = .ok c →
      c.isFallible = Rendering.isFallible v n.declaredFailures := by
    intro c hc
    unfold Rendering.converted at hc
    rw [PlannedProperty.nested?_eq_some_iff.mp hn] at hc
    obtain ⟨_, -, hc⟩ := Rendering.bind_eq_ok_iff.mp hc
    rw [← Except.ok.inj hc]
    rfl
  unfold Rendering.statement at h
  simp only [Rendering.bind_eq_ok_iff] at h
  obtain ⟨_, -, _, -, _, -, _, -, c, hc, h⟩ := h
  split at h
  · exact absurd ‹x.action = .assign› writes
  · rw [← Except.ok.inj h]
    exact nested hc
  · simp only [Rendering.bind_eq_ok_iff] at h
    obtain ⟨_, -, _, -, h⟩ := h
    rw [← Except.ok.inj h]
    exact nested hc
  · rw [← Except.ok.inj h]
    exact nested hc
  · rw [← Except.ok.inj h]
    exact nested hc

/-! ## Sessions -/

/-- An emission: a method, its verified plan, the names that the emitter had rendered before, and the
code. -/
structure Emission where
  method : MappingMethod
  verified : VerifiedPlan
  before : RenderedNames
  code : GeneratedCode

/-- **The successful emissions of a generator through one emitter**, and the names that the emitter then
has rendered. -/
inductive Session (g : Generator) : List Emission → RenderedNames → Prop
  | start : Session g [] []
  | emit {es : List Emission} {names names' : RenderedNames} {declared : List MappingMethod}
      {m : MappingMethod} {shapes : ShapeCache} {v : VerifiedPlan} {code : GeneratedCode}
      (session : Session g es names)
      (planned : ((g.plan declared m).run shapes).result = .ok v)
      (rendered : (Rendering.render m v).Gives names code names') :
      Session g (es ++ [⟨m, v, names, code⟩]) names'

namespace Emission

/-- The strategy of the root. -/
def strategy (g : Generator) (e : Emission) : CollectionStrategy :=
  e.method.strategy.getD g.config.collectionStrategy

/-- A derived method is rendered with the root. -/
def Renders (e : Emission) (d : MappingPlan) : Prop :=
  ∃ ds names, Rendering.Renders e.before e.verified.plan.nested ds names ∧ d ∈ ds

/-- A function is rendered for a plan: it is that of the root, or of a derived method that is rendered
with it. -/
def Includes (e : Emission) (d : MappingPlan) : Prop :=
  d = e.verified.plan ∨ e.Renders d

/-- A rendered function calls a derived method: for a property `x`, by the reference `n`, which is to
the plan `d` that was derived for the root. -/
structure Calls (e : Emission) (x : PlannedProperty MappingPlan) (n : NestedMapping MappingPlan)
    (d : MappingPlan) : Prop where
  caller : ∃ q, e.Includes q ∧ x ∈ q.properties
  reference : x.nested? = some n
  derived : d ∈ MappingPlan.embedded e.verified.plan.properties
  callee : n.bare = d.reference

end Emission

/-- The function `f` is a definition of a name in a session: it was rendered with `e`, for `d`. -/
structure Defines (es : List Emission) (name : String) (e : Emission) (d : MappingPlan)
    (f : Function) : Prop where
  mem : e ∈ es
  includes : e.Includes d
  method_eq : d.method = name
  function_eq : Rendering.function e.verified d = .ok f

/-- **The definitions of a session agree with their callers**: the callee of each call is defined, and
only by what its plan is rendered as that was derived for the calling root. -/
def AgreesWithCallers (es : List Emission) : Prop :=
  ∀ e ∈ es, ∀ x n d, e.Calls x n d →
    (∃ e₀ d₀ f, Defines es d.method e₀ d₀ f) ∧
      ∀ e₀ d₀ f, Defines es d.method e₀ d₀ f → Rendering.function e.verified d = .ok f

/-- Two plans look alike to the emitter, each in the tree of a root: their types, the errors that the
roots declare, and the statements for their properties are written alike, and both or neither update
their target. -/
structure Alike (e₀ : Emission) (d₀ : MappingPlan) (e : Emission) (d : MappingPlan) : Prop where
  source : Rendering.type d₀.sourceType = Rendering.type d.sourceType
  target : Rendering.type d₀.targetType = Rendering.type d.targetType
  updates : d₀.updatesTarget = d.updatesTarget
  error : Rendering.errorType e₀.verified e₀.method.declaredFailures =
    Rendering.errorType e.verified e.method.declaredFailures
  body : d₀.properties.map (Rendering.statement e₀.verified) =
    d.properties.map (Rendering.statement e.verified)

/-- What is true of each emission of a session. -/
structure Emitted (g : Generator) (e : Emission) : Prop where
  accepted : ∃ declared, g.Accepted declared e.method e.verified
  rendered : ∃ ds names, Rendering.Renders e.before e.verified.plan.nested ds names ∧
    AreFunctions e.verified (e.verified.plan :: ds) e.code.functions

variable {g : Generator} {es : List Emission} {names : RenderedNames} {e e₀ : Emission}
  {d d₀ : MappingPlan} {f : Function}

/-- What is planned and rendered is emitted. -/
theorem emitted_of_render {declared : List MappingMethod} {shapes : ShapeCache}
    (planned : ((g.plan declared e.method).run shapes).result = .ok e.verified)
    (rendered : (Rendering.render e.method e.verified).Gives e.before e.code names) :
    Emitted g e := by
  obtain ⟨ds, hds, functions⟩ := Rendering.functions_of_render rendered
  exact ⟨⟨declared, Generator.accepted_of_gives (Narrated.gives_of_result planned)⟩, ds, names, hds,
    functions⟩

theorem Session.emitted (session : Session g es names) : ∀ e ∈ es, Emitted g e := by
  induction session with
  | start => exact fun e mem => absurd mem List.not_mem_nil
  | emit _ planned rendered ih =>
    rw [List.forall_mem_append, List.forall_mem_singleton]
    exact ⟨ih, emitted_of_render planned rendered⟩

theorem Emission.renders_iff {ds : List MappingPlan} {names : RenderedNames}
    (h : Rendering.Renders e.before e.verified.plan.nested ds names) : e.Renders d ↔ d ∈ ds := by
  constructor
  · rintro ⟨ds', _, h', mem⟩
    exact (h.unique h').1 ▸ mem
  · exact fun mem => ⟨ds, names, h, mem⟩

/-- The names that are remembered are those of what was rendered. -/
theorem Session.mem_names_iff (session : Session g es names) {name : String} :
    name ∈ names ↔ ∃ e ∈ es, ∃ d, e.Renders d ∧ d.method = name := by
  induction session with
  | start => simp
  | emit _ _ rendered ih =>
    obtain ⟨ds, hds, -⟩ := Rendering.functions_of_render rendered
    rw [hds.names_iff, ih]
    simp only [List.mem_append, List.mem_singleton, or_and_right, exists_or, exists_eq_left]
    refine or_congr_right (exists_congr fun d => and_congr_left' ?_)
    exact (Emission.renders_iff hds).symm

/-- **A derived method is rendered once in a session.** -/
theorem Session.unique (session : Session g es names) :
    ∀ e ∈ es, ∀ e' ∈ es, ∀ d d', e.Renders d → e'.Renders d' → d.method = d'.method →
      e = e' ∧ d = d' := by
  induction session with
  | start => exact fun e mem => absurd mem List.not_mem_nil
  | @emit es names _ _ m _ v code session _ rendered ih =>
    obtain ⟨ds, hds, -⟩ := Rendering.functions_of_render rendered
    have last : ∀ {d}, Emission.Renders ⟨m, v, names, code⟩ d → d ∈ ds :=
      fun hd => (Emission.renders_iff hds).mp hd
    have apart : ∀ e ∈ es, ∀ d d', e.Renders d → Emission.Renders ⟨m, v, names, code⟩ d' →
        d.method ≠ d'.method := by
      intro e he d d' hd hd' same
      exact hds.free d' (last hd') (session.mem_names_iff.mpr ⟨e, he, d, hd, same⟩)
    intro e he e' he' d d' hd hd' same
    rcases List.mem_append.mp he with he | he <;> rcases List.mem_append.mp he' with he' | he'
    · exact ih e he e' he' d d' hd hd' same
    · obtain rfl := List.mem_singleton.mp he'
      exact absurd same (apart e he d d' hd hd')
    · obtain rfl := List.mem_singleton.mp he
      exact absurd same.symm (apart e' he' d' d hd' hd)
    · obtain rfl := List.mem_singleton.mp he
      obtain rfl := List.mem_singleton.mp he'
      exact ⟨rfl, List.inj_on_of_nodup_map hds.nodup (last hd) (last hd') same⟩

/-- What is rendered has a definition, which is a function of the code. -/
theorem Emitted.exists_function (emitted : Emitted g e) (hd : e.Includes d) :
    ∃ f ∈ e.code.functions, Rendering.function e.verified d = .ok f := by
  obtain ⟨ds, _, hds, functions⟩ := emitted.rendered
  have mem : d ∈ e.verified.plan :: ds :=
    List.mem_cons.mpr (hd.imp_right (Emission.renders_iff hds).mp)
  have made := List.mem_map_of_mem (f := Rendering.function e.verified) mem
  unfold AreFunctions at functions
  rw [functions, List.mem_map] at made
  obtain ⟨f, hf, made⟩ := made
  exact ⟨f, hf, made.symm⟩

/-! ## Agreement -/

theorem Emission.Includes.mem_nodes (h : e.Includes d) : d ∈ e.verified.plan.nodes := by
  refine MappingPlan.mem_nodes_iff_embedded.mpr (h.imp_right ?_)
  rintro ⟨ds, _, hds, mem⟩
  exact hds.embedded d mem

theorem Emission.Calls.mem_nodes {x : PlannedProperty MappingPlan} {n : NestedMapping MappingPlan}
    (h : e.Calls x n d) : d ∈ e.verified.plan.nodes :=
  MappingPlan.mem_nodes_iff_embedded.mpr (Or.inr h.derived)

/-- The plans of a tree have the failures of the root. -/
theorem Emitted.declaredFailures_eq (emitted : Emitted g e) (h : d ∈ e.verified.plan.nodes) :
    d.declaredFailures = e.method.declaredFailures := by
  obtain ⟨declared, accepted⟩ := emitted.accepted
  exact accepted.declaredFailures_eq d h

/-- **Plans of one name are rendered as one function exactly when they look alike.** -/
theorem function_eq_iff_alike (emitted₀ : Emitted g e₀) (emitted : Emitted g e)
    (h₀ : d₀ ∈ e₀.verified.plan.nodes) (h : d ∈ e.verified.plan.nodes) (same : d₀.method = d.method)
    (defined : Rendering.function e₀.verified d₀ = .ok f) :
    Rendering.function e.verified d = .ok f ↔ Alike e₀ d₀ e d := by
  rw [Rendering.function_eq_ok_iff, same, emitted₀.declaredFailures_eq h₀] at defined
  obtain ⟨name, source, target, updates, error, body⟩ := defined
  rw [Rendering.function_eq_ok_iff, emitted.declaredFailures_eq h]
  constructor
  · rintro ⟨-, source', target', updates', error', body'⟩
    exact ⟨source.trans source'.symm, target.trans target'.symm, updates.trans updates'.symm,
      error.trans error'.symm, body.trans body'.symm⟩
  · intro alike
    exact ⟨name, alike.source ▸ source, alike.target ▸ target, alike.updates ▸ updates,
      alike.error ▸ error, alike.body ▸ body⟩

/-- The definitions agree with their callers exactly when each callee is defined, and only by plans that
look alike. -/
theorem agreesWithCallers_iff (session : Session g es names) :
    AgreesWithCallers es ↔ ∀ e ∈ es, ∀ x n d, e.Calls x n d →
      (∃ e₀ ∈ es, ∃ d₀, e₀.Includes d₀ ∧ d₀.method = d.method) ∧
        ∀ e₀ ∈ es, ∀ d₀, e₀.Includes d₀ → d₀.method = d.method → Alike e₀ d₀ e d := by
  refine forall₂_congr fun e he => forall₃_congr fun x n d => forall_congr' fun call => ?_
  have alike_iff : ∀ {e₀ d₀ f}, Defines es d.method e₀ d₀ f →
      (Rendering.function e.verified d = .ok f ↔ Alike e₀ d₀ e d) := by
    intro e₀ d₀ f defines
    exact function_eq_iff_alike (session.emitted e₀ defines.mem) (session.emitted e he)
      defines.includes.mem_nodes call.mem_nodes defines.method_eq defines.function_eq
  have defines : ∀ e₀ ∈ es, ∀ d₀, e₀.Includes d₀ → d₀.method = d.method →
      ∃ f, Defines es d.method e₀ d₀ f := by
    intro e₀ he₀ d₀ included method_eq
    obtain ⟨f, -, function_eq⟩ := (session.emitted e₀ he₀).exists_function included
    exact ⟨f, he₀, included, method_eq, function_eq⟩
  refine and_congr ⟨?_, ?_⟩ ⟨?_, ?_⟩
  · rintro ⟨e₀, d₀, f, h⟩
    exact ⟨e₀, h.mem, d₀, h.includes, h.method_eq⟩
  · rintro ⟨e₀, he₀, d₀, included, method_eq⟩
    exact ⟨e₀, d₀, defines e₀ he₀ d₀ included method_eq⟩
  · intro agrees e₀ he₀ d₀ included method_eq
    obtain ⟨f, h⟩ := defines e₀ he₀ d₀ included method_eq
    exact (alike_iff h).mp (agrees e₀ d₀ f h)
  · intro alike e₀ d₀ f h
    exact (alike_iff h).mpr (alike e₀ h.mem d₀ h.includes h.method_eq)

/-- A definition returns a result exactly when the root declares a checked failure that it was rendered
with. -/
theorem Defines.returnsResult_iff (session : Session g es names) {name : String}
    (h : Defines es name e d f) : f.returnsResult = true ↔ DeclaresChecked g.types e.method := by
  have emitted := session.emitted e h.mem
  obtain ⟨declared, accepted⟩ := emitted.accepted
  rw [returnsResult_eq h.function_eq, emitted.declaredFailures_eq h.includes.mem_nodes]
  exact isFallible_iff accepted

/-- A call of a derived method is followed by `?` exactly when the calling root declares a checked
failure. -/
theorem Emission.Calls.isFallible_iff (session : Session g es names) (he : e ∈ es)
    {x : PlannedProperty MappingPlan} {n : NestedMapping MappingPlan} (call : e.Calls x n d)
    {s : Statement} (hs : Rendering.statement e.verified x = .ok s) :
    s.converted.isFallible = true ↔ DeclaresChecked g.types e.method := by
  have emitted := session.emitted e he
  obtain ⟨declared, accepted⟩ := emitted.accepted
  have failures : n.declaredFailures = e.method.declaredFailures :=
    (congrArg NestedMapping.declaredFailures call.callee).trans
      (emitted.declaredFailures_eq call.mem_nodes)
  obtain ⟨q, hq, hx⟩ := call.caller
  have converts : x.conversion.isSome = true := by
    rw [PlannedProperty.nested?_eq_some_iff.mp call.reference, Option.isSome_some]
  have writes := (accepted.planned.prescribed q hq.mem_nodes x hx).action_ne_assign converts
  rw [converted_isFallible_eq call.reference writes hs, failures]
  exact Code.isFallible_iff accepted

/-- A definition writes its collections as another strategy prescribes exactly when that chooses like
the strategy of the root that it was rendered with. -/
theorem Defines.prescribed_iff (session : Session g es names) {name : String}
    (h : Defines es name e₀ d₀ f) (other : CollectionStrategy) :
    (∀ x ∈ d₀.properties, x.Prescribed other) ↔
      ∀ x ∈ d₀.properties, x.Chooses → (e₀.strategy g = .preferAdder ↔ other = .preferAdder) := by
  obtain ⟨declared, accepted⟩ := (session.emitted e₀ h.mem).accepted
  refine forall_congr' fun x => forall_congr' fun hx => ?_
  exact (accepted.planned.prescribed d₀ h.includes.mem_nodes x hx).iff_of

/-- **When the methods that roots share agree with their callers.** The definitions of a session are
what is derived for the calling roots exactly when the callee of each call is defined, and only by plans
that look alike. A definition returns a result as a call expects exactly when both the root that it was
rendered with and the calling root declare a checked failure or neither does; it writes its collections
as the calling root prescribes exactly when the strategies of the two choose alike. -/
theorem shared_methods_agree_iff (session : Session g es names) :
    (AgreesWithCallers es ↔ ∀ e ∈ es, ∀ x n d, e.Calls x n d →
      (∃ e₀ ∈ es, ∃ d₀, e₀.Includes d₀ ∧ d₀.method = d.method) ∧
        ∀ e₀ ∈ es, ∀ d₀, e₀.Includes d₀ → d₀.method = d.method → Alike e₀ d₀ e d) ∧
    ∀ e ∈ es, ∀ x n d, e.Calls x n d → ∀ e₀ d₀ f, Defines es d.method e₀ d₀ f →
      (∀ s, Rendering.statement e.verified x = .ok s →
        (f.returnsResult = s.converted.isFallible ↔
          (DeclaresChecked g.types e₀.method ↔ DeclaresChecked g.types e.method))) ∧
      ((∀ y ∈ d₀.properties, y.Prescribed (e.strategy g)) ↔
        ∀ y ∈ d₀.properties, y.Chooses →
          (e₀.strategy g = .preferAdder ↔ e.strategy g = .preferAdder)) := by
  refine ⟨agreesWithCallers_iff session, fun e he x n d call e₀ d₀ f defines => ⟨?_, ?_⟩⟩
  · intro s hs
    rw [Bool.eq_iff_iff, defines.returnsResult_iff session, call.isFallible_iff session he hs]
  · exact defines.prescribed_iff session (e.strategy g)

/-! ### Two roots of which one declares a checked failure -/

/-- One more emission through an emitter, with the names that are remembered then. -/
def emission (g : Generator) (before : RenderedNames) (m : MappingMethod) :
    Except Report (Emission × RenderedNames) := do
  let v ← ((g.plan [] m).run .empty).result
  let n := (Rendering.render m v).run before
  let code ← n.result
  return (⟨m, v, before, code⟩, n.state)

theorem Session.snoc (session : Session g es names) {m : MappingMethod} {after : RenderedNames}
    (h : emission g names m = .ok (e, after)) : Session g (es ++ [e]) after ∧ e.method = m := by
  unfold emission at h
  simp only [Rendering.bind_eq_ok_iff, Rendering.pure_eq_ok_iff, Prod.mk.injEq] at h
  obtain ⟨v, planned, code, rendered, rfl, rfl⟩ := h
  exact ⟨.emit session planned ⟨rendered, rfl⟩, rfl⟩

/-- Owners with a pet. -/
def owners : Generator where
  types := .ofList [
    ⟨⟨"PetFailure"⟩, .failure false, [], []⟩,
    ⟨⟨"Pet"⟩, .bean, [], [.getter "getName" ⟨"String"⟩]⟩,
    ⟨⟨"PetDto"⟩, .bean, [], [.writer "setName" ⟨"String"⟩]⟩,
    ⟨⟨"Owner"⟩, .bean, [], [.getter "getPet" ⟨"Pet"⟩]⟩,
    ⟨⟨"OwnerDto"⟩, .bean, [], [.writer "setPet" ⟨"PetDto"⟩]⟩]
  config := .default
  book := .empty
  valid := GeneratorConfig.fault?_default

/-- Maps an owner, and declares failures. -/
def mapOwner (name : String) (failures : List TypeName) : MappingMethod where
  name := name
  sourceType := ⟨"Owner"⟩
  targetType := ⟨"OwnerDto"⟩
  declaredFailures := failures

/-- Maps an owner, and declares no failure. -/
def copyOwner : MappingMethod := mapOwner "copy_owner" []

/-- Maps an owner, and declares a checked failure. -/
def checkOwner : MappingMethod := mapOwner "check_owner" [⟨"PetFailure"⟩]

/-- Whether a root calls the method that maps a pet, and holds its plan. -/
def callsMapPet (e : Emission) : Bool :=
  e.verified.plan.properties.any fun x =>
    x.nested?.any fun n => n.plan.any fun d => d.method == "map_pet_to_pet_dto"

theorem exists_calls_of_callsMapPet (emitted : Emitted g e) (h : callsMapPet e = true) :
    ∃ x n d, e.Calls x n d ∧ d.method = "map_pet_to_pet_dto" := by
  unfold callsMapPet at h
  simp only [List.any_eq_true, Option.any_eq_true, beq_iff_eq] at h
  obtain ⟨x, hx, n, hn, d, hd, method_eq⟩ := h
  obtain ⟨declared, accepted⟩ := emitted.accepted
  have root := MappingPlan.mem_nodes_self e.verified.plan
  have reference : n ∈ e.verified.plan.references :=
    MappingPlan.mem_references_iff.mpr ⟨x, hx, hn⟩
  have nested : d ∈ e.verified.plan.nested := MappingPlan.mem_nested_iff.mpr ⟨n, reference, hd⟩
  have derived : d ∈ MappingPlan.embedded e.verified.plan.properties :=
    List.mem_flatMap.mpr ⟨d, nested, MappingPlan.mem_postorder_iff.mpr (MappingPlan.mem_nodes_self d)⟩
  have callee := accepted.planned.embeds _ root n reference d hd
  exact ⟨x, n, d, ⟨⟨_, Or.inl rfl, hx⟩, hn, derived, callee⟩, method_eq⟩

theorem owners_evaluated : (emission owners [] copyOwner).toOption.any (fun first =>
    first.2.contains "map_pet_to_pet_dto" &&
      (emission owners first.2 checkOwner).toOption.any fun second => callsMapPet second.1) = true := by
  decide +kernel

/-- The second root calls what was rendered with the first. -/
theorem exists_owners_session : ∃ first second names, Session owners [first, second] names ∧
    first.method = copyOwner ∧ second.method = checkOwner ∧
      ∃ x n d d₀ f, second.Calls x n d ∧ Defines [first, second] d.method first d₀ f := by
  obtain ⟨⟨first, middle⟩, hfirst, evaluated⟩ := Narrated.exists_ok_of_any owners_evaluated
  rw [Bool.and_eq_true, List.contains_iff_mem] at evaluated
  obtain ⟨mem, evaluated⟩ := evaluated
  obtain ⟨⟨second, names⟩, hsecond, calls⟩ := Narrated.exists_ok_of_any evaluated
  obtain ⟨session, first_eq⟩ := Session.start.snoc hfirst
  obtain ⟨e, he, d₀, renders, method_eq₀⟩ := session.mem_names_iff.mp mem
  obtain rfl := List.mem_singleton.mp he
  obtain ⟨session, second_eq⟩ := session.snoc hsecond
  have emitted := session.emitted second (List.mem_append_right _ List.mem_cons_self)
  obtain ⟨x, n, d, call, method_eq⟩ := exists_calls_of_callsMapPet emitted calls
  have included : e.Includes d₀ := Or.inr renders
  obtain ⟨f, -, function_eq⟩ := (session.emitted e List.mem_cons_self).exists_function included
  exact ⟨e, second, names, session, first_eq, second_eq, x, n, d, d₀, f, call,
    List.mem_cons_self, included, method_eq₀.trans method_eq.symm, function_eq⟩

theorem not_declaresChecked_copyOwner : ¬ DeclaresChecked owners.types copyOwner := by
  rintro ⟨f, mem, -⟩
  exact absurd mem List.not_mem_nil

theorem declaresChecked_checkOwner : DeclaresChecked owners.types checkOwner := by
  refine ⟨⟨"PetFailure"⟩, List.mem_cons_self, fun unchecked => ?_⟩
  have checked : Contract.isUnchecked owners.types ⟨"PetFailure"⟩ = false := by decide +kernel
  rw [Contract.isUnchecked_iff.mpr unchecked] at checked
  exact absurd checked (by simp)

/-- The function that was rendered with the first root returns no result, and the second root calls it
with `?`. -/
theorem shared_result_differs : ∃ es names, Session owners es names ∧
    ∃ e ∈ es, ∃ x n d, e.Calls x n d ∧ ∃ e₀ d₀ f, Defines es d.method e₀ d₀ f ∧
      ∀ s, Rendering.statement e.verified x = .ok s → f.returnsResult ≠ s.converted.isFallible := by
  obtain ⟨first, second, names, session, first_eq, second_eq, x, n, d, d₀, f, call, defines⟩ :=
    exists_owners_session
  have mem : second ∈ [first, second] := List.mem_cons_of_mem _ List.mem_cons_self
  refine ⟨_, names, session, second, mem, x, n, d, call, first, d₀, f, defines, fun s hs same => ?_⟩
  obtain ⟨-, agree⟩ := shared_methods_agree_iff session
  have both := ((agree second mem x n d call first d₀ f defines).1 s hs).mp same
  rw [first_eq, second_eq] at both
  exact not_declaresChecked_copyOwner (both.mpr declaresChecked_checkOwner)

/-- **Derived methods that roots share do not always agree with their callers.** -/
theorem shared_methods_disagree :
    ∃ es names, Session owners es names ∧ ¬ AgreesWithCallers es := by
  obtain ⟨first, second, names, session, first_eq, second_eq, x, n, d, d₀, f, call, defines⟩ :=
    exists_owners_session
  have mem : second ∈ [first, second] := List.mem_cons_of_mem _ List.mem_cons_self
  refine ⟨_, names, session, fun agrees => ?_⟩
  have function_eq := (agrees second mem x n d call).2 first d₀ f defines
  have emitted := session.emitted second mem
  obtain ⟨declared, accepted⟩ := emitted.accepted
  have result : f.returnsResult = true ↔ DeclaresChecked owners.types second.method := by
    rw [returnsResult_eq function_eq, emitted.declaredFailures_eq call.mem_nodes]
    exact isFallible_iff accepted
  rw [defines.returnsResult_iff session, first_eq, second_eq] at result
  exact not_declaresChecked_copyOwner (result.mpr declaresChecked_checkOwner)

end Code

end BeanMapping
