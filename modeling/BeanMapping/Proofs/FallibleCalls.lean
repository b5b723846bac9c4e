import BeanMapping.Proofs.SharedMethods

/-!
# Calls that can fail stand in functions that return a result

Whether a call is followed by `?` is decided by the failures of what is called; whether a function
returns a result, by the failures that its method declares. The two agree in a verified tree: a checked
failure of a call is covered by a declared one, and that is checked itself, since whatever may be used
as an unchecked failure is unchecked (`Covered.exists_checked`).

Results:
* `call_isFallible_iff`: `?` stands after a call exactly when the call declares a checked failure;
* **`try_only_in_results`**: where `?` stands after some call for a property, the function of the plan
  returns a result.
-/

namespace BeanMapping

/-! ## Failures -/

/-- A declared failure that covers a checked one is checked. -/
theorem Contract.Covered.exists_checked {types : Registry} {f : TypeName} {declared : List TypeName}
    (h : Covered types f declared) (checked : ¬ Unchecked types f) :
    ∃ d ∈ declared, ¬ Unchecked types d := by
  obtain ⟨d, hd, leads⟩ := covered_iff_leads.mp h
  exact ⟨d, hd, fun unchecked => checked (unchecked.of_leads leads)⟩

namespace Code

open Contract (Unchecked)

variable {types : Registry} {p q : MappingPlan} {v : VerifiedPlan} {f : Function}
  {x : PlannedProperty MappingPlan} {i : Invocation}

/-- Of failures that a plan of the tree names, one is checked for the emitter exactly when one is
checked. -/
theorem isFallible_iff_exists (verified : Contract.Verified types p v) (hq : q ∈ p.nodes)
    {failures : List TypeName} (names : ∀ f ∈ failures, q.Names f) :
    Rendering.isFallible v failures = true ↔ ∃ f ∈ failures, ¬ Unchecked types f := by
  unfold Rendering.isFallible
  rw [List.any_eq_true]
  refine exists_congr fun f => and_congr_right fun mem => ?_
  rw [verified.isChecked_iff]
  exact and_iff_left ⟨q, hq, names f mem⟩

/-- **`?` stands after a call exactly when the call declares a checked failure.** -/
theorem call_isFallible_iff (verified : Contract.Verified types p v) (hq : q ∈ p.nodes)
    (hx : x ∈ q.properties) (hi : i ∈ x.invocations) :
    Rendering.isFallible v i.failures = true ↔ ∃ f ∈ i.failures, ¬ Unchecked types f :=
  isFallible_iff_exists verified hq fun _ hf => Or.inr ⟨x, hx, i, hi, hf⟩

/-- A plan that calls something with a checked failure declares a checked failure. -/
theorem isFallible_declared (verified : Contract.Verified types p v) (hq : q ∈ p.nodes)
    (hx : x ∈ q.properties) (hi : i ∈ x.invocations)
    (fallible : Rendering.isFallible v i.failures = true) :
    Rendering.isFallible v q.declaredFailures = true := by
  obtain ⟨f, hf, checked⟩ := (call_isFallible_iff verified hq hx hi).mp fallible
  have covered := (verified.honours q hq x hx i hi f hf).resolve_left checked
  exact (isFallible_iff_exists verified hq fun _ hd => Or.inl hd).mpr (covered.exists_checked checked)

/-- There is no type of errors exactly when no declared failure is checked. -/
theorem errorType_eq_none_iff {declared : List TypeName} :
    Rendering.errorType v declared = .ok none ↔ Rendering.isFallible v declared = false := by
  have filtered : declared.filter v.isChecked = [] ↔ Rendering.isFallible v declared = false := by
    unfold Rendering.isFallible
    rw [List.filter_eq_nil_iff, List.any_eq_false]
  rw [← filtered]
  unfold Rendering.errorType
  cases declared.filter v.isChecked with
  | nil => exact iff_of_true rfl rfl
  | cons a rest =>
    refine iff_of_false (fun h => ?_) (List.cons_ne_nil a rest)
    cases rest with
    | nil =>
      obtain ⟨_, -, h⟩ := Rendering.bind_eq_ok_iff.mp h
      exact absurd (Except.ok.inj h) (by simp)
    | cons => exact absurd (Except.ok.inj h) (by simp)

/-! ## Statements -/

theorem present_eq_ok {what details : String} {o : Option Accessor} {a : Accessor}
    (h : Rendering.present what details o = .ok a) : o = some a := by
  cases o with
  | none => cases h
  | some b => exact congrArg some (Except.ok.inj h)

theorem call_fallible_eq {a : Accessor} {c : Call} (h : Rendering.call v a = .ok c) :
    c.fallible = Rendering.isFallible v a.failures := by
  unfold Rendering.call at h
  obtain ⟨_, -, h⟩ := Rendering.bind_eq_ok_iff.mp h
  rw [← Except.ok.inj h]

/-- A conversion can fail exactly when it calls something with a checked failure. -/
theorem isFallible_of_converted {c : Converted} (h : Rendering.converted v x = .ok c) :
    c.isFallible = x.conversion.any fun k => Rendering.isFallible v k.declaredFailures := by
  unfold Rendering.converted at h
  split at h <;> rename_i conversion <;> rw [conversion]
  · rw [← Except.ok.inj h]
    rfl
  · rw [← Except.ok.inj h]
    rfl
  · obtain ⟨_, -, h⟩ := Rendering.bind_eq_ok_iff.mp h
    rw [← Except.ok.inj h]
    rfl
  · rw [← Except.ok.inj h]
    rfl
  · rw [← Except.ok.inj h]
    rfl
  · simp only [Rendering.bind_eq_ok_iff] at h
    obtain ⟨_, -, _, -, _, -, h⟩ := h
    rw [← Except.ok.inj h]
    rfl
  · simp only [Rendering.bind_eq_ok_iff] at h
    obtain ⟨_, -, _, -, h⟩ := h
    rw [← Except.ok.inj h]
    exact (Option.any_some ..).symm
  · obtain ⟨_, -, h⟩ := Rendering.bind_eq_ok_iff.mp h
    rw [← Except.ok.inj h]
    exact (Option.any_some ..).symm

/-- The parts of a rendered statement: what reads, what writes, and what converts unless the value is
passed on as it is. -/
theorem statement_parts {s : Statement} (h : Rendering.statement v x = .ok s) :
    ∃ reader writer, x.source.accessors.getter = some reader ∧ x.mutator? = some writer ∧
      s.read.fallible = Rendering.isFallible v reader.failures ∧
      s.write.fallible = Rendering.isFallible v writer.failures ∧
      (s.converted = .same ∨ Rendering.converted v x = .ok s.converted) := by
  unfold Rendering.statement at h
  simp only [Rendering.bind_eq_ok_iff] at h
  obtain ⟨reader, hreader, writer, hwriter, read, hread, write, hwrite, c, hc, h⟩ := h
  refine ⟨reader, writer, present_eq_ok hreader, present_eq_ok hwriter, ?_⟩
  rw [← call_fallible_eq hread, ← call_fallible_eq hwrite]
  split at h
  · rw [← Except.ok.inj h]
    exact ⟨rfl, rfl, Or.inl rfl⟩
  · rw [← Except.ok.inj h]
    exact ⟨rfl, rfl, Or.inr hc⟩
  · simp only [Rendering.bind_eq_ok_iff] at h
    obtain ⟨_, -, _, -, h⟩ := h
    rw [← Except.ok.inj h]
    exact ⟨rfl, rfl, Or.inr hc⟩
  · rw [← Except.ok.inj h]
    exact ⟨rfl, rfl, Or.inr hc⟩
  · rw [← Except.ok.inj h]
    exact ⟨rfl, rfl, Or.inr hc⟩

/-- A call of a rendered statement that is followed by `?` is one of the calls for its property. -/
theorem exists_call_of_isFallible {s : Statement} (h : Rendering.statement v x = .ok s)
    (fallible : s.isFallible = true) :
    ∃ i ∈ x.invocations, Rendering.isFallible v i.failures = true := by
  obtain ⟨reader, writer, hreader, hwriter, read, write, converts⟩ := statement_parts h
  unfold Statement.isFallible at fallible
  rw [Bool.or_eq_true, Bool.or_eq_true, read, write] at fallible
  unfold PlannedProperty.invocations
  rw [hreader, hwriter]
  rcases fallible with (fallible | fallible) | fallible
  · exact ⟨PlannedProperty.memberCall reader, by simp, fallible⟩
  · rcases converts with same | converts
    · rw [same] at fallible
      exact absurd fallible Bool.false_ne_true
    · rw [isFallible_of_converted converts] at fallible
      obtain ⟨k, hk, fallible⟩ := (Option.any_eq_true ..).mp fallible
      exact ⟨PlannedProperty.conversionCall k, by simp [hk], fallible⟩
  · exact ⟨PlannedProperty.memberCall writer, by simp, fallible⟩

/-! ## Functions -/

/-- A function with a type of errors is written with a result type. -/
theorem Function.exists_resultTokens (h : f.returnsResult = true) :
    ∃ value error, f.outcome.1 = Token.marks "->" ++ Function.resultTokens value error := by
  obtain ⟨error, some⟩ := Option.isSome_iff_exists.mp h
  unfold Function.outcome
  rw [some]
  cases f.updatesTarget with
  | true => exact ⟨_, _, rfl⟩
  | false => exact ⟨_, _, rfl⟩

/-- **`?` stands only in functions that return a result.** Take a plan of a tree that the verifier
accepted, and a property of it. A rendered statement for the property that contains `?` calls something
that raises a checked failure. Where something called for the property does, the plan is not one
without a type of errors: its function is written with a result type, or not written at all when the
type of errors cannot be read. -/
theorem try_only_in_results {σ : Type} {method : String} {s : σ}
    (accepted : ((Contract.verify types method p).run s).result = .ok v) (hq : q ∈ p.nodes)
    (hx : x ∈ q.properties) :
    (∀ t, Rendering.statement v x = .ok t → t.isFallible = true →
      ∃ i ∈ x.invocations, Rendering.isFallible v i.failures = true) ∧
    ((∃ i ∈ x.invocations, Rendering.isFallible v i.failures = true) →
      Rendering.errorType v q.declaredFailures ≠ .ok none ∧
        ∀ f, Rendering.function v q = .ok f → f.returnsResult = true ∧
          ∃ value error, f.outcome.1 = Token.marks "->" ++ Function.resultTokens value error) := by
  have verified := Contract.verified_of_gives (Narrated.gives_of_result accepted)
  refine ⟨fun t ht fallible => exists_call_of_isFallible ht fallible, ?_⟩
  rintro ⟨i, hi, fallible⟩
  have declared := isFallible_declared verified hq hx hi fallible
  refine ⟨fun none => ?_, fun f hf => ?_⟩
  · rw [errorType_eq_none_iff, declared] at none
    exact absurd none Bool.noConfusion
  · have result : f.returnsResult = true := (returnsResult_eq hf).trans declared
    exact ⟨result, Function.exists_resultTokens result⟩

/-! ### A failure of which the supertypes run in a circle -/

/-- Two failures, each a supertype of the other. -/
def strays : Registry := .ofList [
  ⟨⟨"DogFailure"⟩, .failure false, [⟨"AnimalFailure"⟩], []⟩,
  ⟨⟨"AnimalFailure"⟩, .failure false, [⟨"DogFailure"⟩], []⟩]

/-- The name of a dog, of which the getter may fail. -/
def dogName : PlannedProperty MappingPlan where
  source := ⟨"name", ⟨"String"⟩, none, { getter := some ⟨"getName", [⟨"DogFailure"⟩]⟩ }⟩
  target := ⟨"name", ⟨"String"⟩, none, { setter := some ⟨"setName", []⟩ }⟩
  action := .assign
  conversion := none

/-- The plan of a method that declares the one failure where the getter raises the other. -/
def dogPlan : MappingPlan :=
  ⟨"dog_to_dto", ⟨"Dog"⟩, ⟨"DogDto"⟩, false, [⟨"AnimalFailure"⟩], [dogName]⟩

theorem try_in_dog_to_dto : ∃ v f t,
    ((Contract.verify strays "dog_to_dto" dogPlan).run ()).result = .ok v ∧
    Rendering.statement v dogName = .ok t ∧ t.isFallible = true ∧
      Rendering.function v dogPlan = .ok f ∧ f.returnsResult = true := by
  obtain ⟨v, accepted, rendered⟩ := Narrated.exists_ok_of_any
    (show ((Contract.verify strays "dog_to_dto" dogPlan).run ()).result.toOption.any (fun v =>
      (Rendering.statement v dogName).toOption.any Statement.isFallible &&
        (Rendering.function v dogPlan).toOption.any fun _ => true) = true by decide +kernel)
  rw [Bool.and_eq_true] at rendered
  obtain ⟨t, ht, fallible⟩ := Narrated.exists_ok_of_any rendered.1
  obtain ⟨f, hf, -⟩ := Narrated.exists_ok_of_any rendered.2
  obtain ⟨places, returns⟩ := try_only_in_results accepted (MappingPlan.mem_nodes_self dogPlan)
    (List.mem_singleton.mpr rfl : dogName ∈ dogPlan.properties)
  exact ⟨v, f, t, accepted, ht, fallible, hf, ((returns (places t ht fallible)).2 f hf).1⟩

end Code

end BeanMapping
