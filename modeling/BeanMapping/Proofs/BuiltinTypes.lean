import BeanMapping.Proofs.Conversions

/-!
# The types of built-in conversions

A built-in conversion is found for two types. Code is rendered for two types as well, those that are
read off the planned property. The two sources are always the same. The targets are the same unless the
method has a hint for the property: the conversion is then found for the hint, while the property keeps
the declared type.

Results:
* **`Converted.builtin_found`**: a built-in conversion of a property is found for its source type and the
  type that the method produces for it;
* **`builtin_types_agree_iff`**: the types agree in a whole tree exactly when no hint of the root changes
  what is found;
* `builtin_types_disagree`: a number that is widened to a hint.
-/

namespace BeanMapping

/-- The built-in conversion of a property. -/
def PlannedProperty.builtin? {ρ : Type} (x : PlannedProperty ρ) : Option Builtin :=
  match x.conversion with
  | some (.builtin b) => some b
  | _ => none

theorem PlannedProperty.builtin?_eq_some_iff {ρ : Type} {x : PlannedProperty ρ} {b : Builtin} :
    x.builtin? = some b ↔ x.conversion = some (.builtin b) := by
  rcases x with ⟨source, target, action, _ | (_ | _ | _)⟩ <;> simp [builtin?]

/-- The type to produce for a property: what the options ask for, or else the type of the property. -/
def PropertyOptions.producedType (o : PropertyOptions) (x : PlannedProperty MappingPlan) : TypeName :=
  (o.hint? x.target.name).getD x.targetValueType

/-- **The types of the built-in conversions agree**: each is the one that is found for the types that
are read off its property. -/
def MappingPlan.BuiltinsAgree (types : Registry) (p : MappingPlan) : Prop :=
  ∀ q ∈ p.nodes, ∀ x ∈ q.properties, ∀ b ∈ x.builtin?,
    Builtin.find? types x.sourceValueType x.targetValueType = some b

instance (types : Registry) (p : MappingPlan) : Decidable (p.BuiltinsAgree types) :=
  inferInstanceAs (Decidable (∀ q ∈ p.nodes, ∀ x ∈ q.properties, ∀ b ∈ x.builtin?,
    Builtin.find? types x.sourceValueType x.targetValueType = some b))

namespace Resolution

variable {types : Registry} {book : RuleBook} {source target declared : TypeName} {b : Builtin}

theorem find?_of_route (h : route types book source target = .builtin b) :
    Builtin.find? types source target = some b := by
  unfold route at h
  split at h
  · cases h
  · split at h
    · cases h
    · split at h
      · rename_i found
        rw [found, Route.builtin.inj h]
      · cases h

theorem targetType_eq {property : String} {hint : Option TypeName}
    (h : targetType types property declared hint = .ok target) : target = hint.getD declared := by
  unfold targetType at h
  split at h
  · exact (Except.ok.inj h).symm
  · split at h
    · exact (Except.ok.inj h).symm
    · cases h

end Resolution

namespace Planner

open MappingPlan (embedded)

variable {p : Planner} {m root : MappingMethod} {plan : MappingPlan}
  {x : PlannedProperty MappingPlan} {b : Builtin}

/-- **A built-in conversion is found for the source type of its property and the type to produce.** -/
theorem Converted.builtin_found (h : p.Converted m x) (hb : x.builtin? = some b) :
    Builtin.find? p.types x.sourceValueType (m.options.producedType x) = some b := by
  obtain ⟨target, target_eq, converts⟩ := h
  rw [PlannedProperty.builtin?_eq_some_iff.mp hb] at converts
  unfold PropertyOptions.producedType
  rw [← Resolution.targetType_eq target_eq]
  cases converts with
  | direct direct =>
    cases direct with
    | builtin route _ => exact Resolution.find?_of_route route

/-- Nothing is asked for the properties of a derived method, so theirs is found for their own types. -/
theorem ConvertedTree.builtin_found_of_embedded (h : p.ConvertedTree root plan) {q : MappingPlan}
    (hq : q ∈ embedded plan.properties) (hx : x ∈ q.properties) (hb : x.builtin? = some b) :
    Builtin.find? p.types x.sourceValueType x.targetValueType = some b :=
  (h.derived q hq x hx).builtin_found hb

/-- The types agree in a tree exactly when no hint of the root changes what is found for a property. -/
theorem ConvertedTree.builtinsAgree_iff (h : p.ConvertedTree root plan) :
    plan.BuiltinsAgree p.types ↔
      ∀ x ∈ plan.properties, ∀ b ∈ x.builtin?, ∀ hint ∈ root.options.hint? x.target.name,
        Builtin.find? p.types x.sourceValueType x.targetValueType =
          Builtin.find? p.types x.sourceValueType hint := by
  have found : ∀ x ∈ plan.properties, ∀ b ∈ x.builtin?, ∀ hint ∈ root.options.hint? x.target.name,
      Builtin.find? p.types x.sourceValueType hint = some b := by
    intro x hx b hb hint hh
    have produced := (h.root x hx).builtin_found hb
    unfold PropertyOptions.producedType at produced
    rwa [Option.mem_def.mp hh] at produced
  constructor
  · intro agree x hx b hb hint hh
    rw [agree plan (MappingPlan.mem_nodes_self plan) x hx b hb, found x hx b hb hint hh]
  · intro same q hq x hx b hb
    rcases MappingPlan.mem_nodes_iff_embedded.mp hq with rfl | hq
    · cases hint : root.options.hint? x.target.name with
      | none =>
        have produced := (h.root x hx).builtin_found hb
        unfold PropertyOptions.producedType at produced
        rwa [hint] at produced
      | some t => rw [same x hx b hb t hint, found x hx b hb t hint]
    · exact h.builtin_found_of_embedded hq hx hb

end Planner

namespace Generator

/-- **When the types of built-in conversions agree.** The built-in conversion of a property of an
accepted root is the one that is found for the hint of the root, where there is one, and that of a
property of an embedded plan is the one for the types of the property. So the types agree in the tree
exactly when no hint of the root changes what is found for a property. -/
theorem builtin_types_agree_iff {g : Generator} {declared : List MappingMethod} {root : MappingMethod}
    {shapes : ShapeCache} {v : VerifiedPlan}
    (accepted : ((g.plan declared root).run shapes).result = .ok v) :
    (∀ x ∈ v.plan.properties, ∀ b ∈ x.builtin?,
      Builtin.find? g.types x.sourceValueType (root.options.producedType x) = some b) ∧
    (∀ q ∈ MappingPlan.embedded v.plan.properties, ∀ x ∈ q.properties, ∀ b ∈ x.builtin?,
      Builtin.find? g.types x.sourceValueType x.targetValueType = some b) ∧
    (v.plan.BuiltinsAgree g.types ↔
      ∀ x ∈ v.plan.properties, ∀ b ∈ x.builtin?, ∀ hint ∈ root.options.hint? x.target.name,
        Builtin.find? g.types x.sourceValueType x.targetValueType =
          Builtin.find? g.types x.sourceValueType hint) := by
  have tree := convertedTree_of_gives (Narrated.gives_of_result accepted)
  exact ⟨fun x hx b hb => (tree.root x hx).builtin_found hb,
    fun q hq x hx b hb => tree.builtin_found_of_embedded hq hx hb, tree.builtinsAgree_iff⟩

/-! ### A number that is widened to a hint -/

/-- Meters that count, in a narrow type, and their readings. -/
def meters : Generator where
  types := .ofList [
    ⟨⟨"Number"⟩, .value, [], []⟩,
    ⟨⟨"i64"⟩, .value, [⟨"Number"⟩], []⟩,
    ⟨⟨"Meter"⟩, .bean, [], [.getter "getCount" ⟨"i32"⟩]⟩,
    ⟨⟨"Reading"⟩, .bean, [], [.writer "setCount" ⟨"i64"⟩]⟩,
    ⟨⟨"AnyReading"⟩, .bean, [], [.writer "setCount" ⟨"Number"⟩]⟩]
  config := .default
  book := .empty
  valid := GeneratorConfig.fault?_default

/-- Maps a meter, of which the count is to become an `i64`. -/
def mapMeter (target : TypeName) : MappingMethod where
  name := "meter_to_reading"
  sourceType := ⟨"Meter"⟩
  targetType := target
  options := PropertyOptions.hinting .empty "count" ⟨"i64"⟩

/-- What the generator makes of the mapping of a meter. -/
def metersOutcome (target : TypeName) : Except Report VerifiedPlan :=
  ((meters.plan [] (mapMeter target)).run .empty).result

/-- The count of a reading is declared as what the hint asks for. -/
theorem builtin_types_agree_in_reading : ∃ v, metersOutcome ⟨"Reading"⟩ = .ok v ∧
    (∃ x ∈ v.plan.properties, x.builtin? = some .widening) ∧ v.plan.BuiltinsAgree meters.types := by
  obtain ⟨v, accepted, evaluated⟩ := Narrated.exists_ok_of_any
    (show (metersOutcome ⟨"Reading"⟩).toOption.any (fun v =>
      v.plan.properties.any (·.builtin? == some .widening) && v.plan.properties.all fun x =>
        ((mapMeter ⟨"Reading"⟩).options.hint? x.target.name).all (· == x.targetValueType)) = true by
      decide +kernel)
  rw [Bool.and_eq_true, List.any_eq_true, List.all_eq_true] at evaluated
  obtain ⟨⟨x, hx, widened⟩, declared⟩ := evaluated
  obtain ⟨-, -, agree_iff⟩ := builtin_types_agree_iff accepted
  refine ⟨v, accepted, ⟨x, hx, eq_of_beq widened⟩, agree_iff.mpr fun x hx b _ hint hh => ?_⟩
  have same := declared x hx
  rw [Option.mem_def.mp hh] at same
  rw [eq_of_beq same]

/-- The count of any reading is declared as a supertype of the hint, and nothing widens to that. -/
theorem builtin_types_disagree : ∃ v, metersOutcome ⟨"AnyReading"⟩ = .ok v ∧
    ¬ v.plan.BuiltinsAgree meters.types := by
  obtain ⟨v, accepted, evaluated⟩ := Narrated.exists_ok_of_any
    (show (metersOutcome ⟨"AnyReading"⟩).toOption.any
      (fun v => !v.plan.BuiltinsAgree meters.types) = true by decide +kernel)
  rw [Bool.not_eq_true', decide_eq_false_iff_not] at evaluated
  exact ⟨v, accepted, evaluated⟩

end Generator

end BeanMapping
