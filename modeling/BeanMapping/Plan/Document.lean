import BeanMapping.Plan

/-!
# Plans as documents

The record of a plan and of its parts. A plan inside a plan is written in its place, so a document is
as deep as its plan; reading goes down with the document.
-/

namespace BeanMapping

namespace NestedMapping

variable {ρ : Type}

/-- The mapping as a record, in which its plan is already written. -/
def toJson (m : NestedMapping ρ) (plan : Option Json) : Json :=
  .obj [("method", .str m.method), ("source_type", m.sourceType.toJson),
    ("target_type", m.targetType.toJson),
    ("declared_failures", TypeName.listToJson m.declaredFailures), ("plan", plan.getD .null)]

/-- A mapping from a record. -/
def ofJson? (readPlan : Json → Option ρ) (v : Json) : Option (NestedMapping ρ) := do
  let fields ← v.asRecord? ["method", "source_type", "target_type", "declared_failures", "plan"] 5
  return {
    method := ← Json.required Json.asText? fields "method"
    sourceType := ← Json.required TypeName.ofJson? fields "source_type"
    targetType := ← Json.required TypeName.ofJson? fields "target_type"
    declaredFailures := ← Json.required (Json.listOf? TypeName.ofJson?) fields "declared_failures"
    plan := ← Json.optional readPlan fields "plan" }

end NestedMapping

namespace Conversion

variable {ρ : Type}

/-- The conversion as a value, in which its plan is already written. -/
def toJson (c : Conversion ρ) (plan : Option Json) : Json :=
  match c with
  | .builtin b => .obj [("Builtin", b.toJson)]
  | .converter path targetType failures =>
    .obj [("Converter", .obj [("converter", .str path),
      ("target_type", .ofOption TypeName.toJson targetType),
      ("declared_failures", TypeName.listToJson failures)])]
  | .nested m => .obj [("Nested", m.toJson plan)]

/-- A conversion from a value. -/
def ofJson? (readPlan : Json → Option ρ) (v : Json) : Option (Conversion ρ) :=
  match v with
  | .obj [("Builtin", v)] => (Builtin.ofJson? v).map .builtin
  | .obj [("Converter", .obj fields)] => do
    return .converter
      (← Json.required Json.asText? fields "converter")
      (← Json.optional TypeName.ofJson? fields "target_type")
      (← Json.required (Json.listOf? TypeName.ofJson?) fields "declared_failures")
  | .obj [("Nested", v)] => (NestedMapping.ofJson? readPlan v).map .nested
  | _ => none

end Conversion

namespace PlannedProperty

variable {ρ : Type}

/-- The planned property as a record, in which its plan is already written. -/
def toJson (p : PlannedProperty ρ) (plan : Option Json) : Json :=
  .obj [("source", p.source.toJson), ("target", p.target.toJson), ("action", p.action.toJson),
    ("conversion", .ofOption (·.toJson plan) p.conversion)]

/-- A planned property from a record. -/
def ofJson? (readPlan : Json → Option ρ) (v : Json) : Option (PlannedProperty ρ) := do
  let fields ← v.asRecord? ["source", "target", "action", "conversion"] 4
  return {
    source := ← Json.required Property.ofJson? fields "source"
    target := ← Json.required Property.ofJson? fields "target"
    action := ← Json.required PropertyAction.ofJson? fields "action"
    conversion := ← Json.optional (Conversion.ofJson? readPlan) fields "conversion" }

end PlannedProperty

namespace MappingPlan

/-- The plan as a record. -/
def toJson (p : MappingPlan) : Json :=
  .obj [("method", .str p.method), ("source_type", p.sourceType.toJson),
    ("target_type", p.targetType.toJson), ("updates_existing_target", .bool p.updatesTarget),
    ("declared_failures", TypeName.listToJson p.declaredFailures),
    ("properties", .arr (p.properties.attach.map fun q =>
      q.1.toJson (q.1.plan?.attach.map fun inner => inner.1.toJson)))]
termination_by sizeOf p
decreasing_by
  exact Nat.lt_trans (PlannedProperty.sizeOf_lt_of_plan? inner.2) (sizeOf_lt_of_mem_properties q.2)

/-- A plan from a record that is at most so deep. -/
def ofJsonWithin? : Nat → Json → Option MappingPlan
  | 0, _ => none
  | depth + 1, v => do
    let fields ← v.asRecord? ["method", "source_type", "target_type", "updates_existing_target",
      "declared_failures", "properties"] 6
    return {
      method := ← Json.required Json.asText? fields "method"
      sourceType := ← Json.required TypeName.ofJson? fields "source_type"
      targetType := ← Json.required TypeName.ofJson? fields "target_type"
      updatesTarget := ← Json.required Json.asBool? fields "updates_existing_target"
      declaredFailures := ← Json.required (Json.listOf? TypeName.ofJson?) fields "declared_failures"
      properties := ← Json.required
        (Json.listOf? (PlannedProperty.ofJson? (ofJsonWithin? depth))) fields "properties" }

/-- A plan from a record. -/
def ofJson? (v : Json) : Option MappingPlan :=
  ofJsonWithin? v.depth v

/-- A property of a plan as a record. -/
def propertyToJson (q : PlannedProperty MappingPlan) : Json :=
  q.toJson (q.plan?.map toJson)

theorem toJson_eq (p : MappingPlan) : p.toJson =
    .obj [("method", .str p.method), ("source_type", p.sourceType.toJson),
      ("target_type", p.targetType.toJson), ("updates_existing_target", .bool p.updatesTarget),
      ("declared_failures", TypeName.listToJson p.declaredFailures),
      ("properties", .arr (p.properties.map propertyToJson))] := by
  rw [toJson]
  simp [propertyToJson]

end MappingPlan

end BeanMapping
