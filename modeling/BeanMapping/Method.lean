import BeanMapping.Config
import BeanMapping.Registry

/-!
# Mapping methods

A mapping method turns a value of one type into a value of another, or writes it into a value that
its caller hands in. It declares the failures that it may raise, and may set options for single
properties of its target.
-/

namespace BeanMapping

/-- What a method asks for one property of its target. -/
structure PropertyOption where
  /-- The type to produce in the place of the declared one. -/
  targetTypeHint : Option TypeName := none
  /-- Whether the property is left alone. -/
  ignore : Bool := false
deriving DecidableEq, Repr, Inhabited

/-- The options of a method, by the name of the target property. -/
abbrev PropertyOptions := NameMap PropertyOption

/-- The signature of a mapping method. -/
structure MappingMethod where
  name : String
  sourceType : TypeName
  targetType : TypeName
  /-- Whether the caller hands in the value that is written to. -/
  updatesTarget : Bool := false
  declaredFailures : List TypeName := []
  /-- The strategy for collections, where it is not the generator's. -/
  strategy : Option CollectionStrategy := none
  options : PropertyOptions := .empty

namespace PropertyOption

/-- The option as a record. -/
def toJson (o : PropertyOption) : Json :=
  .obj [("target_type_hint", .ofOption TypeName.toJson o.targetTypeHint), ("ignore", .bool o.ignore)]

/-- The names of the fields of an option. -/
def fieldNames : List String := ["target_type_hint", "ignore"]

/-- An option from a record that has no other fields. -/
def ofJson? (v : Json) : Option PropertyOption := do
  let fields ← v.asRecord? fieldNames 0
  guard (Json.hasOnly fieldNames fields)
  return {
    targetTypeHint := ← Json.optional TypeName.ofJson? fields "target_type_hint"
    ignore := ← Json.defaulted Json.asBool? false fields "ignore" }

end PropertyOption

namespace PropertyOptions

/-- The option of a property; the default where none is set. -/
def get (o : PropertyOptions) (property : String) : PropertyOption :=
  (o.find? property).getD {}

/-- Whether a property is left alone. -/
def isIgnored (o : PropertyOptions) (property : String) : Bool :=
  (get o property).ignore

/-- The type to produce for a property. -/
def hint? (o : PropertyOptions) (property : String) : Option TypeName :=
  (get o property).targetTypeHint

/-- The options with one property left alone. -/
def ignoring (o : PropertyOptions) (property : String) : PropertyOptions :=
  o.insert property { get o property with ignore := true }

/-- The options with a type to produce for one property. -/
def hinting (o : PropertyOptions) (property : String) (hint : TypeName) : PropertyOptions :=
  o.insert property { get o property with targetTypeHint := some hint }

end PropertyOptions

namespace MappingMethod

/-- Whether the method maps the first type into the second. -/
def maps (m : MappingMethod) (source target : TypeName) : Bool :=
  m.sourceType == source && m.targetType == target

/-- The method with more declared failures. -/
def declaring (m : MappingMethod) (failures : List TypeName) : MappingMethod :=
  { m with declaredFailures := m.declaredFailures ++ failures }

/-- The method as a record. -/
def toJson (m : MappingMethod) : Json :=
  .obj [("name", .str m.name), ("source_type", m.sourceType.toJson),
    ("target_type", m.targetType.toJson),
    ("has_existing_target_parameter", .bool m.updatesTarget),
    ("declared_failures", TypeName.listToJson m.declaredFailures),
    ("strategy", .ofOption CollectionStrategy.toJson m.strategy),
    ("property_options", NameMap.toJson PropertyOption.toJson m.options)]

/-- A method from a record. -/
def ofJson? (v : Json) : Option MappingMethod := do
  let fields ← v.asRecord? ["name", "source_type", "target_type", "has_existing_target_parameter",
    "declared_failures", "strategy", "property_options"] 3
  return {
    name := ← Json.required Json.asText? fields "name"
    sourceType := ← Json.required TypeName.ofJson? fields "source_type"
    targetType := ← Json.required TypeName.ofJson? fields "target_type"
    updatesTarget := ← Json.defaulted Json.asBool? false fields "has_existing_target_parameter"
    declaredFailures :=
      ← Json.defaulted (Json.listOf? TypeName.ofJson?) [] fields "declared_failures"
    strategy := ← Json.optional CollectionStrategy.ofJson? fields "strategy"
    options := ← Json.defaulted (NameMap.ofJson? PropertyOption.ofJson?) .empty fields
      "property_options" }

end MappingMethod

end BeanMapping
