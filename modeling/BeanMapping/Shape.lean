import BeanMapping.Registry

/-!
# Properties and bean shapes

A property is what a bean lets others read or write under one name, with the members that do it. The
shape of a bean is the list of its properties. How a property can be written follows from its
members: through a setter, through an adder of single elements, in place through the getter of a
collection, or not at all.
-/

namespace BeanMapping

/-- A way to write a property. -/
inductive MutationPoint where
  /-- Replaces the whole value. -/
  | setter
  /-- Appends one element to a collection. -/
  | adder
  /-- A collection that only its getter reaches; it is changed in place. -/
  | getterOnly
  /-- Not writable. -/
  | none
deriving DecidableEq, Repr

/-- A member that reads or writes a property. -/
structure Accessor where
  /-- The name of the member, as its owner writes it. -/
  member : String
  /-- The failures that the member declares. -/
  failures : List TypeName
deriving DecidableEq, Repr

/-- The members that read or write one property. -/
structure Accessors where
  getter : Option Accessor := Option.none
  setter : Option Accessor := Option.none
  adder : Option Accessor := Option.none
deriving DecidableEq, Repr

/-- A named property. -/
structure Property where
  name : String
  valueType : TypeName
  /-- The type of the elements, when the property is a collection. -/
  elementType : Option TypeName
  accessors : Accessors
deriving DecidableEq, Repr

/-- The properties of a type, in the order in which its members bring them up. -/
structure BeanShape where
  typeName : TypeName
  properties : List Property
deriving DecidableEq, Repr

/-- The shapes that have been built, each under its type. A shape that is there stays. -/
abbrev ShapeCache := Keyed BeanShape.typeName

/-! ## Writability -/

namespace MutationPoint

/-- Every mutation point. -/
def all : List MutationPoint := [.setter, .adder, .getterOnly, .none]

/-- The name of a mutation point. -/
def name : MutationPoint → String
  | .setter => "SETTER"
  | .adder => "ADDER"
  | .getterOnly => "GETTER_ONLY"
  | .none => "NONE"

/-- The mutation point with the name. -/
def ofName? (name : String) : Option MutationPoint :=
  all.find? (·.name == name)

end MutationPoint

namespace Property

/-- Whether the property holds a collection. -/
def isCollection (p : Property) : Bool := p.elementType.isSome

/-- Whether the property can be read. -/
def isReadable (p : Property) : Bool := p.accessors.getter.isSome

/-- Whether the property has a setter. -/
def hasSetter (p : Property) : Bool := p.accessors.setter.isSome

/-- Whether the property has an adder. -/
def hasAdder (p : Property) : Bool := p.accessors.adder.isSome

/-- Whether something holds of the property at a mutation point: the ways to write a collection in
place and not to write at all exist only where there is neither a setter nor an adder. -/
def offers (p : Property) : MutationPoint → Bool
  | .setter => p.hasSetter
  | .adder => p.hasAdder
  | .getterOnly => !p.hasSetter && !p.hasAdder && p.isCollection && p.isReadable
  | .none => !p.hasSetter && !p.hasAdder && !(p.isCollection && p.isReadable)

/-- The mutation points of the property. -/
def mutationPoints (p : Property) : List MutationPoint :=
  MutationPoint.all.filter p.offers

/-- Whether the property can be written. -/
def isWritable (p : Property) : Bool := !p.offers .none

end Property

namespace BeanShape

/-- The first property with the name. -/
def property? (s : BeanShape) (name : String) : Option Property :=
  s.properties.find? (·.name == name)

/-- The properties that can be read. -/
def readable (s : BeanShape) : List Property :=
  s.properties.filter (·.isReadable)

/-- Whether some property can be written. -/
def isWritable (s : BeanShape) : Bool :=
  s.properties.any (·.isWritable)

end BeanShape

/-! ## Reading and writing -/

namespace Accessor

/-- The accessor as a record. -/
def toJson (a : Accessor) : Json :=
  .obj [("member", .str a.member), ("failures", TypeName.listToJson a.failures)]

/-- An accessor from a record. -/
def ofJson? (v : Json) : Option Accessor := do
  let fields ← v.asRecord? ["member", "failures"] 2
  return {
    member := ← Json.required Json.asText? fields "member"
    failures := ← Json.required (Json.listOf? TypeName.ofJson?) fields "failures" }

end Accessor

namespace Accessors

/-- The accessors as a record. -/
def toJson (a : Accessors) : Json :=
  .obj [("getter", .ofOption Accessor.toJson a.getter),
    ("setter", .ofOption Accessor.toJson a.setter),
    ("adder", .ofOption Accessor.toJson a.adder)]

/-- Accessors from a record. -/
def ofJson? (v : Json) : Option Accessors := do
  let fields ← v.asRecord? ["getter", "setter", "adder"] 3
  return {
    getter := ← Json.optional Accessor.ofJson? fields "getter"
    setter := ← Json.optional Accessor.ofJson? fields "setter"
    adder := ← Json.optional Accessor.ofJson? fields "adder" }

end Accessors

namespace Property

/-- The property as a record. -/
def toJson (p : Property) : Json :=
  .obj [("name", .str p.name), ("value_type", p.valueType.toJson),
    ("element_type", .ofOption TypeName.toJson p.elementType),
    ("accessors", p.accessors.toJson)]

/-- A property from a record. -/
def ofJson? (v : Json) : Option Property := do
  let fields ← v.asRecord? ["name", "value_type", "element_type", "accessors"] 4
  return {
    name := ← Json.required Json.asText? fields "name"
    valueType := ← Json.required TypeName.ofJson? fields "value_type"
    elementType := ← Json.optional TypeName.ofJson? fields "element_type"
    accessors := ← Json.required Accessors.ofJson? fields "accessors" }

end Property

namespace BeanShape

/-- The shape as a record. -/
def toJson (s : BeanShape) : Json :=
  .obj [("type_name", s.typeName.toJson), ("properties", .arr (s.properties.map Property.toJson))]

/-- A shape from a record. -/
def ofJson? (v : Json) : Option BeanShape := do
  let fields ← v.asRecord? ["type_name", "properties"] 2
  return {
    typeName := ← Json.required TypeName.ofJson? fields "type_name"
    properties := ← Json.required (Json.listOf? Property.ofJson?) fields "properties" }

end BeanShape

end BeanMapping
