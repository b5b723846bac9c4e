import BeanMapping.Fault
import BeanMapping.Json.Record
import BeanMapping.Keyed

/-!
# The registry of types

What is known about types: for each described type its kind, its direct supertypes and its members.
A registry holds each type once, in the order of registration; a description that comes again takes
the place of the one before it.

* `Registry.name_of_describe`: a description is found under its own name.
-/

namespace BeanMapping

/-- What kind of type a description is about. -/
inductive TypeKind where
  /-- A type with members that read and write its data. -/
  | bean
  /-- An enumeration of variants without data, in the order of declaration. -/
  | enum (variants : List String)
  /-- A plain value. -/
  | value
  /-- A failure that may be raised. An unchecked one need not be declared. -/
  | failure (unchecked : Bool)
deriving DecidableEq, Repr

/-- A member of a type, as its owner names it. -/
structure MemberDescriptor where
  name : String
  parameter : Option TypeName := none
  returns : Option TypeName := none
  failures : List TypeName := []
deriving DecidableEq, Repr

/-- All that is known about one type. -/
structure TypeDescriptor where
  name : TypeName
  kind : TypeKind
  supertypes : List TypeName := []
  members : List MemberDescriptor := []
deriving DecidableEq, Repr

/-- The described types in the order of registration, each once. -/
abbrev Registry := Keyed TypeDescriptor.name

/-! ## Reading and writing -/

namespace TypeName

/-- The name as a text. -/
def toJson (t : TypeName) : Json := .str t.text

/-- A name as it is written, blanks included. -/
def ofJson? (v : Json) : Option TypeName :=
  v.asText?.map TypeName.mk

end TypeName

/-- A list of type names. -/
def TypeName.listToJson (ts : List TypeName) : Json :=
  .arr (ts.map TypeName.toJson)

namespace MemberDescriptor

/-- A member that reads a value. -/
def getter (name : String) (returns : TypeName) : MemberDescriptor :=
  { name, returns := some returns }

/-- A member that takes a value. -/
def writer (name : String) (parameter : TypeName) : MemberDescriptor :=
  { name, parameter := some parameter }

/-- The member as a record. -/
def toJson (m : MemberDescriptor) : Json :=
  .obj [("name", .str m.name), ("parameter", .ofOption TypeName.toJson m.parameter),
    ("returns", .ofOption TypeName.toJson m.returns),
    ("failures", TypeName.listToJson m.failures)]

/-- A member from a record. -/
def ofJson? (v : Json) : Option MemberDescriptor := do
  let fields ← v.asRecord? ["name", "parameter", "returns", "failures"] 1
  return {
    name := ← Json.required Json.asText? fields "name"
    parameter := ← Json.optional TypeName.ofJson? fields "parameter"
    returns := ← Json.optional TypeName.ofJson? fields "returns"
    failures := ← Json.defaulted (Json.listOf? TypeName.ofJson?) [] fields "failures" }

end MemberDescriptor

namespace TypeKind

/-- The name of the kind. -/
def name : TypeKind → String
  | .bean => "bean"
  | .enum _ => "enum"
  | .value => "value"
  | .failure _ => "failure"

/-- The fields that the kind adds to a record. -/
def extraFields : TypeKind → List (String × Json)
  | .bean | .value => []
  | .enum variants => [("variants", .strs variants)]
  | .failure unchecked => [("unchecked", .bool unchecked)]

/-- The kind of a record. Fields that belong to another kind are passed over. -/
def ofFields? (fields : List (String × Json)) : Option TypeKind := do
  match ← Json.required Json.asText? fields "kind" with
  | "bean" => return .bean
  | "enum" => return .enum (← Json.required (Json.listOf? Json.asText?) fields "variants")
  | "value" => return .value
  | "failure" => return .failure (← Json.defaulted Json.asBool? false fields "unchecked")
  | _ => none

end TypeKind

namespace TypeDescriptor

/-- Whether the type is a bean. -/
def isBean (d : TypeDescriptor) : Bool :=
  d.kind == .bean

/-- The description as a record. -/
def toJson (d : TypeDescriptor) : Json :=
  .obj ([("name", d.name.toJson), ("kind", .str d.kind.name)] ++ d.kind.extraFields ++
    [("supertypes", TypeName.listToJson d.supertypes),
      ("members", .arr (d.members.map MemberDescriptor.toJson))])

/-- A description from an object. What it passes over has to be readable all the same. -/
def ofJson? (v : Json) : Option TypeDescriptor := do
  let fields ← v.asFields?
  guard (fields.all fun f => ["name", "supertypes", "members"].contains f.1 || f.2.isFit)
  return {
    name := ← Json.required TypeName.ofJson? fields "name"
    kind := ← TypeKind.ofFields? fields
    supertypes := ← Json.defaulted (Json.listOf? TypeName.ofJson?) [] fields "supertypes"
    members := ← Json.defaulted (Json.listOf? MemberDescriptor.ofJson?) [] fields "members" }

end TypeDescriptor

/-! ## Registration -/

namespace Registry

/-- The registry of a list of descriptions. -/
def ofList (types : List TypeDescriptor) : Registry :=
  Keyed.ofLasts types

/-- The description of a type, if it has one. -/
def describe (r : Registry) (t : TypeName) : Option TypeDescriptor :=
  r.find? t

/-- The description of a type that must have one. -/
def require (r : Registry) (t : TypeName) : Except Fault TypeDescriptor :=
  match r.describe t with
  | some d => .ok d
  | none => .error (.unknownType t)

/-- Whether a type is described as a bean. -/
def isBean (r : Registry) (t : TypeName) : Bool :=
  (r.describe t).any (·.isBean)

/-- The descriptions in the order of registration. -/
def toJson (r : Registry) : Json :=
  .arr (r.items.map TypeDescriptor.toJson)

/-- A registry from a list of descriptions. -/
def ofJson? (v : Json) : Option Registry :=
  (Json.listOf? TypeDescriptor.ofJson? v).map ofList

theorem name_of_describe {r : Registry} {t : TypeName} {d : TypeDescriptor}
    (h : r.describe t = some d) : d.name = t :=
  Keyed.key_of_find? h

end Registry

end BeanMapping
