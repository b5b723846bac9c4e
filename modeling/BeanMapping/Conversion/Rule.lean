import BeanMapping.Event
import BeanMapping.Registry.Ancestry

/-!
# Conversion rules

The converters that a user declares. A rule book holds at most one rule for a pair of types, in the
order of registration: the first one registered stays. A rule may be generic, and then also gives
every subtype of its target.

* `ruleFor?_register`: registering a rule changes what is found for its own pair only, and only when
  nothing was found before.
-/

namespace BeanMapping

/-- A converter from one type to another. -/
structure ConversionRule where
  source : TypeName
  target : TypeName
  /-- The path of the function that is called. -/
  converter : String
  declaredFailures : List TypeName := []
  /-- Whether the converter gives every subtype of its target and is told which one. -/
  acceptsTargetType : Bool := false
deriving DecidableEq, Repr

namespace ConversionRule

/-- The types that the rule is for. -/
def types (r : ConversionRule) : TypeName × TypeName := (r.source, r.target)

/-- The rule as a record. -/
def toJson (r : ConversionRule) : Json :=
  .obj [("from", r.source.toJson), ("to", r.target.toJson), ("converter", .str r.converter),
    ("declared_failures", TypeName.listToJson r.declaredFailures),
    ("accepts_target_type", .bool r.acceptsTargetType)]

/-- A rule from a record. -/
def ofJson? (v : Json) : Option ConversionRule := do
  let fields ← v.asRecord? ["from", "to", "converter", "declared_failures", "accepts_target_type"] 3
  return {
    source := ← Json.required TypeName.ofJson? fields "from"
    target := ← Json.required TypeName.ofJson? fields "to"
    converter := ← Json.required Json.asText? fields "converter"
    declaredFailures :=
      ← Json.defaulted (Json.listOf? TypeName.ofJson?) [] fields "declared_failures"
    acceptsTargetType := ← Json.defaulted Json.asBool? false fields "accepts_target_type" }

end ConversionRule

/-- The rules that are in force, each pair of types once. -/
abbrev RuleBook := Keyed ConversionRule.types

namespace RuleBook

/-- The rule for exactly these types. -/
def ruleFor? (b : RuleBook) (source target : TypeName) : Option ConversionRule :=
  b.find? (source, target)

/-- The first generic rule that gives the target type. -/
def generic? (b : RuleBook) (types : Registry) (source target : TypeName) :
    Option ConversionRule :=
  b.items.find? fun r =>
    r.acceptsTargetType && r.source == source && types.isAssignable target r.target

/-- The book with a rule added, unless it has one for the same types. -/
def register (b : RuleBook) (r : ConversionRule) : RuleBook :=
  b.insertIfAbsent r

/-- The book with a list of rules added in turn. -/
def registerAll (b : RuleBook) (rules : List ConversionRule) : RuleBook :=
  b.supplement rules

/-- The event of a rule for types that have one. -/
def duplicateEvents (b : RuleBook) (r : ConversionRule) : List Event :=
  match b.ruleFor? r.source r.target with
  | none => []
  | some kept =>
    [⟨.warn, "Duplicate conversion rule ignored", [("from", .text r.source.text),
      ("to", .text r.target.text), ("kept", .text kept.converter),
      ("ignored", .text r.converter)]⟩]

/-- The events of adding a list of rules in turn. -/
def registerEvents (b : RuleBook) : List ConversionRule → List Event
  | [] => []
  | r :: rest => b.duplicateEvents r ++ (b.register r).registerEvents rest

/-- A list of rules from a value. -/
def listOfJson? (v : Json) : Option (List ConversionRule) :=
  Json.listOf? ConversionRule.ofJson? v

/-- Registering a rule changes what is found for its own pair only, and only when nothing was found
before. -/
theorem ruleFor?_register (b : RuleBook) (r : ConversionRule) (source target : TypeName) :
    (b.register r).ruleFor? source target =
      (b.ruleFor? source target).or (if r.types = (source, target) then some r else none) := by
  rw [ruleFor?, ruleFor?, register]
  exact Keyed.find?_insertIfAbsent b r (source, target)

end RuleBook

end BeanMapping
