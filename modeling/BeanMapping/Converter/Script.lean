import BeanMapping.Config
import BeanMapping.Converter
import BeanMapping.Registry

/-!
# Converters as data

A script says what a converter does: the first of its cases whose input is the value at hand decides,
or else what the script does with every other value.
-/

namespace BeanMapping

/-- What a script does with a value. -/
inductive ScriptOutcome where
  /-- Gives the value back. -/
  | identity
  /-- Gives the value together with the type that was asked for. -/
  | typed
  /-- Gives this value. -/
  | give (value : Json)
  /-- Raises this failure. -/
  | raise (failure : RaisedFailure)

/-- A converter as data: inputs with what is done with them, and what is done with all others. A case
without an input never applies. -/
structure ConverterScript where
  cases : List (Option Json × ScriptOutcome)
  otherwise : ScriptOutcome

namespace ScriptOutcome

/-- Carries an outcome out. -/
def apply (value : Json) (target : Option TypeName) : ScriptOutcome → Except RaisedFailure Json
  | .identity => .ok value
  | .typed => .ok (.obj [("type", .ofOption TypeName.toJson target), ("value", value)])
  | .give value => .ok value
  | .raise failure => .error failure

/-- The outcome that a record has fields of: a failure to raise, or a value to give. -/
def ofFields? (fields : List (String × Json)) : Option ScriptOutcome :=
  match Json.find? fields "raise" with
  | some (.arr [.str failureType, .str message]) =>
    some (.raise ⟨.ofText failureType, message⟩)
  | some _ => none
  | none => some (.give ((Json.find? fields "out").getD .null))

/-- An outcome from a value: a name, or a record. -/
def ofJson? : Json → Option ScriptOutcome
  | .str "identity" => some .identity
  | .str "typed" => some .typed
  | .obj fields => ofFields? fields
  | _ => none

end ScriptOutcome

namespace ConverterScript

/-- The converter that follows the script. -/
def toConverter (s : ConverterScript) : Converter := fun value target =>
  match s.cases.find? fun c => c.1.any (·.same value) with
  | some (_, outcome) => outcome.apply value target
  | none => s.otherwise.apply value target

/-- A case from a record of its input and its outcome. -/
def caseOfJson? (v : Json) : Option (Option Json × ScriptOutcome) := do
  let fields ← v.asFields?
  return (Json.find? fields "in", ← ScriptOutcome.ofFields? fields)

/-- A script from a record. -/
def ofJson? (v : Json) : Option ConverterScript := do
  let fields ← v.asFields?
  return {
    cases := ← Json.defaulted (Json.listOf? caseOfJson?) [] fields "cases"
    otherwise := ← Json.defaulted ScriptOutcome.ofJson? .identity fields "else" }

/-- The converters of a record of scripts. -/
def tableOfJson? (v : Json) : Option ConverterTable :=
  NameMap.ofJson? (fun v => (ofJson? v).map toConverter) v

end ConverterScript

end BeanMapping
