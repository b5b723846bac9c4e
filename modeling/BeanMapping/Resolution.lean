import BeanMapping.Narrated
import BeanMapping.Plan

/-!
# Resolution of conversions

How a value of one type becomes a value of another, by the first of these that applies: the rule for
exactly the two types; the first generic rule that gives the target; a built-in conversion; a mapping
of one bean to another, which is asked for. When nothing applies the types cannot be mapped.

A hint takes the place of the declared target type, of which it has to be a subtype.

* `Route` is the decision, up to the question for a nested mapping; `resolve` carries it out.
-/

namespace BeanMapping

/-- What converts a value, as far as rules and built-in conversions decide it. -/
inductive Route where
  /-- A rule for exactly the two types. -/
  | rule (rule : ConversionRule)
  /-- A generic rule. -/
  | generic (rule : ConversionRule)
  /-- A built-in conversion. -/
  | builtin (conversion : Builtin)
  /-- Only a nested mapping can. -/
  | ask
deriving DecidableEq, Repr

namespace Resolution

/-- What converts a value of one type into another. -/
def route (types : Registry) (book : RuleBook) (source target : TypeName) : Route :=
  match book.ruleFor? source target with
  | some rule => .rule rule
  | none =>
    match book.generic? types source target with
    | some rule => .generic rule
    | none =>
      match Builtin.find? types source target with
      | some b => .builtin b
      | none => .ask

/-- The type to convert to: the hint, if it is given and fits, or else the declared type. -/
def targetType (types : Registry) (property : String) (declared : TypeName)
    (hint : Option TypeName) : Except Fault TypeName :=
  match hint with
  | none => .ok declared
  | some hint =>
    if types.isAssignable hint declared then .ok hint
    else .error (.hintNotAssignable property hint declared)

/-- The call of a rule's converter, which is told the target type if it is generic. -/
def ruleConversion {ρ : Type} (rule : ConversionRule) (target : TypeName) : Conversion ρ :=
  .converter rule.converter (if rule.acceptsTargetType then some target else none)
    rule.declaredFailures

/-- An event about a property. -/
def event (property message : String) (fields : List (String × String)) : Event :=
  ⟨.debug, message, ("property", .text property) :: fields.map fun f => (f.1, .text f.2)⟩

/-- The event of a decision. -/
def routeEvents (property : String) (target : TypeName) : Route → List Event
  | .rule r => [event property "Resolved user converter" [("converter", r.converter)]]
  | .generic r =>
    [event property "Resolved generic user converter"
      [("converter", r.converter), ("target_type", target.text)]]
  | .builtin b => [event property "Resolved builtin conversion" [("builtin", b.name)]]
  | .ask => []

variable {σ ρ : Type}

/-- The conversion of a decision; none where the value can be used as it is. `nested` answers the
question for a nested mapping. -/
def follow (nested : TypeName → TypeName → Generation σ (Option (NestedMapping ρ)))
    (property : String) (source target : TypeName) :
    Route → Generation σ (Option (Conversion ρ))
  | .rule r | .generic r => pure (some (ruleConversion r target))
  | .builtin .identity => pure none
  | .builtin b => pure (some (.builtin b))
  | .ask => do
    match ← nested source target with
    | some m =>
      Narrated.tell [event property "Resolved nested mapping" [("method", m.method)]]
      return some (.nested m)
    | none => Narrated.reject (.of (.unmappableType property source target))

/-- The conversion for a property, or none where the value can be used as it is. -/
def resolve (types : Registry) (book : RuleBook)
    (nested : TypeName → TypeName → Generation σ (Option (NestedMapping ρ)))
    (property : String) (source declared : TypeName) (hint : Option TypeName) :
    Generation σ (Option (Conversion ρ)) := do
  let target ← Narrated.ofExcept (targetType types property declared hint)
  let route := route types book source target
  Narrated.tell (routeEvents property target route)
  follow nested property source target route

end Resolution

end BeanMapping
