import BeanMapping.Resolution
import BeanMapping.Shape.Introspection

/-!
# Planning

How the plan of a mapping method comes about. Source and target are introspected and correlated; each
pair that can be written gets a conversion and an action. Where only a mapping of one bean to another
can convert, the first of these is taken: a declared method for the two types, a method that is being
planned, a method that was derived before, a method that is derived now.

A derived method has the failures and the strategy of the root, and its plan is embedded where it is
first used. Methods may be nested in one another only so deep.

* `planWith` is one step, over a supplier of derived plans; `derive` closes it by recursion on how
  much deeper methods may be nested.
-/

namespace BeanMapping

/-- A method that is being planned, and its types. -/
structure Frame where
  source : TypeName
  target : TypeName
  method : String
deriving DecidableEq, Repr

/-- What is fixed while a root method is planned. -/
structure Planner where
  types : Registry
  config : GeneratorConfig
  book : RuleBook
  /-- The methods that are declared elsewhere. -/
  declared : List MappingMethod
  /-- The failures that derived methods declare. -/
  contract : List TypeName
  /-- The strategy of derived methods. -/
  strategy : CollectionStrategy

/-- What changes while a root method is planned. -/
structure PlanState where
  shapes : ShapeCache
  /-- The methods derived so far, without their plans. -/
  derived : List (NestedMapping MappingPlan)

/-- A step of planning. -/
abbrev Plans := Generation PlanState

namespace Planner

/-- The planner of a root method. -/
def ofRoot (types : Registry) (config : GeneratorConfig) (book : RuleBook)
    (declared : List MappingMethod) (root : MappingMethod) : Planner where
  types := types
  config := config
  book := book
  declared := declared
  contract := root.declaredFailures
  strategy := root.strategy.getD config.collectionStrategy

/-- What is known about singular forms. -/
def inflector (p : Planner) : Inflector := ⟨p.config.singularOverrides⟩

/-- The name of the method that is derived for two types. -/
def derivedName (source target : TypeName) : String :=
  "map_" ++ Text.snakeCase source.shortName ++ "_to_" ++ Text.snakeCase target.shortName

/-- A reference to a method without its plan. -/
def reference (method : String) (source target : TypeName) (failures : List TypeName) :
    NestedMapping MappingPlan :=
  ⟨method, source, target, failures, none⟩

/-- The method that is derived for two types. -/
def derivedMethod (p : Planner) (source target : TypeName) : MappingMethod where
  name := derivedName source target
  sourceType := source
  targetType := target
  declaredFailures := p.contract
  strategy := some p.strategy

/-- The declared method that maps a type into a new value of another. -/
def declaredMapping? (p : Planner) (source target : TypeName) : Option (NestedMapping MappingPlan) :=
  (p.declared.find? fun m => m.maps source target && !m.updatesTarget).map fun m =>
    reference m.name source target m.declaredFailures

/-! ## Steps -/

/-- Introspects a type, and keeps its shape. -/
def introspect (p : Planner) (t : TypeName) : Plans BeanShape := do
  let s ← Narrated.get
  Narrated.tell (Introspection.events p.types p.inflector s.shapes t)
  Narrated.modify fun s => { s with shapes := Introspection.cacheAfter p.types p.inflector s.shapes t }
  Narrated.ofExcept (Introspection.introspect p.types p.inflector s.shapes t)

/-- Introspects a type that is written to. -/
def introspectTarget (p : Planner) (t : TypeName) : Plans BeanShape := do
  let shape ← p.introspect t
  Narrated.ofExcept (Introspection.writable? t shape)

/-- Correlates two shapes. -/
def correlate (p : Planner) (source target : BeanShape) (o : PropertyOptions) :
    Plans (List CorrelatedProperty) := do
  Narrated.tell (Correlation.events p.inflector p.config.namePrecedence source target o)
  Narrated.ofExcept (Correlation.correlate p.inflector p.config.namePrecedence source target o)

/-- The types to convert between: those of the elements where both properties are collections. -/
def conversionTypes (pair : CorrelatedProperty) : TypeName × TypeName :=
  match pair.source.elementType, pair.target.elementType with
  | some source, some target => (source, target)
  | _, _ => (pair.source.valueType, pair.target.valueType)

/-- Plans a pair, unless its target cannot be written. -/
def planPair (p : Planner)
    (nested : TypeName → TypeName → Plans (Option (NestedMapping MappingPlan)))
    (m : MappingMethod) (pair : CorrelatedProperty) :
    Plans (Option (PlannedProperty MappingPlan)) := do
  let strategy := m.strategy.getD p.config.collectionStrategy
  Narrated.tell (pair.actionEvents strategy m.updatesTarget)
  match pair.action? strategy false with
  | none => return none
  | some _ =>
    let (source, target) := conversionTypes pair
    let conversion ← Narrated.within ("Property: " ++ pair.target.name)
      (Resolution.resolve p.types p.book nested pair.target.name source target
        (m.options.hint? pair.target.name))
    Narrated.tell (pair.actionEvents strategy m.updatesTarget)
    return (pair.action? strategy conversion.isSome).map fun action =>
      ⟨pair.source, pair.target, action, conversion⟩

/-- Plans the pairs in turn. -/
def planPairs (p : Planner)
    (nested : TypeName → TypeName → Plans (Option (NestedMapping MappingPlan)))
    (m : MappingMethod) : List CorrelatedProperty → Plans (List (PlannedProperty MappingPlan))
  | [] => return []
  | pair :: rest => do
    let first ← p.planPair nested m pair
    let others ← p.planPairs nested m rest
    return first.toList ++ others

/-- The plan of a method with the given properties. -/
def planOf (m : MappingMethod) (properties : List (PlannedProperty MappingPlan)) : MappingPlan :=
  ⟨m.name, m.sourceType, m.targetType, m.updatesTarget, m.declaredFailures, properties⟩

/-- A supplier of derived plans: for the methods in progress and a method to derive, its plan, or
none where methods may not be nested deeper. -/
abbrev Supplier := List Frame → MappingMethod → Plans (Option MappingPlan)

/-- The mapping of a bean to another that converts a value, if there is one. -/
def nestedMapping (p : Planner) (supply : Supplier) (inProgress : List Frame)
    (source target : TypeName) : Plans (Option (NestedMapping MappingPlan)) := do
  match p.declaredMapping? source target with
  | some m => return some m
  | none =>
    if !p.types.isBean source || !p.types.isBean target then return none
    else
      match inProgress.find? fun f => f.source == source && f.target == target with
      | some f =>
        Narrated.tell [⟨.debug, "Referencing method still being planned",
          [("method", .text f.method)]⟩]
        return some (reference f.method source target p.contract)
      | none =>
        let s ← Narrated.get
        match s.derived.find? fun d => d.sourceType == source && d.targetType == target with
        | some d =>
          Narrated.tell [⟨.debug, "Referencing nested method already planned",
            [("method", .text d.method)]⟩]
          return some d
        | none =>
          let m := p.derivedMethod source target
          match ← supply inProgress m with
          | none => return none
          | some plan =>
            let reference := reference m.name source target p.contract
            Narrated.modify fun s => { s with derived := s.derived ++ [reference] }
            return some { reference with plan := some plan }

/-- Plans a method, of which the derived plans come from a supplier. -/
def planWith (p : Planner) (supply : Supplier) (inProgress : List Frame) (m : MappingMethod) :
    Plans MappingPlan := do
  let source ← p.introspect m.sourceType
  let target ← p.introspectTarget m.targetType
  let pairs ← p.correlate source target m.options
  let inProgress := inProgress ++ [⟨m.sourceType, m.targetType, m.name⟩]
  let properties ← p.planPairs (p.nestedMapping supply inProgress) m pairs
  Narrated.tell [⟨.debug, "Planned mapping method", [("method", .text m.name),
    ("properties", .count properties.length)]⟩]
  return planOf m properties

/-- The event of a method that may not be nested deeper. -/
def limitEvent (p : Planner) (m : MappingMethod) : Event :=
  ⟨.warn, "Nesting limit reached; nested method not derived",
    [("from", .text m.sourceType.text), ("to", .text m.targetType.text),
      ("max_nesting_depth", .count p.config.maxNestingDepth)]⟩

/-- Supplies derived plans as long as methods may be nested so much deeper. -/
def derive (p : Planner) : Nat → Supplier
  | 0, _, m => do
    Narrated.tell [p.limitEvent m]
    return none
  | deeper + 1, inProgress, m =>
    Narrated.within ("Derived nested method: " ++ m.name)
      (some <$> p.planWith (p.derive deeper) inProgress m)

/-- Plans the root method. -/
def planRoot (p : Planner) (root : MappingMethod) : Plans MappingPlan :=
  p.planWith (p.derive (p.config.maxNestingDepth - 1)) [] root

end Planner

end BeanMapping
