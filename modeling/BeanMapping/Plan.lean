import BeanMapping.Action
import BeanMapping.Conversion.Builtin
import BeanMapping.Conversion.Rule

/-!
# Mapping plans

The plan of a method: for each target property that is written, where its value comes from, how it is
converted, and how it is written. A conversion by another mapping method may carry the plan of that
method, so plans form a tree.

A conversion and a planned property are stated over any type `ρ` of embedded plans.

* `sizeOf_lt_of_mem_nested`: an embedded plan is smaller than the plan that holds it.
* `nodes_eq`: the plans of a tree are its root and then the plans of each embedded tree in turn.
-/

namespace BeanMapping

/-- A mapping method that converts a value. -/
structure NestedMapping (ρ : Type) where
  method : String
  sourceType : TypeName
  targetType : TypeName
  declaredFailures : List TypeName
  /-- The plan of the method, where this is the first use of a derived method. -/
  plan : Option ρ
deriving DecidableEq, Repr

/-- How a value, or an element, of the source becomes one of the target. -/
inductive Conversion (ρ : Type) where
  | builtin (conversion : Builtin)
  /-- A call of a converter, which is told the target type if it is generic. -/
  | converter (path : String) (targetType : Option TypeName) (declaredFailures : List TypeName)
  | nested (mapping : NestedMapping ρ)
deriving DecidableEq, Repr

/-- How one target property is written. -/
structure PlannedProperty (ρ : Type) where
  source : Property
  target : Property
  action : PropertyAction
  /-- Applied to the value, or to each element where the action works element by element. -/
  conversion : Option (Conversion ρ)
deriving DecidableEq, Repr

/-- The plan of a mapping method. -/
structure MappingPlan where
  method : String
  sourceType : TypeName
  targetType : TypeName
  updatesTarget : Bool
  declaredFailures : List TypeName
  /-- In the order of the source. -/
  properties : List (PlannedProperty MappingPlan)
deriving Repr

/-- Something that a plan calls, with the failures that it declares. -/
structure Invocation where
  invoked : String
  failures : List TypeName
deriving DecidableEq, Repr

namespace Conversion

variable {ρ : Type}

/-- The failures that the conversion may raise. -/
def declaredFailures : Conversion ρ → List TypeName
  | .builtin _ => []
  | .converter _ _ failures => failures
  | .nested m => m.declaredFailures

/-- The name of what is called. -/
def invokedName : Conversion ρ → String
  | .builtin b => b.name
  | .converter path _ _ => path
  | .nested m => m.method

/-- The embedded plan. -/
def plan? : Conversion ρ → Option ρ
  | .nested m => m.plan
  | _ => none

end Conversion

namespace PlannedProperty

variable {ρ : Type}

/-- The target member that the action calls. -/
def mutator? (p : PlannedProperty ρ) : Option Accessor :=
  match p.action with
  | .assign | .convertAssign | .replaceSet => p.target.accessors.setter
  | .mergeAdd .adder => p.target.accessors.adder
  | .mergeAdd .getter => p.target.accessors.getter

/-- The type of what is converted: of the elements where the action works element by element. -/
def valueTypeOf (p : PlannedProperty ρ) (property : Property) : TypeName :=
  match property.elementType, p.action.isElementWise with
  | some element, true => element
  | _, _ => property.valueType

/-- The type that the conversion takes. -/
def sourceValueType (p : PlannedProperty ρ) : TypeName := p.valueTypeOf p.source

/-- The type that the conversion gives. -/
def targetValueType (p : PlannedProperty ρ) : TypeName := p.valueTypeOf p.target

/-- The call of a member. -/
def memberCall (a : Accessor) : Invocation := ⟨a.member, a.failures⟩

/-- The call of a conversion. -/
def conversionCall (c : Conversion ρ) : Invocation := ⟨c.invokedName, c.declaredFailures⟩

/-- All that is called for the property, in order: what reads the source, what converts, what writes
the target. -/
def invocations (p : PlannedProperty ρ) : List Invocation :=
  (p.source.accessors.getter.map memberCall).toList ++ (p.conversion.map conversionCall).toList ++
    (p.mutator?.map memberCall).toList

/-- The plan that the conversion embeds. -/
def plan? (p : PlannedProperty ρ) : Option ρ := p.conversion.bind Conversion.plan?

theorem sizeOf_lt_of_plan? [SizeOf ρ] {p : PlannedProperty ρ} {q : ρ} (h : p.plan? = some q) :
    sizeOf q < sizeOf p := by
  rcases p with ⟨source, target, action, _ | c⟩
  · cases h
  · cases c with
    | builtin | converter => cases h
    | nested m =>
      rcases m with ⟨method, s, t, failures, plan⟩
      cases (show plan = some q from h)
      simp only [mk.sizeOf_spec, Option.some.sizeOf_spec, Conversion.nested.sizeOf_spec,
        NestedMapping.mk.sizeOf_spec]
      omega

end PlannedProperty

namespace MappingPlan

/-- The plans that the plan embeds, in the order of their first use. -/
def nested (p : MappingPlan) : List MappingPlan :=
  p.properties.filterMap PlannedProperty.plan?

/-- The first planned property with the target name. -/
def property? (p : MappingPlan) (target : String) : Option (PlannedProperty MappingPlan) :=
  p.properties.find? (·.target.name == target)

theorem sizeOf_lt_of_mem_properties {p : MappingPlan} {q : PlannedProperty MappingPlan}
    (h : q ∈ p.properties) : sizeOf q < sizeOf p := by
  rcases p with ⟨method, s, t, updates, failures, properties⟩
  have : sizeOf q < sizeOf properties := List.sizeOf_lt_of_mem h
  simp only [mk.sizeOf_spec]
  omega

theorem sizeOf_lt_of_mem_nested {p q : MappingPlan} (h : q ∈ p.nested) : sizeOf q < sizeOf p := by
  obtain ⟨property, mem, eq⟩ := List.mem_filterMap.1 h
  exact Nat.lt_trans (PlannedProperty.sizeOf_lt_of_plan? eq) (sizeOf_lt_of_mem_properties mem)

/-- The plans of the tree: the root, then the plans of each embedded tree in turn. -/
def nodes (p : MappingPlan) : List MappingPlan :=
  p :: p.nested.attach.flatMap fun q => q.1.nodes
termination_by sizeOf p
decreasing_by exact sizeOf_lt_of_mem_nested q.2

/-- The plans of the tree, each after those that it embeds. -/
def postorder (p : MappingPlan) : List MappingPlan :=
  (p.nested.attach.flatMap fun q => q.1.postorder) ++ [p]
termination_by sizeOf p
decreasing_by exact sizeOf_lt_of_mem_nested q.2

theorem nodes_eq (p : MappingPlan) : p.nodes = p :: p.nested.flatMap nodes := by
  rw [nodes]
  simp

theorem postorder_eq (p : MappingPlan) : p.postorder = p.nested.flatMap postorder ++ [p] := by
  rw [postorder]
  simp

/-- What holds of a plan when it holds of the plans that it embeds, holds of every plan. -/
theorem inductionOn {motive : MappingPlan → Prop} (p : MappingPlan)
    (step : ∀ p, (∀ q ∈ p.nested, motive q) → motive p) : motive p :=
  step p fun q _ => inductionOn q step
termination_by sizeOf p
decreasing_by exact sizeOf_lt_of_mem_nested ‹_›

end MappingPlan

end BeanMapping
