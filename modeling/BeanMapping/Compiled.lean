import BeanMapping.Contract
import BeanMapping.Execution

/-!
# Compiled mappings

A verified plan that is ready to run: the plans of its tree, each under the name of its method, and
the converters that they call. Of two plans with one name the one that is embedded deeper, or else
earlier, is kept. Linking adds the plans of another mapping whose names are free.

* `find?_linkedWith`: a linked mapping finds its own plans first.
-/

namespace BeanMapping

/-- Plans under the names of their methods. -/
abbrev PlanTable := Keyed MappingPlan.method

/-- A mapping that is ready to run. -/
structure CompiledMapping where
  /-- The method that a run begins with. -/
  method : String
  plans : PlanTable
  converters : ConverterTable

namespace PlanTable

/-- The plans of a plan tree. -/
def ofPlan (p : MappingPlan) : PlanTable :=
  Keyed.ofFirsts p.postorder

end PlanTable

namespace PlannedProperty

/-- The path of the converter that a property calls. -/
def converterPath? {ρ : Type} (p : PlannedProperty ρ) : Option String :=
  match p.conversion with
  | some (.converter path _ _) => some path
  | _ => none

end PlannedProperty

namespace CompiledMapping

/-- Whether a property calls a converter that is not there. -/
def lacksConverter (converters : ConverterTable) (p : PlannedProperty MappingPlan) : Bool :=
  p.converterPath?.any fun path => (converters.find? path).isNone

/-- The report of a property whose converter is not there. -/
def missingConverter (p : PlannedProperty MappingPlan) : Report :=
  (Report.of (.emissionFailed "converter call"
    ("`" ++ p.converterPath?.getD "" ++ "` is not registered with the interpreter"))).attach
    ("Property: " ++ p.target.name)

/-- Compiles a verified plan for a method. Each converter that is called must be there. -/
def compile {σ : Type} (converters : ConverterTable) (m : MappingMethod) (v : VerifiedPlan) :
    Generation σ CompiledMapping := do
  let plans := PlanTable.ofPlan v.plan
  match (plans.items.flatMap (·.properties)).find? (lacksConverter converters) with
  | some p => Narrated.reject (missingConverter p)
  | none =>
    Narrated.tell [⟨.debug, "Compiled mapping",
      [("method", .text m.name), ("plans", .count plans.size)]⟩]
    return ⟨m.name, plans, converters⟩

/-- The mapping with the methods of another, as far as their names are free. -/
def linkedWith (a b : CompiledMapping) : CompiledMapping :=
  { a with plans := a.plans.supplement b.plans.items }

theorem find?_linkedWith (a b : CompiledMapping) (method : String) :
    (a.linkedWith b).plans.find? method = (a.plans.find? method).or (b.plans.find? method) :=
  Keyed.find?_supplement a.plans b.plans.items method

end CompiledMapping

end BeanMapping
