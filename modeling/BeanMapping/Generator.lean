import BeanMapping.Contract
import BeanMapping.Planning

/-!
# Generators

A generator has what lives longer than one mapping method: the known types, a valid configuration and
the rules. It plans a method, verifies the plan and hands it to an emitter. The shapes it has found
and whatever the emitter remembers are the state of the work.

In a batch each method is generated on its own, with all methods of the batch declared; one that is
rejected does not stop the others.
-/

namespace BeanMapping

/-- What is fixed while methods are generated. -/
structure Generator where
  types : Registry
  config : GeneratorConfig
  book : RuleBook
  valid : config.fault? = none

/-- Turns a verified plan for a method into output. `ε` is what the emitter remembers. -/
abbrev Emitter (ε α : Type) := MappingMethod → VerifiedPlan → Generation ε α

/-- What changes while methods are generated: the shapes found, and what the emitter remembers. -/
structure Workshop (ε : Type) where
  shapes : ShapeCache
  emitter : ε

/-- The outcome of each method of a batch, in the order of the methods. -/
abbrev Batch (α : Type) := List (MappingMethod × Except Report α)

namespace Batch

variable {α : Type}

/-- The output of the methods that were generated. -/
def generated (b : Batch α) : List α :=
  b.filterMap fun o => o.2.toOption

/-- The names of the methods that were rejected, with the reports. -/
def failures (b : Batch α) : List (String × Report) :=
  b.filterMap fun o =>
    match o.2 with
    | .ok _ => none
    | .error r => some (o.1.name, r)

/-- Whether every method was generated. -/
def isSuccess (b : Batch α) : Bool := (failures b).isEmpty

/-- The names of the methods that were rejected. -/
def failedMethods (b : Batch α) : List String := (failures b).map (·.1)

end Batch

namespace Generator

variable {ε α : Type}

/-- The generator of a configuration that has no fault. -/
def create (types : Registry) (config : GeneratorConfig) (book : RuleBook) :
    Except Fault Generator :=
  match h : config.fault? with
  | some fault => .error fault
  | none => .ok ⟨types, config, book, h⟩

/-- Plans a method and verifies the plan. -/
def plan (g : Generator) (declared : List MappingMethod) (m : MappingMethod) :
    Generation ShapeCache VerifiedPlan := do
  let planner := Planner.ofRoot g.types g.config g.book declared m
  let p ← Narrated.within ("Mapping method: " ++ m.name)
    (Narrated.focus (fun shapes => ⟨shapes, []⟩) (fun s _ => s.shapes) (planner.planRoot m))
  Contract.verify g.types m.name p

/-- Plans, verifies and emits a method. -/
def generate (g : Generator) (emit : Emitter ε α) (declared : List MappingMethod)
    (m : MappingMethod) : Generation (Workshop ε) α := do
  let verified ← Narrated.focus Workshop.shapes (fun shapes w => { w with shapes })
    (g.plan declared m)
  Narrated.focus Workshop.emitter (fun emitter w => { w with emitter }) (emit m verified)

/-- The event of a method that was rejected. -/
def rejectionEvents (m : MappingMethod) : Except Report α → List Event
  | .ok _ => []
  | .error r =>
    [⟨.error, "Mapping method rejected: " ++ r.fault.message,
      [("method", .text m.name), ("category", .text r.fault.category)]⟩]

/-- Generates methods one after the other, with the same methods declared for each. -/
def generateEach (g : Generator) (emit : Emitter ε α) (declared : List MappingMethod) :
    List MappingMethod → Generation (Workshop ε) (Batch α)
  | [] => return []
  | m :: rest => do
    let outcome ← Narrated.attempt (g.generate emit declared m)
    Narrated.tell (rejectionEvents m outcome)
    let others ← g.generateEach emit declared rest
    return (m, outcome) :: others

/-- Generates every method of a batch. -/
def generateAll (g : Generator) (emit : Emitter ε α) (methods : List MappingMethod) :
    Generation (Workshop ε) (Batch α) := do
  let batch ← g.generateEach emit methods methods
  Narrated.tell [⟨.info, "Generation pass finished",
    [("generated", .count batch.generated.length), ("rejected", .count batch.failures.length)]⟩]
  return batch

end Generator

end BeanMapping
