import BeanMapping.Compiled

/-!
# Running a compiled mapping

Beans are objects whose members are named after the properties. A run writes the planned properties
into the target in the order of the plan; a source value that is absent or `null` leaves the target
as it is. The target that a run leaves behind is its state, so what was written before an error stays.

A nested method runs over a value inside the source value, which is less deep. So every run ends,
however the methods refer to one another: `run` is by recursion on the depth of the source.

* `run_eq`: a run is its first step, in which nested methods run in turn.
-/

namespace BeanMapping

/-- The members of an object. -/
abbrev Members := List (String × Json)

/-- Runs of methods over values of less than some depth. -/
abbrev RunsBelow (depth : Nat) :=
  (method : String) → (value : Json) → value.depth < depth → Running Json Unit

namespace CompiledMapping

variable {depth : Nat} {σ : Type}

/-! ## Conversion -/

/-- Calls a converter. -/
def callConverter (m : CompiledMapping) (path : String) (target : Option TypeName) (v : Json) :
    Running σ Json :=
  match m.converters.find? path with
  | none => Narrated.reject (.missingConverter path)
  | some convert =>
    match convert v target with
    | .ok w => pure w
    | .error failure => Narrated.reject (.raised failure)

/-- Converts a value. A built-in conversion leaves it as it is; a nested method maps it into a new
object. -/
def convert (m : CompiledMapping) (below : RunsBelow depth)
    (conversion : Option (Conversion MappingPlan)) (v : Json) (h : v.depth < depth) : Running σ Json :=
  match conversion with
  | none | some (.builtin _) => pure v
  | some (.converter path target _) => m.callConverter path target v
  | some (.nested n) => Narrated.apart (.obj []) (below n.method v h)

/-- Converts each element in turn. -/
def convertAll (m : CompiledMapping) (below : RunsBelow depth)
    (conversion : Option (Conversion MappingPlan)) :
    (items : List Json) → (∀ v ∈ items, v.depth < depth) → Running σ (List Json)
  | [], _ => return []
  | v :: rest, h => do
    let first ← m.convert below conversion v (h v List.mem_cons_self)
    let others ← m.convertAll below conversion rest fun w hw => h w (List.mem_cons_of_mem v hw)
    return first :: others

/-! ## Collections -/

/-- The elements of the value of a source collection. -/
def elements (property : String) (v : Json) (h : v.depth < depth) :
    Running σ { items : List Json // ∀ w ∈ items, w.depth < depth } :=
  match v with
  | .arr items => pure ⟨items, fun _ hw => Nat.lt_trans (Json.depth_lt_of_mem_arr hw) h⟩
  | _ => Narrated.reject (.notACollection property)

/-- The members with an empty array in the place of an absent or `null` one. -/
def opened (name : String) (fields : Members) : Members :=
  match Json.find? fields name with
  | none | some .null => Json.set name (.arr []) fields
  | some _ => fields

/-- Appends an element to the array of a target collection. -/
def append (name : String) (w : Json) : Running Members Unit := do
  let fields ← Narrated.get
  match Json.find? fields name with
  | some (.arr items) => Narrated.modify (Json.set name (.arr (items ++ [w])))
  | _ => Narrated.reject (.notACollection name)

/-- Converts and appends each element in turn; after each of them the `signal` is told. -/
def appendAll (m : CompiledMapping) (below : RunsBelow depth) (p : PlannedProperty MappingPlan)
    (signal : List Step) :
    (items : List Json) → (∀ v ∈ items, v.depth < depth) → Running Members Unit
  | [], _ => return ()
  | v :: rest, h => do
    let w ← m.convert below p.conversion v (h v List.mem_cons_self)
    append p.target.name w
    Narrated.tell signal
    m.appendAll below p signal rest fun w hw => h w (List.mem_cons_of_mem v hw)

/-! ## Properties -/

/-- Writes one property, from a source value that is there. The adder is called once for each
element, every other member once. -/
def apply (m : CompiledMapping) (below : RunsBelow depth) (plan : MappingPlan)
    (p : PlannedProperty MappingPlan) (v : Json) (h : v.depth < depth) : Running Members Unit := do
  let call := Step.called (.ofProperty plan p)
  match p.action with
  | .assign | .convertAssign =>
    let w ← m.convert below p.conversion v h
    Narrated.modify (Json.set p.target.name w)
    Narrated.tell [call]
  | .replaceSet =>
    let items ← elements p.source.name v h
    let ws ← m.convertAll below p.conversion items.1 items.2
    Narrated.modify (Json.set p.target.name (.arr ws))
    Narrated.tell [call]
  | .mergeAdd .adder =>
    Narrated.modify (opened p.target.name)
    let items ← elements p.source.name v h
    m.appendAll below p [call] items.1 items.2
  | .mergeAdd .getter =>
    Narrated.modify (opened p.target.name)
    let items ← elements p.source.name v h
    m.appendAll below p [] items.1 items.2
    Narrated.tell [call]

/-- The event of a source value that is not there. -/
def absentEvent (plan : MappingPlan) (p : PlannedProperty MappingPlan) : Event :=
  ⟨.trace, "Source value absent",
    [("method", .text plan.method), ("property", .text p.source.name)]⟩

/-- Writes one property, if the source has a value for it. -/
def applyFrom (m : CompiledMapping) (plan : MappingPlan) (source : Members)
    (below : RunsBelow (Json.obj source).depth) (p : PlannedProperty MappingPlan) :
    Running Members Unit :=
  match h : Json.find? source p.source.name with
  | none | some .null => Narrated.tell [.told (absentEvent plan p)]
  | some v => m.apply below plan p v (Json.depth_lt_of_find? h)

/-- Writes the properties in turn. -/
def applyAll (m : CompiledMapping) (plan : MappingPlan) (source : Members)
    (below : RunsBelow (Json.obj source).depth) :
    List (PlannedProperty MappingPlan) → Running Members Unit
  | [] => return ()
  | p :: rest => do
    m.applyFrom plan source below p
    m.applyAll plan source below rest

/-! ## Methods -/

/-- A computation over the members of the target, which is an object or `null`. -/
def overTarget (typeName : TypeName) (x : Running Members Unit) : Running Json Unit := do
  match ← Narrated.get with
  | .obj fields => Narrated.focus (fun _ => fields) (fun fields _ => .obj fields) x
  | .null => Narrated.focus (fun _ => []) (fun fields _ => .obj fields) x
  | target => Narrated.reject (.notAnObject typeName target.kindName)

/-- Runs a method over a source; `below` runs nested methods. -/
def runWith (m : CompiledMapping) (method : String) (source : Json) (below : RunsBelow source.depth) :
    Running Json Unit :=
  match m.plans.find? method with
  | none => Narrated.reject (.unknownMethod method)
  | some plan =>
    match source, below with
    | .obj fields, below => overTarget plan.targetType (m.applyAll plan fields below plan.properties)
    | v, _ => Narrated.reject (.notAnObject plan.sourceType v.kindName)

/-- Runs a method over a source. -/
def run (m : CompiledMapping) (method : String) (source : Json) : Running Json Unit :=
  m.runWith method source fun method value _ => m.run method value
termination_by source.depth

theorem run_eq (m : CompiledMapping) (method : String) (source : Json) :
    m.run method source = m.runWith method source fun method value _ => m.run method value := by
  rw [run]

/-- Runs the mapping over a source, into a target. -/
def mapInto (m : CompiledMapping) (source target : Json) : Narration ExecutionError Step Json Unit :=
  (m.run m.method source).run target

/-- Runs the mapping over a source, into a new target. -/
def map (m : CompiledMapping) (source : Json) : Narration ExecutionError Step Json Unit :=
  m.mapInto source (.obj [])

/-- The calls of a run. -/
def calls {α : Type} (n : Narration ExecutionError Step Json α) : List MutatorCall :=
  n.told.filterMap Step.call?

/-- Whether a run called an adder. -/
def usedAdder {α : Type} (n : Narration ExecutionError Step Json α) : Bool :=
  (calls n).any (·.isAdder)

end CompiledMapping

end BeanMapping
