import BeanMapping.Code.Function
import BeanMapping.Contract
import BeanMapping.Generator

/-!
# Rendering of plans

A verified plan is rendered as a function for its method and one for each derived method that it
embeds. A derived method is rendered once for an emitter, with the first method that needs it: the
emitter remembers the names.

Names of members are written in snake case. A call is followed by `?` exactly when it declares a
checked failure; the function returns a result exactly when its plan declares one.
-/

namespace BeanMapping.Code

/-- The code of a mapping method: its function, and those of derived methods. -/
structure GeneratedCode where
  method : String
  functions : List Function

/-- The names of the derived methods that were rendered. -/
abbrev RenderedNames := List String

namespace GeneratedCode

/-- The code as tokens. -/
def tokens (c : GeneratedCode) : List Token :=
  c.functions.flatMap Function.tokens

/-- The code as text. -/
def text (c : GeneratedCode) : String :=
  Token.listText c.tokens

end GeneratedCode

namespace Rendering

/-! ## Names and types -/

/-- A name in a message. A message ends where a back quote, a colon and a blank follow one another,
so nothing of the name after them is in it. -/
def nameInMessage : List Char → List Char
  | '`' :: ':' :: ' ' :: _ => []
  | c :: rest => c :: nameInMessage rest
  | [] => []

/-- The report of a text that is not what it should be. -/
def unreadable (what text : String) : Report :=
  .of (.unrenderable (what ++ " `" ++ String.ofList (nameInMessage text.toList) ++ "`"))

/-- A reading of a text, or the report that it has none. -/
def reading {α : Type} (what : String) (read : String → Option α) (text : String) :
    Except Report α :=
  match read text with
  | some a => .ok a
  | none => .error (unreadable what text)

/-- An identifier. -/
def identifier (text : String) : Except Report Identifier :=
  reading "identifier" Identifier.ofText? text

/-- A type. -/
def type (t : TypeName) : Except Report TypeCode :=
  reading "type" TypeCode.ofText? t.text

/-- A path. -/
def path (text : String) : Except Report PathCode :=
  reading "path" PathCode.ofText? text

/-! ## Failures -/

/-- Whether one of the failures is checked. -/
def isFallible (v : VerifiedPlan) (failures : List TypeName) : Bool :=
  failures.any v.isChecked

/-- The type of the errors of a function, from the failures that it declares: the only checked one,
or a box for several. -/
def errorType (v : VerifiedPlan) (declared : List TypeName) : Except Report (Option (List Token)) :=
  match declared.filter v.isChecked with
  | [] => .ok none
  | [single] => do return some (← type single).tokens
  | _ => .ok (some (Token.spelled
      ":: std :: boxed :: Box < dyn :: std :: error :: Error + Send + Sync >"))

/-! ## Properties -/

/-- The member that inserts into a collection. -/
def insertMember (collection : TypeName) : Identifier :=
  match collection.container? with
  | some .vecDeque | some .linkedList => ⟨"push_back"⟩
  | some .hashSet | some .bTreeSet | some .indexSet => ⟨"insert"⟩
  | some .vec | none => ⟨"push"⟩

/-- The call of a member. -/
def call (v : VerifiedPlan) (a : Accessor) : Except Report Call := do
  return ⟨← identifier (Text.snakeCase a.member), isFallible v a.failures⟩

/-- The conversion of a property. -/
def converted (v : VerifiedPlan) (p : PlannedProperty MappingPlan) : Except Report Converted :=
  match p.conversion with
  | none | some (.builtin .identity) => .ok .same
  | some (.builtin .widening) => do return .wide (← type p.targetValueType)
  | some (.builtin .boxing) => .ok .boxed
  | some (.builtin .unboxing) => .ok .unboxed
  | some (.builtin (.enumByName variants)) => do
    let source ← path p.sourceValueType.text
    let target ← path p.targetValueType.text
    return .matched source target (← variants.mapM identifier)
  | some (.converter converter target failures) => do
    let path ← path converter
    return .called path (← target.mapM type) (isFallible v failures)
  | some (.nested n) => do
    return .mapped (← identifier n.method) (isFallible v n.declaredFailures)

/-- An accessor that is there. -/
def present (what details : String) : Option Accessor → Except Report Accessor
  | some a => .ok a
  | none => .error (.of (.emissionFailed what details))

/-- The statement that writes a property. -/
def statement (v : VerifiedPlan) (p : PlannedProperty MappingPlan) : Except Report Statement := do
  let reader ← present "property read" "source property has no getter" p.source.accessors.getter
  let writer ← present "property write" "target property has no mutator" p.mutator?
  let read ← call v reader
  let write ← call v writer
  let converted ← converted v p
  let insert := insertMember p.target.valueType
  match p.action with
  | .assign => return .assign read write
  | .convertAssign => return .convertAssign read converted write
  | .replaceSet =>
    let collection ← type p.target.valueType
    let name ← identifier p.target.name
    return .replaceSet read converted write collection ⟨"new_" ++ name.bare⟩ insert
  | .mergeAdd .adder => return .addEach read converted write
  | .mergeAdd .getter => return .insertEach read converted write insert

/-! ## Functions -/

/-- The function of a plan, without those of the plans that it embeds. -/
def function (v : VerifiedPlan) (p : MappingPlan) : Except Report Function := do
  return {
    name := ← identifier p.method
    source := ← type p.sourceType
    target := ← type p.targetType
    updatesTarget := p.updatesTarget
    error := ← errorType v p.declaredFailures
    body := ← p.properties.mapM fun q =>
      (statement v q).mapError (·.attach ("Property: " ++ q.target.name)) }

/-- The functions of the plans that a plan embeds and that were not rendered before, each after
those that it embeds itself. A name counts as rendered from the start. -/
def nestedFunctions (v : VerifiedPlan) (p : MappingPlan) :
    Generation RenderedNames (List Function) := do
  let groups ← p.nested.attach.mapM fun q => do
    if (← Narrated.get).contains q.1.method then return []
    Narrated.modify (q.1.method :: ·)
    let inner ← nestedFunctions v q.1
    let own ← Narrated.ofResult (function v q.1)
    return inner ++ [own]
  return groups.flatten
termination_by sizeOf p
decreasing_by exact MappingPlan.sizeOf_lt_of_mem_nested q.2

/-- Renders a verified plan for a method. -/
def render : Emitter RenderedNames GeneratedCode := fun m v => do
  let root ← Narrated.ofResult (function v v.plan)
  let nested ← nestedFunctions v v.plan
  let code : GeneratedCode := ⟨m.name, root :: nested⟩
  if areItems code.tokens then return code
  else Narrated.reject (.of (.unrenderable "generated items"))

end Rendering

end BeanMapping.Code
