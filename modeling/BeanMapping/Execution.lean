import BeanMapping.Converter
import BeanMapping.Narrated
import BeanMapping.Plan

/-!
# Execution

What can happen when a mapping is run over values: the errors that end a run, the calls of target
members that it makes, and the steps that it tells, which are calls and events in their order.
-/

namespace BeanMapping

/-- Why a run ends before its end. -/
inductive ExecutionError where
  /-- A converter raised a failure. -/
  | raised (failure : RaisedFailure)
  /-- A nested method is not linked. -/
  | unknownMethod (method : String)
  /-- A converter is not registered. -/
  | missingConverter (path : String)
  /-- A value of a bean type is no object, but a value of this kind. -/
  | notAnObject (typeName : TypeName) (found : String)
  /-- The value of a collection is no array. -/
  | notACollection (property : String)
deriving DecidableEq, Repr

namespace ExecutionError

/-- The short name of the kind of error. -/
def kind : ExecutionError → String
  | .raised _ => "raised"
  | .unknownMethod _ => "unknown_method"
  | .missingConverter _ => "missing_converter"
  | .notAnObject .. => "not_an_object"
  | .notACollection _ => "not_a_collection"

/-- What a reader is told. -/
def message : ExecutionError → String
  | .raised failure => failure.text
  | .unknownMethod method => "Mapping method `" ++ method ++ "` is not linked"
  | .missingConverter path => "Converter `" ++ path ++ "` is not registered"
  | .notAnObject typeName found =>
    "Expected an object for `" ++ typeName.text ++ "`, found " ++ found
  | .notACollection property => "Expected an array for property `" ++ property ++ "`"

/-- The fields that a raised failure adds to a record. -/
def extraFields : ExecutionError → List (String × Json)
  | .raised failure => [("failure", .strs [failure.failureType.text, failure.message])]
  | _ => []

/-- The error as a record. -/
def toJson (e : ExecutionError) : Json :=
  .obj ([("error", .str e.kind), ("message", .str e.message)] ++ e.extraFields)

end ExecutionError

/-- A call of a target member. -/
structure MutatorCall where
  /-- The method that makes the call. -/
  method : String
  /-- The target property that is written. -/
  property : String
  /-- The member that is called. -/
  member : String
  /-- The action that the call is a part of. -/
  action : PropertyAction
deriving DecidableEq, Repr

namespace MutatorCall

/-- The call that a plan makes for one of its properties. -/
def ofProperty (plan : MappingPlan) (p : PlannedProperty MappingPlan) : MutatorCall where
  method := plan.method
  property := p.target.name
  member := (p.mutator?.map (·.member)).getD ""
  action := p.action

/-- Whether the call is one of an adder. -/
def isAdder (c : MutatorCall) : Bool :=
  c.action == .mergeAdd .adder

/-- The call as a list of its parts. -/
def toJson (c : MutatorCall) : Json :=
  .arr [.str c.method, .str c.property, .str c.member, c.action.toJson]

end MutatorCall

/-- Something that a run does and that can be seen from outside. -/
inductive Step where
  | called (call : MutatorCall)
  | told (event : Event)
deriving DecidableEq, Repr

namespace Step

/-- The call of a step that is one. -/
def call? : Step → Option MutatorCall
  | .called c => some c
  | .told _ => none

/-- The event of a step that is one. -/
def event? : Step → Option Event
  | .called _ => none
  | .told e => some e

end Step

/-- A run over a state: it may end with an error, and tells its steps. -/
abbrev Running := Narrated ExecutionError Step

end BeanMapping
