import BeanMapping.Json.Basic
import BeanMapping.Text.Quoted
import BeanMapping.TypeName

/-!
# Faults

Why a mapping method, or a document about it, is rejected. A `Fault` is the cause, `Fault.message`
its wording; a `Report` adds where it arose, from the inside out.

Text that another reader wrote about a malformed document is no part of a message: the message ends
before it.
-/

namespace BeanMapping

/-- Why something is rejected. -/
inductive Fault where
  /-- No description is registered for a type. -/
  | unknownType (typeName : TypeName)
  /-- Nothing of a target type can be written. -/
  | shape (typeName : TypeName) (reason : String)
  /-- Several target properties match a source property equally well. -/
  | ambiguousCorrelation (sourceProperty : String) (candidates : List String)
  /-- The types differ and no conversion applies. -/
  | unmappableType (property : String) (source target : TypeName)
  /-- A checked failure may be raised that the method does not declare. -/
  | undeclaredFailure (method property raisedBy : String) (failure : TypeName)
  /-- A target type hint does not fit the declared type. -/
  | invalidTypeHint (text : String)
  /-- A plan cannot be turned into output. -/
  | emission (text : String)
  /-- A document cannot be used. -/
  | configuration (text : String)
deriving DecidableEq, Repr

namespace Fault

/-! ## Causes with a fixed wording -/

/-- A target type on which nothing can be written. -/
def noMutationPoints (typeName : TypeName) (reason : String) : Fault :=
  .shape typeName ("Cannot write any property: " ++ reason)

/-- A hint that is neither the declared type nor one of its subtypes. -/
def hintNotAssignable (property : String) (hint declared : TypeName) : Fault :=
  .invalidTypeHint ("Invalid target type hint for `" ++ property ++ "`: `" ++ hint.text ++
    "` is not assignable to `" ++ declared.text ++ "`")

/-- A document, or a part of it, that does not fit. -/
def invalidConfig (what details : String) : Fault :=
  .configuration ("Invalid " ++ what ++ ": " ++ details)

/-- A document that does not read. -/
def unreadable (what : String) : Fault :=
  .configuration ("Invalid " ++ what)

/-- A part of the output that cannot be written. -/
def emissionFailed (what details : String) : Fault :=
  .emission ("Cannot render " ++ what ++ ": " ++ details)

/-- A part of the output that does not read as what it should be. -/
def unrenderable (what : String) : Fault :=
  .emission ("Cannot render " ++ what)

/-! ## Wording -/

/-- The short name of the kind of fault. -/
def category : Fault → String
  | .unknownType .. => "unknown_type"
  | .shape .. => "shape"
  | .ambiguousCorrelation .. => "ambiguous_correlation"
  | .unmappableType .. => "unmappable_type"
  | .undeclaredFailure .. => "undeclared_failure"
  | .invalidTypeHint .. => "invalid_type_hint"
  | .emission .. => "emission"
  | .configuration .. => "configuration"

/-- What a reader is told. -/
def message : Fault → String
  | .unknownType typeName => "Type not described by the host type system: " ++ typeName.text
  | .shape typeName reason =>
    "Type `" ++ typeName.text ++ "` has no usable mutation points: " ++ reason
  | .ambiguousCorrelation sourceProperty candidates =>
    "Source property `" ++ sourceProperty ++ "` matches several target properties equally well: " ++
      ", ".intercalate candidates
  | .unmappableType property source target =>
    "No conversion from `" ++ source.text ++ "` to `" ++ target.text ++ "` for property `" ++
      property ++ "`"
  | .undeclaredFailure method property raisedBy failure =>
    "Checked failure `" ++ failure.text ++ "` raised by `" ++ raisedBy ++ "` (property `" ++
      property ++ "`) is not declared by mapping method `" ++ method ++ "`"
  | .invalidTypeHint text => text
  | .emission text => "Emission failed: " ++ text
  | .configuration text => "Configuration error: " ++ text

/-! ## Structure -/

/-- A type name as its constructor applied to a quoted text. -/
def dumpType (t : TypeName) : String :=
  "TypeName(" ++ Text.quoted t.text ++ ")"

/-- A record: its name, and its fields in braces. -/
def dumpRecord (name : String) (fields : List (String × String)) : String :=
  name ++ " \x7b " ++ ", ".intercalate (fields.map fun f => f.1 ++ ": " ++ f.2) ++ " \x7d"

/-- The fault with all its parts, for a log. -/
def dump : Fault → String
  | .unknownType typeName => dumpRecord "UnknownType" [("type_name", dumpType typeName)]
  | .shape typeName reason =>
    dumpRecord "Shape" [("type_name", dumpType typeName), ("reason", Text.quoted reason)]
  | .ambiguousCorrelation sourceProperty candidates =>
    dumpRecord "AmbiguousCorrelation" [("source_property", Text.quoted sourceProperty),
      ("candidates", "[" ++ ", ".intercalate (candidates.map Text.quoted) ++ "]")]
  | .unmappableType property source target =>
    dumpRecord "UnmappableType" [("property", Text.quoted property), ("from", dumpType source),
      ("to", dumpType target)]
  | .undeclaredFailure method property raisedBy failure =>
    dumpRecord "UndeclaredFailure" [("method", Text.quoted method),
      ("property", Text.quoted property), ("raised_by", Text.quoted raisedBy),
      ("failure", dumpType failure)]
  | .invalidTypeHint text => "InvalidTypeHint(" ++ Text.quoted text ++ ")"
  | .emission text => "Emission(" ++ Text.quoted text ++ ")"
  | .configuration text => "Configuration(" ++ Text.quoted text ++ ")"

end Fault

/-- A fault, and where it arose: the innermost place first. -/
structure Report where
  fault : Fault
  context : List String
deriving DecidableEq, Repr

namespace Report

/-- A fault without a place. -/
def of (fault : Fault) : Report := ⟨fault, []⟩

/-- The report as seen from one place further out. -/
def attach (r : Report) (place : String) : Report :=
  { r with context := r.context ++ [place] }

/-- The report as a record. -/
def toJson (r : Report) : Json :=
  .obj [("error", .str r.fault.category), ("message", .str r.fault.message),
    ("context", .strs r.context)]

end Report

end BeanMapping
