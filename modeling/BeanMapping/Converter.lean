import BeanMapping.Json.Basic
import BeanMapping.NameMap
import BeanMapping.TypeName

/-!
# Converters

A converter turns one value into another, or raises a failure. It is told the type to produce when
its rule is generic. Converters are known by the paths that the rules call them by.
-/

namespace BeanMapping

/-- A failure that a converter raises; its caller gets it as it is. -/
structure RaisedFailure where
  failureType : TypeName
  message : String
deriving DecidableEq, Repr

/-- A converter. -/
abbrev Converter := Json → Option TypeName → Except RaisedFailure Json

/-- The converters that are known, by their paths. -/
abbrev ConverterTable := NameMap Converter

/-- What a reader is told about a raised failure. -/
def RaisedFailure.text (f : RaisedFailure) : String :=
  f.failureType.text ++ ": " ++ f.message

end BeanMapping
