import BeanMapping.Code.Grammar

/-!
# Generated functions

The functions that plans are rendered as. A function reads the properties of its source, converts
what it read, and writes its target, which it creates unless its caller hands one in. A call that can
fail is followed by `?`, and then the function returns a result.

`Function.tokens` writes a function. Whether what it writes reads as one is up to the places where the
types and paths in it stand: one that is read alone may not be read there.
-/

namespace BeanMapping.Code

/-- A call of a member, and whether it is followed by `?`. -/
structure Call where
  member : Identifier
  fallible : Bool

/-- How the value at hand is converted. -/
inductive Converted where
  /-- Not at all. -/
  | same
  /-- By `from` of a type. -/
  | wide (type : TypeCode)
  | boxed
  | unboxed
  /-- Variant by variant. -/
  | matched (source target : PathCode) (variants : List Identifier)
  /-- By a converter, with the type to produce as a generic argument. -/
  | called (path : PathCode) (argument : Option TypeCode) (fallible : Bool)
  /-- By another mapping function. -/
  | mapped (function : Identifier) (fallible : Bool)

/-- How one property is written. -/
inductive Statement where
  /-- Passes a copy of the value to the setter. -/
  | assign (read write : Call)
  /-- Converts a copy of the value and passes it to the setter. -/
  | convertAssign (read : Call) (converted : Converted) (write : Call)
  /-- Collects the converted elements and passes them to the setter. -/
  | replaceSet (read : Call) (converted : Converted) (write : Call) (collection : TypeCode)
    (collector insert : Identifier)
  /-- Passes each converted element to the adder. -/
  | addEach (read : Call) (converted : Converted) (write : Call)
  /-- Inserts each converted element into the collection that the getter returns. -/
  | insertEach (read : Call) (converted : Converted) (write : Call) (insert : Identifier)

/-- A mapping function. -/
structure Function where
  name : Identifier
  source : TypeCode
  target : TypeCode
  /-- Whether the target is handed in. -/
  updatesTarget : Bool
  /-- The type of the errors, when the function returns a result. -/
  error : Option (List Token)
  body : List Statement

open Token

/-- The sign of a call that can fail. -/
def tryTokens (fallible : Bool) : List Token :=
  if fallible then marks "?" else []

/-- A type in angle brackets, as the owner of a function. -/
def ownerTokens (type : List Token) : List Token :=
  marks "<" ++ type ++ marks ">" ++ marks "::"

/-- The variable that holds the value at hand. -/
def element : List Token := [.word "element"]

namespace Call

/-- A call on something with arguments. -/
def tokens (owner : String) (c : Call) (arguments : List Token) : List Token :=
  [.word owner] ++ marks "." ++ c.member.tokens ++ round arguments ++ tryTokens c.fallible

/-- What a getter of the source gives. -/
def readTokens (c : Call) : List Token := c.tokens "source" []

/-- The call of a member of the target. -/
def writeTokens (c : Call) (arguments : List Token) : List Token := c.tokens "target" arguments

end Call

namespace Converted

/-- The converted value. -/
def tokens : Converted → List Token
  | .same => element
  | .wide type => ownerTokens type.tokens ++ [.word "from"] ++ round element
  | .boxed => spelled ":: std :: boxed :: Box :: new" ++ round element
  | .unboxed => marks "*" ++ element
  | .matched source target variants =>
    [.word "match"] ++ element ++ curly (variants.flatMap fun v =>
      source.tokens ++ marks "::" ++ v.tokens ++ marks "=>" ++
        target.tokens ++ marks "::" ++ v.tokens ++ marks ",")
  | .called path argument fallible =>
    path.tokens ++
      (match argument with
        | some type => marks "::" ++ marks "<" ++ type.tokens ++ marks ">"
        | none => []) ++
      round element ++ tryTokens fallible
  | .mapped function fallible =>
    function.tokens ++ round (marks "&" ++ element) ++ tryTokens fallible

/-- Whether the conversion can fail. -/
def isFallible : Converted → Bool
  | .called _ _ fallible | .mapped _ fallible => fallible
  | _ => false

end Converted

namespace Statement

/-- A copy of the value of a property. -/
def copyTokens (read : Call) : List Token :=
  read.readTokens ++ spelled ". clone" ++ round []

/-- A loop over copies of the elements of a property. -/
def loopTokens (read : Call) (body : List Token) : List Token :=
  [.word "for"] ++ element ++ [.word "in"] ++ read.readTokens ++ spelled ". iter" ++ round [] ++
    spelled ". cloned" ++ round [] ++ curly body

/-- The statement as tokens. -/
def tokens : Statement → List Token
  | .assign read write => write.writeTokens (copyTokens read) ++ marks ";"
  | .convertAssign read converted write =>
    curly (spelled "let element =" ++ copyTokens read ++ marks ";" ++
      write.writeTokens converted.tokens ++ marks ";")
  | .replaceSet read converted write collection collector insert =>
    spelled "let mut" ++ collector.tokens ++ marks "=" ++ ownerTokens collection.tokens ++
      [.word "new"] ++ round [] ++ marks ";" ++
      loopTokens read (collector.tokens ++ marks "." ++ insert.tokens ++
        round converted.tokens ++ marks ";") ++
      write.writeTokens collector.tokens ++ marks ";"
  | .addEach read converted write =>
    loopTokens read (write.writeTokens converted.tokens ++ marks ";")
  | .insertEach read converted write insert =>
    loopTokens read (write.writeTokens [] ++ marks "." ++ insert.tokens ++
      round converted.tokens ++ marks ";")

/-- The call that reads the source. -/
def read : Statement → Call
  | .assign read _ | .convertAssign read _ _ | .replaceSet read .. | .addEach read _ _
  | .insertEach read .. => read

/-- The call that writes the target. -/
def write : Statement → Call
  | .assign _ write | .convertAssign _ _ write | .replaceSet _ _ write .. | .addEach _ _ write
  | .insertEach _ _ write _ => write

/-- How the value, or an element, is converted. -/
def converted : Statement → Converted
  | .assign .. => .same
  | .convertAssign _ c _ | .replaceSet _ c .. | .addEach _ c _ | .insertEach _ c .. => c

/-- Whether some call of the statement is followed by `?`. -/
def isFallible (s : Statement) : Bool :=
  s.read.fallible || s.converted.isFallible || s.write.fallible

end Statement

namespace Function

/-- A result type. -/
def resultTokens (value error : List Token) : List Token :=
  spelled ":: std :: result :: Result <" ++ value ++ marks "," ++ error ++ marks ">"

/-- What the function gives when it ends, as a type and as an expression. Nothing is given when the
target was handed in and nothing can fail. -/
def outcome (f : Function) : List Token × List Token :=
  match f.updatesTarget, f.error with
  | true, some error =>
    (marks "->" ++ resultTokens (round []) error, [.word "Ok"] ++ round (round []))
  | true, none => ([], [])
  | false, some error =>
    (marks "->" ++ resultTokens f.target.tokens error, [.word "Ok"] ++ round [.word "target"])
  | false, none => (marks "->" ++ f.target.tokens, [.word "target"])

/-- The parameters of the function. -/
def parameters (f : Function) : List Token :=
  spelled "source : &" ++ f.source.tokens ++
    if f.updatesTarget then spelled ", target : & mut" ++ f.target.tokens else []

/-- The statement that creates the target, unless it was handed in. -/
def creation (f : Function) : List Token :=
  if f.updatesTarget then []
  else spelled "let mut target =" ++ ownerTokens f.target.tokens ++ [.word "default"] ++ round [] ++
    marks ";"

/-- The function as tokens. -/
def tokens (f : Function) : List Token :=
  spelled "pub fn" ++ f.name.tokens ++ round f.parameters ++ f.outcome.1 ++
    curly (f.creation ++ f.body.flatMap Statement.tokens ++ f.outcome.2)

/-- Whether the function returns a result. -/
def returnsResult (f : Function) : Bool := f.error.isSome

end Function

end BeanMapping.Code
