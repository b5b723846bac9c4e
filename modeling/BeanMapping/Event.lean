import BeanMapping.Json.Basic

/-!
# Events

What the library does on the way is told as events: a level, a message, and fields. A reader who
asks for a level sees the events at that level and at the more severe ones.
-/

namespace BeanMapping

/-- How severe an event is, the most severe first. -/
inductive Level where
  | error
  | warn
  | info
  | debug
  | trace
deriving DecidableEq, Repr

namespace Level

/-- Every level, the most severe first. -/
def all : List Level := [.error, .warn, .info, .debug, .trace]

/-- The name of a level. -/
def name : Level → String
  | .error => "error"
  | .warn => "warn"
  | .info => "info"
  | .debug => "debug"
  | .trace => "trace"

/-- The place of a level, counted from the most severe. -/
def rank : Level → Nat
  | .error => 0
  | .warn => 1
  | .info => 2
  | .debug => 3
  | .trace => 4

/-- The level with exactly this name. -/
def ofName? (name : String) : Option Level :=
  all.find? (·.name == name)

/-- The level that a text names; capitals of ASCII count as small letters. -/
def ofText? (text : String) : Option Level :=
  ofName? text.toLower

end Level

/-- A field of an event: a number of things, a truth value, or a text. -/
inductive FieldValue where
  | count (n : Nat)
  | flag (b : Bool)
  | text (s : String)
deriving DecidableEq, Repr

/-- Something that the library did. -/
structure Event where
  level : Level
  message : String
  fields : List (String × FieldValue)
deriving DecidableEq, Repr

namespace Event

/-- Whether a reader of a level sees the event. -/
def visibleAt (level : Level) (e : Event) : Bool :=
  e.level.rank ≤ level.rank

/-- The value of a field. -/
def writeField : FieldValue → Json
  | .count n => .nat n
  | .flag b => .bool b
  | .text s => .str s

/-- The event as a record. -/
def toJson (e : Event) : Json :=
  .obj [("level", .str e.level.name), ("message", .str e.message),
    ("fields", .obj (e.fields.map fun f => (f.1, writeField f.2)))]

end Event

end BeanMapping
