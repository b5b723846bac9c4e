import BeanMapping.Json.Basic

/-!
# Reading records from JSON values

A reader takes a value and may refuse it. A record is an object: a field of it may be required,
may have a default, or may be optional; a field that is given twice makes the record unreadable, and
names that the record does not know are passed over. A record may also be an array of its first
fields in their order.

* `field?_cons_self`, `field?_cons_of_ne`: looking up a field in a record that is written out.
-/

namespace BeanMapping.Json

/-- The text of a value that is a text. -/
def asText? : Json → Option String
  | .str text => some text
  | _ => none

/-- The truth value of a value that is one. -/
def asBool? : Json → Option Bool
  | .bool b => some b
  | _ => none

/-- A size: a whole number of 64 bits without a sign. -/
def asSize? : Json → Option Nat
  | .num (.int (.ofNat n)) => if n < UInt64.size then some n else none
  | _ => none

/-- The items of an array. -/
def asItems? : Json → Option (List Json)
  | .arr items => some items
  | _ => none

/-- The members of an object. -/
def asFields? : Json → Option (List (String × Json))
  | .obj fields => some fields
  | _ => none

/-- The fields of a record with these names, of which an array must give as many as `least`. -/
def asRecord? (names : List String) (least : Nat) : Json → Option (List (String × Json))
  | .obj fields => some fields
  | .arr items =>
    if least ≤ items.length ∧ items.length ≤ names.length then some (names.zip items) else none
  | _ => none

/-- A list of things, read item by item. -/
def listOf? {α : Type} (read : Json → Option α) (v : Json) : Option (List α) := do
  let items ← v.asItems?
  items.mapM read

/-- Something or `null`. -/
def optionOf? {α : Type} (read : Json → Option α) : Json → Option (Option α)
  | .null => some none
  | v => (read v).map some

/-- The tag of a plain alternative: its name, or an object of its name and `null`. -/
def asTag? : Json → Option String
  | .str tag => some tag
  | .obj [(tag, .null)] => some tag
  | _ => none

/-- The field with the name, if the record has it. Nothing is read when it is given twice. -/
def field? (fields : List (String × Json)) (name : String) : Option (Option Json) :=
  match fields.filter (·.1 == name) with
  | [] => some none
  | [(_, v)] => some (some v)
  | _ => none

/-- A field that must be given. -/
def required {α : Type} (read : Json → Option α) (fields : List (String × Json))
    (name : String) : Option α := do
  let v ← (← field? fields name)
  read v

/-- A field that may be left out, but not be `null`. -/
def defaulted {α : Type} (read : Json → Option α) (default : α) (fields : List (String × Json))
    (name : String) : Option α := do
  match ← field? fields name with
  | none => return default
  | some v => read v

/-- A field that may be left out or be `null`. -/
def optional {α : Type} (read : Json → Option α) (fields : List (String × Json))
    (name : String) : Option (Option α) := do
  match ← field? fields name with
  | none => return none
  | some v => optionOf? read v

/-- Whether a record has no names but these. -/
def hasOnly (names : List String) (fields : List (String × Json)) : Bool :=
  fields.all fun f => names.contains f.1

theorem field?_nil (name : String) : field? [] name = some none := rfl

theorem field?_cons_of_ne {n name : String} {v : Json} {fields : List (String × Json)}
    (h : n ≠ name) : field? ((n, v) :: fields) name = field? fields name := by
  simp [field?, h]

theorem field?_cons_self {name : String} {v : Json} {fields : List (String × Json)}
    (h : ∀ f ∈ fields, f.1 ≠ name) : field? ((name, v) :: fields) name = some (some v) := by
  have : fields.filter (·.1 == name) = [] := by
    simpa [List.filter_eq_nil_iff] using fun a b hab => h (a, b) hab
  simp [field?, this]

end BeanMapping.Json
