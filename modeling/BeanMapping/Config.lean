import BeanMapping.Fault
import BeanMapping.Json.Parser
import BeanMapping.Json.Record
import BeanMapping.NameMap

/-!
# Configuration

The settings of a generator: how collections are written, which match of names goes first, words
with a singular of their own, and how deep nested mappings are derived. Every setting has a default,
so the empty record is a configuration; a name that is no setting makes a record unreadable.
-/

namespace BeanMapping

/-- How a collection is written when its property has both a setter and an adder. -/
inductive CollectionStrategy where
  /-- Through the setter. -/
  | preferSetter
  /-- Element by element through the adder. -/
  | preferAdder
  /-- Through the setter. -/
  | setterOnly
deriving DecidableEq, Repr

/-- Which match settles a pair of properties first. -/
inductive NamePrecedence where
  /-- Equal names. -/
  | exactName
  /-- A singular and its plural. -/
  | singularized
deriving DecidableEq, Repr

/-- The settings of a generator. -/
structure GeneratorConfig where
  collectionStrategy : CollectionStrategy
  namePrecedence : NamePrecedence
  /-- The singular of each plural that has one of its own. -/
  singularOverrides : NameMap String
  /-- How many methods may be nested in one another, the outermost included. -/
  maxNestingDepth : Nat

namespace CollectionStrategy

/-- Every strategy. -/
def all : List CollectionStrategy := [.preferSetter, .preferAdder, .setterOnly]

/-- The name of a strategy in documents. -/
def name : CollectionStrategy → String
  | .preferSetter => "PREFER_SETTER"
  | .preferAdder => "PREFER_ADDER_WHEN_AVAILABLE"
  | .setterOnly => "SETTER_ONLY"

/-- The strategy with the name. -/
def ofName? (name : String) : Option CollectionStrategy :=
  all.find? (·.name == name)

/-- The name of a strategy as a value. -/
def toJson (s : CollectionStrategy) : Json := .str s.name

/-- A strategy from its name. -/
def ofJson? (v : Json) : Option CollectionStrategy :=
  v.asTag?.bind ofName?

end CollectionStrategy

namespace NamePrecedence

/-- Every precedence. -/
def all : List NamePrecedence := [.exactName, .singularized]

/-- The name of a precedence in documents. -/
def name : NamePrecedence → String
  | .exactName => "exact_name"
  | .singularized => "singularized"

/-- The precedence with the name. -/
def ofName? (name : String) : Option NamePrecedence :=
  all.find? (·.name == name)

/-- The name of a precedence as a value. -/
def toJson (p : NamePrecedence) : Json := .str p.name

/-- A precedence from its name. -/
def ofJson? (v : Json) : Option NamePrecedence :=
  v.asTag?.bind ofName?

end NamePrecedence

namespace NameMap

/-- A map as a record of its entries. -/
def toJson {α : Type} (write : α → Json) (m : NameMap α) : Json :=
  .obj (m.entries.map fun e => (e.1, write e.2))

/-- A map from a record, of which the last of the members with one name counts. -/
def ofJson? {α : Type} (read : Json → Option α) (v : Json) : Option (NameMap α) := do
  let fields ← v.asFields?
  let entries ← fields.mapM fun f => (read f.2).map (f.1, ·)
  return ofList entries

end NameMap

namespace GeneratorConfig

/-- The default of every setting. -/
def default : GeneratorConfig :=
  ⟨.preferSetter, .exactName, .empty, 16⟩

/-- Whether a text is a word of a property name: small letters of ASCII, digits and low lines. -/
def isWord (text : String) : Bool :=
  let cs := text.toList
  !cs.isEmpty && cs.all fun c => c.isLower || c.isDigit || c == '_'

/-- The first fault of a configuration: an override that is no pair of words, by the order of the
plurals, or else a depth that leaves no room for a method. -/
def fault? (c : GeneratorConfig) : Option Fault :=
  match c.singularOverrides.entries.find? fun e => !(isWord e.1 && isWord e.2) with
  | some (plural, singular) =>
    some (.invalidConfig "singular override"
      ("`" ++ plural ++ "` -> `" ++ singular ++ "` must be lowercase snake_case words"))
  | none =>
    if c.maxNestingDepth = 0 then
      some (.invalidConfig "max_nesting_depth" "must be at least 1")
    else none

/-- The defaults have no fault. -/
theorem fault?_default : default.fault? = none := rfl

/-- The configuration, if it has no fault. -/
def validate (c : GeneratorConfig) : Except Fault GeneratorConfig :=
  match c.fault? with
  | some fault => .error fault
  | none => .ok c

/-- The configuration as a record. -/
def toJson (c : GeneratorConfig) : Json :=
  .obj [("collection_strategy", c.collectionStrategy.toJson),
    ("name_precedence", c.namePrecedence.toJson),
    ("singular_overrides", c.singularOverrides.toJson .str),
    ("max_nesting_depth", .nat c.maxNestingDepth)]

/-- The names of the settings. -/
def settings : List String :=
  ["collection_strategy", "name_precedence", "singular_overrides", "max_nesting_depth"]

/-- A configuration from a record of some of the settings. -/
def ofJson? (v : Json) : Option GeneratorConfig := do
  let fields ← v.asRecord? settings 0
  guard (Json.hasOnly settings fields)
  return {
    collectionStrategy := ← Json.defaulted CollectionStrategy.ofJson?
      default.collectionStrategy fields "collection_strategy"
    namePrecedence := ← Json.defaulted NamePrecedence.ofJson?
      default.namePrecedence fields "name_precedence"
    singularOverrides := ← Json.defaulted (NameMap.ofJson? Json.asText?)
      default.singularOverrides fields "singular_overrides"
    maxNestingDepth := ← Json.defaulted Json.asSize?
      default.maxNestingDepth fields "max_nesting_depth" }

/-- A configuration from the value of a document, read and validated. -/
def read (document : Option Json) : Except Fault GeneratorConfig :=
  match document.bind ofJson? with
  | some c => c.validate
  | none => .error (.unreadable "generator configuration")

/-- A configuration from the text of a document. -/
def ofText (text : String) : Except Fault GeneratorConfig :=
  read (Json.read? text)

end GeneratorConfig

end BeanMapping
