import BeanMapping.Correlation

/-!
# Actions

How a correlated property is written. What the target offers decides first: the strategy chooses
only between a setter and an adder where a collection has both.
-/

namespace BeanMapping

/-- The member that receives the elements of a merge. -/
inductive MergeVia where
  /-- The adder, once for each element. -/
  | adder
  /-- The collection that the getter returns. -/
  | getter
deriving DecidableEq, Repr

/-- What is done for one property. -/
inductive PropertyAction where
  /-- Pass the value to the setter. -/
  | assign
  /-- Convert the value and pass it to the setter. -/
  | convertAssign
  /-- Append each element, converted, in the order of the source. -/
  | mergeAdd (via : MergeVia)
  /-- Pass a new collection of the converted elements to the setter. -/
  | replaceSet
deriving DecidableEq, Repr

namespace MergeVia

/-- The name of the member in documents. -/
def name : MergeVia → String
  | .adder => "adder"
  | .getter => "getter"

/-- The member with the name. -/
def ofName? (name : String) : Option MergeVia :=
  [MergeVia.adder, .getter].find? (·.name == name)

/-- A member from its name. -/
def ofJson? (v : Json) : Option MergeVia :=
  v.asTag?.bind ofName?

end MergeVia

namespace PropertyAction

/-- The name of an action in documents, without its member. -/
def name : PropertyAction → String
  | .assign => "ASSIGN"
  | .convertAssign => "CONVERT_ASSIGN"
  | .mergeAdd _ => "MERGE_ADD"
  | .replaceSet => "REPLACE_SET"

/-- Whether the action works element by element. -/
def isElementWise : PropertyAction → Bool
  | .mergeAdd _ | .replaceSet => true
  | .assign | .convertAssign => false

/-- The action as a value. -/
def toJson : PropertyAction → Json
  | .mergeAdd via => .obj [("MERGE_ADD", .obj [("via", .str via.name)])]
  | a => .str a.name

/-- An action from a value. -/
def ofJson? (v : Json) : Option PropertyAction :=
  match v with
  | .obj [("MERGE_ADD", .obj fields)] =>
    (Json.required MergeVia.ofJson? fields "via").map .mergeAdd
  | v =>
    match v.asTag? with
    | some "ASSIGN" => some .assign
    | some "CONVERT_ASSIGN" => some .convertAssign
    | some "REPLACE_SET" => some .replaceSet
    | _ => none

end PropertyAction

namespace CorrelatedProperty

/-- Whether both properties are collections, so that elements are written. -/
def isCollectionPair (p : CorrelatedProperty) : Bool :=
  p.source.isCollection && p.target.isCollection

/-- Whether the target keeps the order of the source. A container that is not known is taken to. -/
def keepsSourceOrder (p : CorrelatedProperty) : Bool :=
  match p.target.valueType.container? with
  | some c => c.keepsOrder
  | none => true

/-- How a collection is written. -/
def collectionAction? (strategy : CollectionStrategy) (target : Property) : Option PropertyAction :=
  match target.hasSetter, target.hasAdder with
  | true, true => if strategy = .preferAdder then some (.mergeAdd .adder) else some .replaceSet
  | true, false => some .replaceSet
  | false, true => some (.mergeAdd .adder)
  | false, false => if target.isReadable then some (.mergeAdd .getter) else none

/-- How the target property is written, if it can be. `converts` tells whether the values, or the
elements, need to be converted. -/
def action? (strategy : CollectionStrategy) (p : CorrelatedProperty) (converts : Bool) :
    Option PropertyAction :=
  if p.isCollectionPair then collectionAction? strategy p.target
  else if p.target.hasSetter then some (if converts then .convertAssign else .assign)
  else none

/-- The events of choosing an action. -/
def actionEvents (strategy : CollectionStrategy) (updatesTarget : Bool) (p : CorrelatedProperty) :
    List Event :=
  let property := ("property", FieldValue.text p.target.name)
  if p.isCollectionPair then
    match collectionAction? strategy p.target with
    | none => [⟨.debug, "Target collection is not writable; skipped", [property]⟩]
    | some action =>
      (if p.keepsSourceOrder then []
        else [⟨.warn, "Target collection does not keep insertion order; source order is lost",
          [property, ("collection", .text p.target.valueType.text)]⟩]) ++
      [⟨.debug, "Selected collection action", [property, ("strategy", .text strategy.name),
        ("existing_target", .flag updatesTarget),
        ("action", .text action.name)]⟩]
  else if p.target.hasSetter then []
  else [⟨.debug, "Target property has no setter; skipped", [property]⟩]

end CorrelatedProperty

end BeanMapping
