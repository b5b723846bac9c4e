import BeanMapping.Config
import BeanMapping.Event
import BeanMapping.Inflection
import BeanMapping.Method
import BeanMapping.Shape

/-!
# Correlation

Which property of a source writes which property of a target. Properties of one name belong
together; a collection may also belong to one that is named after a singular of it, or of whose name
its own is a singular. Each property of either side is used at most once.

The pairs are found in two passes over the source, of which the configuration says which comes first.
A pass adds claims of target properties; what an earlier claim took is out of reach of a later one.
-/

namespace BeanMapping

/-- How two properties were found to belong together. -/
inductive MatchKind where
  /-- They have one name. -/
  | exact
  /-- The one is named after a singular of the other, of this tier. -/
  | singularized (tier : Nat)
deriving DecidableEq, Repr

/-- A source property with the target property that it writes. -/
structure CorrelatedProperty where
  source : Property
  target : Property
  matchKind : MatchKind
deriving DecidableEq, Repr

namespace MatchKind

/-- The kind as a value. -/
def toJson : MatchKind → Json
  | .exact => .str "Exact"
  | .singularized tier => .obj [("Singularized", .obj [("tier", .nat tier)])]

/-- The kind with its parts, for a log. -/
def dump : MatchKind → String
  | .exact => "Exact"
  | .singularized tier => "Singularized \x7b tier: " ++ toString tier ++ " \x7d"

end MatchKind

/-- The pair as a record. -/
def CorrelatedProperty.toJson (p : CorrelatedProperty) : Json :=
  .obj [("source", p.source.toJson), ("target", p.target.toJson),
    ("match_kind", p.matchKind.toJson)]

namespace Correlation

/-- A source property and the target property that it takes, by their places. -/
structure Claim where
  source : Nat
  target : Nat
  kind : MatchKind
deriving DecidableEq, Repr

/-- What decides a pass. -/
inductive Pass where
  | exact
  | heuristic
deriving DecidableEq, Repr

/-- Whether a claim takes the target property at a place. -/
def isClaimed (claims : List Claim) (target : Nat) : Bool :=
  claims.any (·.target == target)

/-- Whether the source property at a place has a claim. -/
def isPaired (claims : List Claim) (source : Nat) : Bool :=
  claims.any (·.source == source)

/-- The tier at which two names belong together: the smaller one of the two directions. -/
def tier? (i : Inflector) (source target : String) : Option Nat :=
  match i.tier? source target, i.tier? target source with
  | some a, some b => some (min a b)
  | some a, none => some a
  | none, b => b

/-- The first free target property with the name. -/
def exactMatch? (targets : List Property) (claims : List Claim) (name : String) : Option Nat :=
  (targets.zipIdx.find? fun (t, place) => !isClaimed claims place && t.name == name).map (·.2)

/-- The tier and the place of each free collection of another name that belongs to a source
property. -/
def scored (i : Inflector) (targets : List Property) (claims : List Claim) (source : Property) :
    List (Nat × Nat) :=
  targets.zipIdx.filterMap fun (t, place) =>
    if !isClaimed claims place && t.isCollection && t.name != source.name then
      (tier? i source.name t.name).map (·, place)
    else none

/-- The free collection that belongs to a source property at the least tier. Of several, a target
property of the same name settles it. -/
def heuristicMatch (i : Inflector) (targets : List Property) (claims : List Claim)
    (source : Property) : Except Fault (Option (Nat × MatchKind)) :=
  if source.isCollection then
    let scores := scored i targets claims source
    match (scores.map (·.1)).min? with
    | none => .ok none
    | some least =>
      match (scores.filter (·.1 == least)).map (·.2) with
      | [place] => .ok (some (place, .singularized least))
      | places =>
        match exactMatch? targets claims source.name with
        | some place => .ok (some (place, .exact))
        | none =>
          .error (.ambiguousCorrelation source.name
            (places.filterMap fun place => targets[place]?.map (·.name)))
  else .ok none

/-- What a pass finds for a source property. -/
def passMatch (i : Inflector) (targets : List Property) (pass : Pass) (claims : List Claim)
    (source : Property) : Except Fault (Option (Nat × MatchKind)) :=
  match pass with
  | .exact => .ok ((exactMatch? targets claims source.name).map (·, .exact))
  | .heuristic => heuristicMatch i targets claims source

/-- The claims after one source property of a pass. -/
def claimNext (i : Inflector) (targets : List Property) (pass : Pass) (claims : List Claim)
    (source : Property × Nat) : Except Fault (List Claim) :=
  if isPaired claims source.2 then .ok claims
  else
    match passMatch i targets pass claims source.1 with
    | .error fault => .error fault
    | .ok none => .ok claims
    | .ok (some (place, kind)) => .ok (claims ++ [⟨source.2, place, kind⟩])

/-- The claims after a pass over the source. -/
def runPass (i : Inflector) (sources targets : List Property) (claims : List Claim) (pass : Pass) :
    Except Fault (List Claim) :=
  sources.zipIdx.foldlM (claimNext i targets pass) claims

/-- The passes in their order. -/
def passes : NamePrecedence → List Pass
  | .exactName => [.exact, .heuristic]
  | .singularized => [.heuristic, .exact]

/-- The target properties that may be written to. -/
def targetsOf (o : PropertyOptions) (target : BeanShape) : List Property :=
  target.properties.filter fun p => !o.isIgnored p.name

/-- The pair of the source property at a place, if it has a claim. -/
def pairOf? (targets : List Property) (claims : List Claim) (source : Property × Nat) :
    Option CorrelatedProperty := do
  let claim ← claims.find? (·.source == source.2)
  let target ← targets[claim.target]?
  return ⟨source.1, target, claim.kind⟩

/-- All claims. -/
def claims (i : Inflector) (precedence : NamePrecedence) (source target : BeanShape)
    (o : PropertyOptions) : Except Fault (List Claim) :=
  (passes precedence).foldlM (runPass i source.readable (targetsOf o target)) []

/-- The pairs of a source and a target, in the order of the source. -/
def correlate (i : Inflector) (precedence : NamePrecedence) (source target : BeanShape)
    (o : PropertyOptions) : Except Fault (List CorrelatedProperty) :=
  match claims i precedence source target o with
  | .error fault => .error fault
  | .ok claims => .ok (source.readable.zipIdx.filterMap (pairOf? (targetsOf o target) claims))

/-! ## Events -/

/-- The event of a source property: the pair that it is in, or that it is in none. -/
def pairEvent (source target : BeanShape) (name : String) : Option CorrelatedProperty → Event
  | some pair =>
    ⟨.debug, "Correlated property", [("property", .text name), ("target", .text pair.target.name),
      ("match_kind", .text pair.matchKind.dump)]⟩
  | none =>
    ⟨.debug, "No target property correlates; property left unmapped",
      [("source_type", .text source.typeName.text), ("target_type", .text target.typeName.text),
        ("property", .text name)]⟩

/-- The events of a correlation that is not ambiguous. -/
def events (i : Inflector) (precedence : NamePrecedence) (source target : BeanShape)
    (o : PropertyOptions) : List Event :=
  match claims i precedence source target o with
  | .error _ => []
  | .ok claims =>
    source.readable.zipIdx.map fun s =>
      pairEvent source target s.1.name (pairOf? (targetsOf o target) claims s)

end Correlation

end BeanMapping
