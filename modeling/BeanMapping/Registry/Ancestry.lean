import BeanMapping.Registry

/-!
# Supertypes of supertypes

The ancestors of a type are the names that its supertypes lead to, the nearest first. They are found
layer by layer: each layer holds the names that the layer before it leads to and that no layer
before has held. A name without a description leads nowhere.

A type may be used where another is expected when it is that type or has it as an ancestor.
-/

namespace BeanMapping.Registry

/-- The direct supertypes of a type, as its description lists them. -/
def parents (r : Registry) (t : TypeName) : List TypeName :=
  match r.describe t with
  | some d => d.supertypes
  | none => []

/-- The layers from one on: `frontier` holds the candidates of the next layer, `seen` the names of
all layers before it. -/
def layers (r : Registry) : Nat → List TypeName → List TypeName → List TypeName
  | 0, _, _ => []
  | fuel + 1, seen, frontier =>
    match frontier.eraseDups.filter (fun t => !seen.contains t) with
    | [] => []
    | layer => layer ++ r.layers fuel (seen ++ layer) (layer.flatMap r.parents)

/-- All names that supertypes lead to, the nearest first. Every layer but the last holds a described
type, so there is at most one layer more than there are described types. -/
def ancestors (r : Registry) (t : TypeName) : List TypeName :=
  r.layers (r.size + 1) [] (r.parents t)

/-- Whether a value of the first type may be used where the second is expected. -/
def isAssignable (r : Registry) (t u : TypeName) : Bool :=
  t == u || (r.ancestors t).contains u

end BeanMapping.Registry
