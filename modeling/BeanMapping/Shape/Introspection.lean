import BeanMapping.Event
import BeanMapping.Inflection
import BeanMapping.Shape
import BeanMapping.Text.SnakeCase

/-!
# Introspection

How the shape of a type follows from its description. The name of a member, in snake case, says what
it does: a member without a parameter reads (`get_x`, `is_x` for truth values, or just `x`), one with
a parameter writes (`set_x`) or appends (`add_x`).

* Each name that a getter or a setter brings up is a property, with its first getter and its first
  setter. A setter whose type is not the getter's is left out.
* An adder belongs to the collection with its element type of whose name it carries the most
  specific singular. One that finds no collection makes a property of its own, unless its name is
  taken.

`shapeOf` builds a shape, `introspect` looks into a cache first, and the events of both stand beside
them.
-/

namespace BeanMapping

/-- What a member does to its property. -/
inductive AccessorRole where
  | getter
  | setter
  | adder
deriving DecidableEq, Repr

/-- A member as an accessor: the name of its property, or the singular that an adder carries, and
the type that it reads or takes. -/
structure AccessorUse where
  role : AccessorRole
  name : String
  type : TypeName
  accessor : Accessor
deriving DecidableEq, Repr

/-- The text after a start that it has. -/
def textAfter? (start text : String) : Option String :=
  if start.toList.isPrefixOf text.toList then
    some (String.ofList (text.toList.drop start.length))
  else none

/-- The property that a reading member names. -/
def getterProperty (name : String) (returns : TypeName) : String :=
  match textAfter? "get_" name with
  | some rest => rest
  | none =>
    if returns.text = "bool" ∨ returns.text = "Boolean" then (textAfter? "is_" name).getD name
    else name

/-- The role and the property that a writing member names. -/
def writerProperty? (name : String) : Option (AccessorRole × String) :=
  match textAfter? "set_" name with
  | some rest => some (.setter, rest)
  | none => (textAfter? "add_" name).map (.adder, ·)

namespace MemberDescriptor

/-- The member as an accessor, if it is one. -/
def use? (m : MemberDescriptor) : Option AccessorUse :=
  let name := Text.snakeCase m.name
  match m.parameter, m.returns with
  | none, some returns =>
    some ⟨.getter, getterProperty name returns, returns, ⟨m.name, m.failures⟩⟩
  | some parameter, _ =>
    (writerProperty? name).map fun (role, property) =>
      ⟨role, property, parameter, ⟨m.name, m.failures⟩⟩
  | none, none => none

end MemberDescriptor

namespace Introspection

/-! ## Getters and setters -/

/-- The first use of a property in a role. -/
def firstUse? (uses : List AccessorUse) (role : AccessorRole) (property : String) :
    Option AccessorUse :=
  uses.find? fun u => u.role == role && u.name == property

/-- The properties that getters and setters name, in the order in which they come up. -/
def propertyNames (uses : List AccessorUse) : List String :=
  ((uses.filter fun u => u.role != .adder).map (·.name)).eraseDups

/-- A property of one value type with its getter and its setter. -/
def propertyOf (name : String) (type : TypeName) (getter setter : Option AccessorUse) : Property :=
  ⟨name, type, type.element?, { getter := getter.map (·.accessor), setter := setter.map (·.accessor) }⟩

/-- The property of a name: its value type is the getter's, or else the setter's, and a setter of
another type than the getter's is left out. -/
def property? (uses : List AccessorUse) (name : String) : Option Property :=
  match firstUse? uses .getter name, firstUse? uses .setter name with
  | some g, some s =>
    some (if g.type = s.type then propertyOf name g.type (some g) (some s)
      else propertyOf name g.type (some g) none)
  | some g, none => some (propertyOf name g.type (some g) none)
  | none, some s => some (propertyOf name s.type none (some s))
  | none, none => none

/-! ## Adders -/

/-- The entry of the least tier; of several, the first. -/
def leastTier {α : Type} : List (Nat × α) → Option (Nat × α)
  | [] => none
  | x :: rest =>
    match leastTier rest with
    | none => some x
    | some y => if y.1 < x.1 then some y else some x

/-- The tier and the place of each adder that fits a collection: it takes the elements and carries
one of the singulars of the collection's name. -/
def fittingAdders (i : Inflector) (p : Property) (adders : List AccessorUse) : List (Nat × Nat) :=
  adders.zipIdx.filterMap fun (a, place) =>
    if p.elementType = some a.type then (i.tier? p.name a.name).map (·, place) else none

/-- A property, and the adder that it gets with its tier. -/
structure Attachment where
  property : Property
  adder : Option (Nat × AccessorUse)

/-- The property with its adder. -/
def Attachment.result (a : Attachment) : Property :=
  match a.adder with
  | none => a.property
  | some (_, use) =>
    { a.property with accessors := { a.property.accessors with adder := some use.accessor } }

/-- Gives each collection in turn the fitting adder of the least tier that no collection before it
has taken; the adders that are left over come second. -/
def attachAdders (i : Inflector) : List Property → List AccessorUse → List Attachment × List AccessorUse
  | [], adders => ([], adders)
  | p :: rest, adders =>
    match leastTier (fittingAdders i p adders) with
    | none =>
      let (attached, left) := attachAdders i rest adders
      (⟨p, none⟩ :: attached, left)
    | some (tier, place) =>
      let (attached, left) := attachAdders i rest (adders.eraseIdx place)
      (⟨p, adders[place]?.map (tier, ·)⟩ :: attached, left)

/-- The property of an adder that found no collection: a vector of what it takes. -/
def adderProperty (a : AccessorUse) : Property :=
  ⟨a.name, .vecOf a.type, some a.type, { adder := some a.accessor }⟩

/-- Adds a property for each adder whose name is not taken. -/
def adoptAdders (properties : List Property) : List AccessorUse → List Property
  | [] => properties
  | a :: rest =>
    if properties.any (·.name == a.name) then adoptAdders properties rest
    else adoptAdders (properties ++ [adderProperty a]) rest

/-- The adders whose name is taken. -/
def collidingAdders (properties : List Property) : List AccessorUse → List AccessorUse
  | [] => []
  | a :: rest =>
    if properties.any (·.name == a.name) then a :: collidingAdders properties rest
    else collidingAdders (properties ++ [adderProperty a]) rest

/-! ## Shapes -/

/-- The accessors of a description, in the order of its members. -/
def usesOf (d : TypeDescriptor) : List AccessorUse :=
  d.members.filterMap (·.use?)

/-- The adders of a description. -/
def addersOf (d : TypeDescriptor) : List AccessorUse :=
  (usesOf d).filter fun u => u.role == .adder

/-- The properties of a description before adders are attached. -/
def draftsOf (d : TypeDescriptor) : List Property :=
  (propertyNames (usesOf d)).filterMap (property? (usesOf d))

/-- The properties of a bean. -/
def propertiesOf (i : Inflector) (d : TypeDescriptor) : List Property :=
  let (attached, left) := attachAdders i (draftsOf d) (addersOf d)
  adoptAdders (attached.map (·.result)) left

/-- The shape of a described type. Only a bean has properties. -/
def describedShape (i : Inflector) (d : TypeDescriptor) : BeanShape :=
  ⟨d.name, if d.isBean then propertiesOf i d else []⟩

/-- The shape of a type. A collection needs no description. -/
def shapeOf (r : Registry) (i : Inflector) (t : TypeName) : Except Fault BeanShape :=
  match r.describe t with
  | some d => .ok (describedShape i d)
  | none => if t.isCollection then .ok ⟨t, []⟩ else .error (.unknownType t)

/-- The shape of a type: the one in the cache, or else a new one. -/
def introspect (r : Registry) (i : Inflector) (c : ShapeCache) (t : TypeName) :
    Except Fault BeanShape :=
  match c.find? t with
  | some s => .ok s
  | none => shapeOf r i t

/-- The cache after a type was introspected. -/
def cacheAfter (r : Registry) (i : Inflector) (c : ShapeCache) (t : TypeName) : ShapeCache :=
  match introspect r i c t with
  | .ok s => c.insertIfAbsent s
  | .error _ => c

/-- The shape of a type that is written to: something of it must be writable, unless it is a
collection. -/
def writable? (t : TypeName) (s : BeanShape) : Except Fault BeanShape :=
  if s.isWritable || t.isCollection then .ok s
  else .error (.noMutationPoints t "no setter, adder or getter-only collection found")

/-- The shape of a type that is written to. -/
def introspectTarget (r : Registry) (i : Inflector) (c : ShapeCache) (t : TypeName) :
    Except Fault BeanShape :=
  introspect r i c t >>= writable? t

/-! ## Events -/

/-- The events of the members: those that are no accessors, and the getters and setters that come
after the first of their property. `before` holds the accessors of the members before. -/
def memberEvents (owner : TypeName) (before : List AccessorUse) :
    List MemberDescriptor → List Event
  | [] => []
  | m :: rest =>
    match m.use? with
    | none =>
      ⟨.trace, "Member is not an accessor", [("type_name", .text owner.text),
        ("member", .text m.name)]⟩ :: memberEvents owner before rest
    | some u =>
      (if u.role != .adder ∧ (firstUse? before u.role u.name).isSome then
        [⟨.trace, "Duplicate accessor ignored", [("member", .text m.name)]⟩]
      else []) ++ memberEvents owner (before ++ [u]) rest

/-- The event of a setter that is left out of its property. -/
def setterEvent? (owner : TypeName) (uses : List AccessorUse) (name : String) : Option Event :=
  match firstUse? uses .getter name, firstUse? uses .setter name with
  | some g, some s =>
    if g.type = s.type then none
    else some ⟨.warn, "Setter type differs from getter type; setter ignored",
      [("type_name", .text owner.text), ("property", .text name),
        ("getter_type", .text g.type.text), ("setter_type", .text s.type.text)]⟩
  | _, _ => none

/-- The event of an adder that a collection gets. -/
def Attachment.event? (a : Attachment) : Option Event :=
  a.adder.map fun (tier, use) =>
    ⟨.debug, "Attached adder", [("property", .text a.property.name),
      ("adder", .text use.accessor.member), ("tier", .count tier)]⟩

/-- The event of an adder whose name is taken. -/
def collisionEvent (owner : TypeName) (a : AccessorUse) : Event :=
  ⟨.warn, "Adder collides with an existing property of the same name; ignored",
    [("type_name", .text owner.text), ("adder", .text a.accessor.member)]⟩

/-- The events of building the properties of a bean. -/
def buildEvents (i : Inflector) (d : TypeDescriptor) : List Event :=
  let (attached, left) := attachAdders i (draftsOf d) (addersOf d)
  memberEvents d.name [] d.members ++
    (propertyNames (usesOf d)).filterMap (setterEvent? d.name (usesOf d)) ++
    attached.filterMap (·.event?) ++
    (collidingAdders (attached.map (·.result)) left).map (collisionEvent d.name)

/-- The events of introspecting a type. -/
def events (r : Registry) (i : Inflector) (c : ShapeCache) (t : TypeName) : List Event :=
  match c.find? t with
  | some _ => [⟨.trace, "Shape cache hit", [("type_name", .text t.text)]⟩]
  | none =>
    match shapeOf r i t with
    | .error _ => []
    | .ok s =>
      (match r.describe t with
        | some d => if d.isBean then buildEvents i d else []
        | none => []) ++
      [⟨.debug, "Introspected shape", [("type_name", .text t.text),
        ("properties", .count s.properties.length)]⟩]

end Introspection

end BeanMapping
