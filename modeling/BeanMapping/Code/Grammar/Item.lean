import BeanMapping.Code.Grammar.Statement

/-!
# Items of generated code

Functions, types, constants, modules, traits and implementations, with their attributes. Some items
are read that are no items of the language in force, such as a function without a body; those are
written as they were read.
-/

namespace BeanMapping.Code.Readers

open Grammar

/-! ## Functions -/

/-- The tokens after words that a function may begin with, from the first of which on each may be
missing. -/
def afterWords (words : List String) (ts : List Token) : List Token :=
  words.foldl (fun ts w => if beginWord [w] ts then ts.drop 1 else ts) ts

/-- Whether tokens begin with a function; in a foreign block it may be `safe`. -/
def beginFunction (allowsSafe : Bool) (ts : List Token) : Bool :=
  let ts := afterWords ["const", "async"] ts
  let ts := if allowsSafe && beginWord ["safe"] ts then ts.drop 1 else afterWords ["unsafe"] ts
  let ts := if beginWord ["extern"] ts then
      if beginText (ts.drop 1) then ts.drop 2 else ts.drop 1
    else ts
  beginWord ["fn"] ts

/-- The receiver of a method, or nothing. -/
def receiver? (r : Readers) : Grammar (Option (List Token)) :=
  attempt? do
    let reference ← optionally (beginMark "&") (mark "&" ++ optionally beginLifetime lifetime)
    let self ← word? ["mut"] ++ word ["self"]
    if reference.isEmpty then
      return self ++ (← optionally (beginMark ":") (mark ":" ++ r.typeTokens))
    return reference ++ self

/-- What a parameter of a function is. -/
inductive ParameterRole where
  | receiver
  | ordinary
  /-- It stands for any number and is the last. -/
  | variadic
deriving DecidableEq, Repr

/-- A parameter of a function. A type alone may stand where a path with generic arguments begins it;
it is written with a pattern that binds nothing. -/
def functionInput (r : Readers) : Grammar (ParameterRole × List Token) := do
  if beginMark "..." (← get) then return (.variadic, ← mark "...")
  match ← r.receiver? with
  | some tokens => return (.receiver, tokens)
  | none =>
    let ts ← get
    if beginIdentifier ts && beginMark "<" (ts.drop 1) then
      return (.ordinary, [.word "_"] ++ Token.marks ":" ++ (← r.typeTokens))
    let start ← r.patternTokens ++ mark ":"
    if beginMark "..." (← get) then return (.variadic, start ++ (← mark "..."))
    return (.ordinary, start ++ (← r.typeTokens))

/-- The parameters of a function up to the end, at most so many. Only the first is a receiver. -/
def functionInputs (r : Readers) (isFirst : Bool) : Nat → Written
  | 0 => return []
  | fuel + 1 => do
    if (← get).isEmpty then return []
    let attributes ← r.outerAttributes
    let (role, tokens) ← r.functionInput
    guard (isFirst || role != .receiver)
    if (← get).isEmpty then return attributes ++ tokens
    let comma ← mark ","
    let others ← if role == .variadic then pure [] else r.functionInputs false fuel
    return attributes ++ tokens ++ comma ++ others

/-- The head of a function; in a foreign block it may be `safe`. -/
def signature (r : Readers) (allowsSafe : Bool) : Written := do
  let start ← word? ["const"] ++ word? ["async"]
  let mode ← word? ["unsafe"]
  let safe ← if allowsSafe && mode.isEmpty then word? ["safe"] else pure []
  return start ++ mode ++ safe ++ (← convention? ++ word ["fn"] ++ identifier ++ r.parameters ++
    group .round (do r.functionInputs true ((← remaining) + 1)) ++
    optionally (beginMark "->") (mark "->" ++ r.typeTokens) ++ r.conditions)

/-- A function with its body. Without a body it is written as it was read. -/
def function (r : Readers) : Grammar (Option (List Token)) := do
  let head ← visibility ++ r.signature false
  if beginMark ";" (← get) then
    let _ ← next
    return none
  return some (head ++ (← r.block))

/-! ## Constants and uses -/

/-- The value of a constant, or nothing. -/
def value? (r : Readers) : Written :=
  optionally (beginMark "=") (mark "=" ++ r.expression)

/-- A static variable. Without a type or a value it is written as it was read. -/
def staticItem (r : Readers) : Grammar (Option (List Token)) := do
  let start ← visibility ++ word ["static"] ++ word? ["mut"] ++ identifier
  let type ← if beginMark "=" (← get) then pure [] else mark ":" ++ r.typeTokens
  let value ← r.value?
  let ending ← mark ";"
  return if type.isEmpty || value.isEmpty then none else some (start ++ type ++ value ++ ending)

/-- A constant after its visibility, and whether it has generic parameters, and whether it has a
value. -/
def constantAfter (r : Readers) : Grammar (List Token × Bool × Bool) := do
  let start ← word ["const"] ++ oneIf fun ts => beginIdentifier ts || beginWord ["_"] ts
  let hasParameters := beginMark "<" (← get)
  let parameters ← r.parameters
  let type ← mark ":" ++ r.typeTokens
  let value ← r.value?
  let hasConditions := beginWord ["where"] (← get)
  let conditions ← r.conditions
  let ending ← mark ";"
  return (start ++ parameters ++ type ++ value ++ conditions ++ ending,
    hasParameters || hasConditions, !value.isEmpty)

/-- A constant. With generic parameters or without a value it is written as it was read. -/
def constantItem (r : Readers) : Grammar (Option (List Token)) := do
  let start ← visibility
  let (tokens, isGeneric, hasValue) ← r.constantAfter
  return if isGeneric || !hasValue then none else some (start ++ tokens)

/-- What is used: a name, everything, or several of them in braces, at most so deep. Several may begin
with `::` only where nothing stands before the braces, and then the whole is written as it was
read. -/
def useTree : Nat → Bool → Grammar (Option (List Token))
  | 0, _ => failure
  | depth + 1, allowsRoot => do
    let ts ← get
    if beginMark "*" ts then return some (← mark "*")
    if beginGroup .curly ts then
      let items ← inside .curly <| pieces "," (·.isEmpty) do
        let root ← if allowsRoot then mark? "::" else pure []
        let tree ← useTree depth (allowsRoot && root.isEmpty)
        return if root.isEmpty then tree else none
      return if items.all (·.1.isSome) then
        some [.group .curly (items.flatMap fun i => i.1.getD [] ++ i.2)] else none
    let name ← oneIf fun ts => beginIdentifier ts || beginWord ["self", "super", "crate", "try"] ts
    let ts ← get
    if beginMark "::" ts then
      let colons ← mark "::"
      return (← useTree depth false).map (name ++ colons ++ ·)
    if beginWord ["as"] ts then
      return some (name ++ (← anyWord ++
        oneIf fun ts => beginIdentifier ts || beginWord ["_"] ts))
    return some name

/-- A use of names from elsewhere. -/
def useItem : Grammar (Option (List Token)) := do
  let start ← visibility ++ word ["use"]
  let root ← mark? "::"
  let tree ← useTree (Token.listSize (← get) + 1) root.isEmpty
  let ending ← mark ";"
  return tree.map (start ++ root ++ · ++ ending)

/-- A foreign crate, with the name that it is known by. -/
def externCrate : Written :=
  visibility ++ word ["extern"] ++ word ["crate"] ++
    oneIf (fun ts => beginIdentifier ts || beginWord ["self"] ts) ++
    optionally (beginWord ["as"]) (anyWord ++
      oneIf fun ts => beginIdentifier ts || beginWord ["_"] ts) ++ mark ";"

/-! ## Types -/

/-- The definition of a type that was read. -/
structure TypeDefinition where
  tokens : List Token
  /-- Whether a colon with bounds stands in it. -/
  hasBounds : Bool
  /-- Whether the type is given. -/
  isGiven : Bool

/-- Where the definition of a type says what is asked of its parameters. -/
inductive ConditionsPlace where
  /-- Before the type that is given. -/
  | before
  | after
  /-- Before it, or else after it. -/
  | either
deriving DecidableEq, Repr

/-- The definition of a type after its visibility. -/
def typeDefinition (r : Readers) (place : ConditionsPlace) : Grammar TypeDefinition := do
  let start ← word ["type"] ++ identifier ++ r.parameters
  let hasBounds := beginMark ":" (← get)
  let bounds ← boundsAfterColon (fun ts => beginWord ["where"] ts || beginOneOf ["=", ";"] ts)
    r.constBound
  let isEarly := place != .after && beginWord ["where"] (← get)
  let early ← if isEarly then r.conditions else pure []
  let given ← optionally (beginMark "=") (mark "=" ++ r.typeTokens)
  let late ← if place == .before || isEarly then pure [] else r.conditions
  let ending ← mark ";"
  return ⟨start ++ bounds ++ early ++ given ++ late ++ ending, hasBounds, !given.isEmpty⟩

/-- A name for a type. With bounds or without a type it is written as it was read. -/
def typeItem (r : Readers) : Grammar (Option (List Token)) := do
  let start ← visibility
  let d ← r.typeDefinition .before
  return if d.hasBounds || !d.isGiven then none else some (start ++ d.tokens)

/-- Fields without names. -/
def tupleFields (r : Readers) : Written :=
  group .round (commaList (r.outerAttributes ++ visibility ++ r.typeTokens))

/-- Fields with names, at most so deep in one another. A field that has the fields of others in place
of a name is written as it was read. -/
def recordFields (r : Readers) : Nat → Written
  | 0 => failure
  | depth + 1 => group .curly <| commaList do
    let start ← r.outerAttributes ++ visibility
    let isOpen := beginWord ["_"] (← get)
    let name ← if isOpen then anyWord ++ mark ":" else identifier ++ mark ":"
    let ts ← get
    let isNested := isOpen && (beginWord ["struct"] ts ||
      (beginWord ["union"] ts && beginGroup .curly (ts.drop 1)))
    let type ← if isNested then verbatim (anyWord ++ r.recordFields depth) else r.typeTokens
    return start ++ name ++ type

/-- Fields with names. -/
def namedFields (r : Readers) : Written := do
  r.recordFields (Token.listSize (← get) + 1)

/-- A structure. -/
def structItem (r : Readers) : Written := do
  let start ← visibility ++ word ["struct"] ++ identifier ++ r.parameters
  if beginGroup .round (← get) then
    return start ++ (← r.tupleFields ++ r.conditions ++ mark ";")
  let conditions ← r.conditions
  if beginGroup .curly (← get) then return start ++ conditions ++ (← r.namedFields)
  return start ++ conditions ++ (← mark ";")

/-- A variant of an enumeration, of which the visibility vanishes. -/
def variant (r : Readers) : Written := do
  let attributes ← r.outerAttributes
  let _ ← visibility
  let name ← identifier
  let ts ← get
  let fields ←
    if beginGroup .curly ts then r.namedFields
    else optionally (beginGroup .round) r.tupleFields
  return attributes ++ name ++ fields ++ (← r.value?)

/-- An enumeration. -/
def enumItem (r : Readers) : Written :=
  visibility ++ word ["enum"] ++ identifier ++ r.parameters ++ r.conditions ++
    group .curly (commaList r.variant)

/-- A union. -/
def unionItem (r : Readers) : Written :=
  visibility ++ word ["union"] ++ identifier ++ r.parameters ++ r.conditions ++ r.namedFields

/-! ## Macros -/

/-- A call of a macro as an item, and the name that it may define. -/
def macroCall : Written := do
  let start ← plainPath ++ mark "!" ++
    optionally (fun ts => beginIdentifier ts || beginWord ["try"] ts) anyWord
  let isBraced := beginGroup .curly (← get)
  let body ← anyGroup
  return start ++ body ++ (← if isBraced then pure [] else mark ";")

/-- A call of a macro in a trait, an implementation or a foreign block. -/
def memberMacroCall : Written := do
  let start ← plainPath ++ mark "!"
  let isBraced := beginGroup .curly (← get)
  let body ← anyGroup
  return start ++ body ++ (← if isBraced then pure [] else mark ";")

/-- Whether tokens begin with a call of a macro. -/
def beginMacroCall (ts : List Token) : Bool :=
  beginIdentifier ts || beginWord ["self", "super", "crate"] ts || beginMark "::" ts

/-- The definition of a macro by a single rule. -/
def macroDefinition : Written := do
  let start ← visibility ++ word ["macro"] ++ identifier ++
    optionally (beginGroup .round) anyGroup
  if beginGroup .curly (← get) then return start ++ (← anyGroup) else failure

/-! ## Members -/

/-- The tokens after the visibility that they begin with. -/
def afterVisibility? (ts : List Token) : Option (List Token) :=
  (visibility.run ts).map (·.2)

/-- What stands in a foreign block. -/
def foreignItem (r : Readers) : Written :=
  orVerbatim do
    let attributes ← r.outerAttributes
    let start ← visibility
    let ts ← get
    if beginFunction true ts then
      let isSafe := beginWord ["safe"] (afterWords ["const", "async"] ts)
      let head ← r.signature true
      if beginGroup .curly (← get) then
        let _ ← r.block
        return none
      let ending ← mark ";"
      return if isSafe then none else some (attributes ++ start ++ head ++ ending)
    if beginWord ["static"] ts || (beginWord ["unsafe", "safe"] ts &&
        beginWord ["static"] (ts.drop 1)) then
      let mode ← word? ["unsafe", "safe"]
      let tokens ← word ["static"] ++ word? ["mut"] ++ identifier ++ mark ":" ++ r.typeTokens
      let value ← r.value?
      let ending ← mark ";"
      return if mode.isEmpty && value.isEmpty then some (attributes ++ start ++ tokens ++ ending)
        else none
    if beginWord ["type"] ts then
      let d ← r.typeDefinition .either
      return if d.hasBounds || d.isGiven then none else some (attributes ++ start ++ d.tokens)
    guard (start.isEmpty && beginMacroCall ts)
    return some (attributes ++ (← memberMacroCall))

/-- What stands in a trait. With a visibility or as a default it is written as it was read. -/
def traitMember (r : Readers) : Written :=
  orVerbatim do
    let attributes ← r.outerAttributes
    let start ← visibility ++ word? ["default"]
    let ts ← get
    let plain (tokens : List Token) : Option (List Token) :=
      if start.isEmpty then some (attributes ++ tokens) else none
    if beginFunction false ts then
      let head ← r.signature false
      let body ← if beginGroup .curly (← get) then r.block else mark ";"
      return plain (head ++ body)
    if beginWord ["const"] ts then
      let (tokens, isGeneric, _) ← r.constantAfter
      return if isGeneric then none else plain tokens
    if beginWord ["type"] ts then return plain (← r.typeDefinition .after).tokens
    guard (start.isEmpty && beginMacroCall ts)
    return some (attributes ++ (← memberMacroCall))

/-- What stands in an implementation. -/
def implMember (r : Readers) : Written :=
  orVerbatim do
    let attributes ← r.outerAttributes
    let seen ← visibility
    let default ← optionally (fun ts => beginWord ["default"] ts && !beginMark "!" (ts.drop 1))
      anyWord
    let start := seen ++ default
    let ts ← get
    if beginFunction false ts then
      let head ← r.signature false
      if beginMark ";" (← get) then
        let _ ← next
        return none
      return some (attributes ++ start ++ head ++ (← r.block))
    if beginWord ["const"] ts then
      let (tokens, isGeneric, hasValue) ← r.constantAfter
      return if isGeneric || !hasValue then none else some (attributes ++ start ++ tokens)
    if beginWord ["type"] ts then
      let d ← r.typeDefinition .after
      return if d.hasBounds || !d.isGiven then none else some (attributes ++ start ++ d.tokens)
    guard (start.isEmpty && beginMacroCall ts)
    return some (attributes ++ (← memberMacroCall))

/-- Members in braces, with the attributes of what they stand in. -/
def members (r : Readers) (member : Written) : Written :=
  group .curly (r.innerAttributes ++ toEnd member)

/-! ## Modules, traits and implementations -/

/-- A block of foreign items. -/
def foreignBlock (r : Readers) : Written :=
  word? ["unsafe"] ++ word ["extern"] ++ optionally beginText literal ++ r.members r.foreignItem

/-- A module. -/
def moduleItem (r : Readers) : Written := do
  let start ← visibility ++ word? ["unsafe"] ++ word ["mod"] ++
    oneIf fun ts => beginIdentifier ts || beginWord ["try"] ts
  if beginMark ";" (← get) then return start ++ (← mark ";")
  return start ++ (← r.members r.item)

/-- A trait, or a name for several, which is neither `unsafe` nor `auto`. -/
def traitItem (r : Readers) : Written := do
  let seen ← visibility
  let mode ← word? ["unsafe"] ++ word? ["auto"]
  let start ← word ["trait"] ++ identifier ++ r.parameters
  if beginMark "=" (← get) then
    guard mode.isEmpty
    return seen ++ start ++ (← mark "=" ++
      chain "+" (fun ts => beginWord ["where"] ts || beginMark ";" ts) r.plainBound ++
      r.conditions ++ mark ";")
  return seen ++ mode ++ start ++ (← boundsAfterColon
      (fun ts => beginWord ["where"] ts || beginGroup .curly ts) r.constBound ++
    r.conditions ++ r.members r.traitMember)

/-- An implementation. With a visibility, for constant code, or of something that is no path, it is
written as it was read. -/
def implItem (r : Readers) : Grammar (Option (List Token)) := do
  let seen ← visibility
  let start ← word? ["default"] ++ word? ["unsafe"] ++ word ["impl"]
  let parameters ← if beginParameters (← get) then r.parameters else pure []
  let ts ← get
  let isConst := beginWord ["const"] ts || (beginMark "?" ts && beginWord ["const"] (ts.drop 1))
  if isConst then
    let _ ← mark? "?" ++ word ["const"]
  let before ← get
  let negation ← optionally (fun ts => beginMark "!" ts && !beginGroup .curly (ts.drop 1)) (mark "!")
  let first ← r.type true
  let isFor := beginWord ["for"] (← get)
  let subject ←
    if isFor then pure (negation ++ first.tokens) ++ anyWord ++ r.typeTokens
    else if negation.isEmpty then pure first.tokens
    else takenSince before
  let rest ← r.conditions ++ r.members r.implMember
  let isPath := first.shape == .name || first.shape == .path
  return if !seen.isEmpty || isConst || (isFor && !isPath) then none
    else some (start ++ parameters ++ subject ++ rest)

/-! ## All items -/

/-- An item after its attributes, chosen by what follows its visibility. -/
def itemAfterAttributes (r : Readers) : Grammar (Option (List Token)) := do
  let start ← get
  let ts ← afterVisibility? start
  let second := ts.drop 1
  let written (read : Written) : Grammar (Option (List Token)) := do return some (← read)
  if beginFunction false ts then r.function
  else if beginWord ["extern"] ts then
    if beginWord ["crate"] second then written externCrate else written r.foreignBlock
  else if beginWord ["use"] ts then useItem
  else if beginWord ["static"] ts then r.staticItem
  else if beginWord ["const"] ts then r.constantItem
  else if beginWord ["unsafe"] ts && beginWord ["extern"] second then written r.foreignBlock
  else if beginWord ["unsafe"] ts && beginWord ["impl"] second then r.implItem
  else if beginWord ["unsafe"] ts && beginWord ["mod"] second then written r.moduleItem
  else if beginWord ["unsafe"] ts then written r.traitItem
  else if beginWord ["mod"] ts then written r.moduleItem
  else if beginWord ["type"] ts then r.typeItem
  else if beginWord ["struct"] ts then written r.structItem
  else if beginWord ["enum"] ts then written r.enumItem
  else if beginWord ["union"] ts && beginIdentifier second then written r.unionItem
  else if beginWord ["trait"] ts || (beginWord ["auto"] ts && beginWord ["trait"] second) then
    written r.traitItem
  else if beginWord ["impl"] ts || (beginWord ["default"] ts && !beginMark "!" second) then r.implItem
  else if beginWord ["macro"] ts then
    let _ ← macroDefinition
    return none
  else if ts.length == start.length && beginMacroCall ts then written macroCall
  else failure

/-- An item with its attributes. -/
def itemWith (r : Readers) : Written :=
  orVerbatim do
    let attributes ← r.outerAttributes
    return (← r.itemAfterAttributes).map (attributes ++ ·)

end BeanMapping.Code.Readers
