import BeanMapping.Code.Grammar.Reader

/-!
# Paths, generics and attributes

What types, expressions, patterns and items have in common. In an expression, generic arguments stand
after `::` only. Lifetimes are written before all other generic arguments and parameters; empty
generic parameters and an empty `where` vanish.
-/

namespace BeanMapping.Code

open Grammar

/-! ## Attributes -/

namespace Grammar

/-- The words that stand for a place in a path. -/
def places : List String := ["super", "self", "Self", "crate"]

/-- A segment of a path without generic arguments. -/
def plainSegment : Written :=
  oneIf fun ts => beginIdentifier ts || beginWord places ts

/-- A path without generic arguments. -/
def plainPath : Written :=
  mark? "::" ++ plainSegment ++ many (beginMark "::") (mark "::" ++ plainSegment)

/-- Who may see an item: `pub`, which a place in parentheses may follow. Other parentheses belong to
what comes after it. -/
def visibility : Written := do
  let start ← word? ["pub"]
  if start.isEmpty then return []
  match ← get with
  | .group .round [.word place] :: _ =>
    if ["crate", "self", "super"].contains place then return start ++ (← anyGroup) else return start
  | .group .round (.word "in" :: _) :: _ =>
    return start ++ (← group .round (word ["in"] ++ plainPath))
  | _ => return start

end Grammar

namespace Readers

/-- The value of an attribute, after `=`. -/
def attributeValue (r : Readers) : Written := do
  let ts ← get
  if beginMark "#" ts && beginGroup .square (ts.drop 1) then failure
  r.expression

/-- What stands in an attribute. -/
def attributeContent (r : Readers) : Written := do
  let path ← if beginWord ["unsafe"] (← get) then anyWord else plainPath
  let ts ← get
  if [Delimiter.round, .square, .curly].any (beginGroup · ts) then return path ++ (← anyGroup)
  if beginMark "=" ts && !beginOneOf ["==", "=>"] ts then
    return path ++ (← mark "=") ++ (← r.attributeValue)
  return path

/-- An attribute of what follows it. -/
def outerAttribute (r : Readers) : Written :=
  mark "#" ++ group .square r.attributeContent

/-- Attributes of what follows them. -/
def outerAttributes (r : Readers) : Written :=
  many (beginMark "#") r.outerAttribute

/-- Attributes of what they stand in. -/
def innerAttributes (r : Readers) : Written :=
  many (fun ts => beginMark "#" ts && beginMark "!" (ts.drop 1))
    (mark "#" ++ mark "!" ++ group .square r.attributeContent)

/-! ## Blocks -/

/-- A block without attributes. -/
def plainBlock (r : Readers) : Written :=
  group .curly r.statements

/-- A block that may begin with attributes. -/
def block (r : Readers) : Written :=
  group .curly (r.innerAttributes ++ r.statements)

/-! ## Generic arguments -/

/-- A constant among generic arguments: a literal, a name or a block. -/
def constant (r : Readers) : Written := do
  let ts ← get
  if beginLiteral ts then literal
  else if beginIdentifier ts then identifier
  else r.block

/-- Whether tokens begin with a constant that is no name. -/
def beginConstant (ts : List Token) : Bool :=
  beginLiteral ts || beginGroup .curly ts

/-- Bounds after a colon, which vanishes where there is none. -/
def boundsAfterColon (stop : List Token → Bool) (bound : Written) : Written := do
  let colon ← mark? ":"
  if colon.isEmpty then return []
  let bounds ← chain "+" stop bound
  return if bounds.isEmpty then [] else colon ++ bounds

/-- A generic argument; whether it is a lifetime, and its tokens. -/
def argument (r : Readers) : Grammar (Bool × List Token) := do
  let ts ← get
  if beginLifetime ts && !beginMark "+" (ts.drop 1) then return (true, ← lifetime)
  if beginConstant ts then return (false, ← r.constant)
  let type ← r.type true
  if type.shape == .name then
    let ts ← get
    if beginMark "=" ts then
      let sign ← mark "="
      let value ← if beginConstant (← get) then r.constant else r.typeTokens
      return (false, type.tokens ++ sign ++ value)
    if beginMark ":" ts then
      let colon ← mark ":"
      return (false, type.tokens ++ colon ++ (← chain "+" (beginOneOf [",", ">"]) r.constBound))
  return (false, type.tokens)

/-- Generic arguments in angle brackets. -/
def angled (r : Readers) : Written := do
  let start ← mark "<"
  let arguments ← pieces "," (beginMark ">") r.argument
  return start ++ markedFirst arguments ++ (← mark ">")

/-! ## Paths -/

/-- A segment of a path and whether it has generic arguments. -/
def segment (r : Readers) (inExpression : Bool) : Grammar (List Token × Bool) := do
  if beginWord ["super", "self", "crate", "try"] (← get) then return (← anyWord, false)
  let name ← if beginWord ["Self"] (← get) then anyWord else identifier
  let ts ← get
  if beginMark "::" ts && beginMark "<" (ts.drop 2) then
    return (name ++ (← mark "::") ++ (← r.angled), true)
  if !inExpression && beginMark "<" ts && !beginOneOf ["<=", "<<="] ts then
    return (name ++ (← r.angled), true)
  return (name, false)

/-- A path that was read. -/
structure PathPhrase where
  tokens : List Token
  /-- Whether it is one segment without `::` before it. -/
  isSingle : Bool
  /-- Whether no segment has generic arguments. -/
  isPlain : Bool
  /-- Whether the last segment has none. -/
  endsPlain : Bool

/-- More segments of a path, at most so many. -/
def segmentsAfter (r : Readers) (inExpression : Bool) : Nat → PathPhrase → Grammar PathPhrase
  | 0, p => return p
  | fuel + 1, p => do
    let ts ← get
    if beginMark "::" ts && !beginGroup .round (ts.drop 2) then
      let colons ← mark "::"
      let (tokens, hasArguments) ← r.segment inExpression
      r.segmentsAfter inExpression fuel
        ⟨p.tokens ++ colons ++ tokens, false, p.isPlain && !hasArguments, !hasArguments⟩
    else return p

/-- A path. Parentheses after it are not part of it. -/
def path (r : Readers) (inExpression : Bool) : Grammar PathPhrase := do
  let start ← mark? "::"
  let (tokens, hasArguments) ← r.segment inExpression
  r.segmentsAfter inExpression (← remaining)
    ⟨start ++ tokens, start.isEmpty, !hasArguments, !hasArguments⟩

/-- A path that is qualified by a type. -/
def qualifiedPath (r : Readers) (inExpression : Bool) : Written :=
  let segment : Written := do return (← r.segment inExpression).1
  mark "<" ++ r.typeTokens ++
    optionally (beginWord ["as"]) (anyWord ++ do return (← r.path false).tokens) ++
    mark ">" ++ mark "::" ++ segment ++ many (beginMark "::") (mark "::" ++ segment)

/-- A path that may be qualified by a type, and whether it is not. -/
def anyPath (r : Readers) (inExpression : Bool) : Grammar (Bool × PathPhrase) := do
  if beginMark "<" (← get) then
    return (false, ⟨← r.qualifiedPath inExpression, false, false, false⟩)
  return (true, ← r.path inExpression)

/-- Whether a macro is called by a path, after which the tokens come. -/
def callsMacro (isUnqualified : Bool) (p : PathPhrase) (ts : List Token) : Bool :=
  isUnqualified && p.isPlain && beginMark "!" ts && !beginMark "!=" ts

/-! ## Generic parameters -/

/-- A lifetime parameter with the lifetimes that it outlives. -/
def lifetimeParameter : Written :=
  lifetime ++ boundsAfterColon (fun ts => ts.isEmpty || beginOneOf [",", ">"] ts) lifetime

/-- A type parameter with its bounds and its default. -/
def typeParameter (r : Readers) : Written :=
  identifier ++
    boundsAfterColon (fun ts => ts.isEmpty || beginOneOf [",", ">", "="] ts) r.constBound ++
    optionally (beginMark "=") (mark "=" ++ r.typeTokens)

/-- A constant parameter with its default. -/
def constParameter (r : Readers) : Written :=
  word ["const"] ++ identifier ++ mark ":" ++ r.typeTokens ++
    optionally (beginMark "=") (mark "=" ++ r.constant)

/-- A generic parameter; whether it is a lifetime, and its tokens. -/
def parameter (r : Readers) : Grammar (Bool × List Token) := do
  let attributes ← r.outerAttributes
  let ts ← get
  if beginLifetime ts then return (true, attributes ++ (← lifetimeParameter))
  if beginWord ["const"] ts then return (false, attributes ++ (← r.constParameter))
  return (false, attributes ++ (← r.typeParameter))

/-- A generic parameter of an item, which may also be left open. -/
def itemParameter (r : Readers) : Grammar (Bool × List Token) := do
  let attributes ← r.outerAttributes
  if beginWord ["_"] (← get) then return (false, attributes ++ (← anyWord))
  let (isLifetime, tokens) ← r.parameter
  return (isLifetime, attributes ++ tokens)

/-- Generic parameters of an item, or nothing. -/
def parameters (r : Readers) : Written :=
  optionally (beginMark "<") do
    let start ← mark "<"
    let items ← pieces "," (beginMark ">") r.itemParameter
    let ending ← mark ">"
    return if items.isEmpty then [] else start ++ markedFirst items ++ ending

/-- Generic parameters that are bound by `for`, in the order in which they stand. -/
def binder (r : Readers) : Written :=
  word ["for"] ++ mark "<" ++
    chain "," (beginMark ">") (do return (← r.parameter).2) ++ mark ">"

/-- Generic parameters that are bound by `for`, or nothing. -/
def binder? (r : Readers) : Written :=
  optionally (beginWord ["for"]) r.binder

/-- What a type or a lifetime in a `where` is asked for. -/
def predicate (r : Readers) : Written := do
  let stop (ts : List Token) : Bool :=
    ts.isEmpty || beginGroup .curly ts || beginOneOf [",", ";", "="] ts ||
      (beginMark ":" ts && !beginMark "::" ts)
  let ts ← get
  if beginLifetime ts && beginMark ":" (ts.drop 1) then
    lifetime ++ mark ":" ++ chain "+" stop lifetime
  else r.binder? ++ r.typeTokens ++ mark ":" ++ chain "+" stop r.constBound

/-- What is asked of generic parameters, or nothing. -/
def conditions (r : Readers) : Written :=
  optionally (beginWord ["where"]) do
    let start ← anyWord
    let predicates ← chain "," (fun ts => ts.isEmpty || beginGroup .curly ts ||
      beginOneOf [",", ";", "="] ts || (beginMark ":" ts && !beginMark "::" ts)) r.predicate
    return if predicates.isEmpty then [] else start ++ predicates

/-! ## Bounds -/

/-- The arguments and the result of a function trait, before which `::` vanishes. -/
def functionArguments (r : Readers) : Written := do
  let _ ← mark? "::"
  group .round (commaList r.typeTokens) ++ optionally (beginMark "->") (mark "->" ++ r.singleType)

/-- The sign of a trait that is asked for in constant code only, or nothing. -/
def constSign : Written := do
  match ← get with
  | .group .square [.word "const"] :: _ => anyGroup
  | .group .square _ :: _ => failure
  | _ => word? ["const"]

/-- A trait of a bound: whether it is asked for in constant code only, and its tokens. A binder and
`?` exclude one another. -/
def traitBound (r : Readers) (allowsConst : Bool) : Grammar (Bool × List Token) := do
  let binder ← r.binder?
  let sign ← constSign
  guard (allowsConst || sign.isEmpty)
  let optional ← mark? "?"
  guard (optional.isEmpty || (binder.isEmpty && !beginWord ["for"] (← get)))
  let p ← r.path false
  let ts ← get
  let called := p.endsPlain &&
    (beginGroup .round ts || (beginMark "::" ts && beginGroup .round (ts.drop 2)))
  let arguments ← if called then r.functionArguments else pure []
  return (!sign.isEmpty, binder ++ sign ++ optional ++ p.tokens ++ arguments)

/-- The generic parameters that a type captures. -/
def capture : Written := do
  let start ← word ["use"] ++ mark "<"
  let items ← pieces "," (beginMark ">") do
    let ts ← get
    if beginLifetime ts then return (true, ← lifetime)
    if beginWord ["Self"] ts then return (false, ← anyWord)
    return (false, ← identifier)
  return start ++ markedFirst items ++ (← mark ">")

/-- A bound: a lifetime, what is captured, or a trait that may stand in parentheses. A trait that is
asked for in constant code only is written as it was read. -/
def boundWith (r : Readers) (allowsUse allowsConst : Bool) : Grammar BoundPhrase := do
  let ts ← get
  if beginLifetime ts then return ⟨← lifetime, false⟩
  if beginWord ["use"] ts then
    guard allowsUse
    return ⟨← capture, false⟩
  let (isConst, tokens) ←
    if beginGroup .round ts then do
      let (isConst, tokens) ← inside .round (r.traitBound allowsConst)
      pure (isConst, [Token.group .round tokens])
    else r.traitBound allowsConst
  if isConst then return ⟨← takenSince ts, true⟩
  return ⟨tokens, true⟩

end Readers

end BeanMapping.Code
