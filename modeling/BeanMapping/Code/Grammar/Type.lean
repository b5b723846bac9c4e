import BeanMapping.Code.Grammar.Path

/-!
# Types of generated code

A type is a path, a call of a macro, a function, a reference or a pointer, an array or a slice, a
tuple, or a sum of bounds. Only a bound may be a function trait with its arguments in parentheses; a
path that stands for a type may not.
-/

namespace BeanMapping.Code.Readers

open Grammar

/-! ## Sums of bounds -/

/-- Whether tokens begin with a bound that may follow `+`. -/
def beginBound (ts : List Token) : Bool :=
  beginAnyWord ts || beginOneOf ["::", "?"] ts || beginLifetime ts || beginGroup .round ts

/-- Bounds with `+` between them, each with the `+` after it; one may follow the last. -/
def bounds (r : Readers) (plus allowsUse allowsConst : Bool) :
    Grammar (List (BoundPhrase × List Token)) := do
  let bound := r.bound allowsUse allowsConst
  let first ← bound
  let sign ← if plus then mark? "+" else pure []
  if sign.isEmpty then return [(first, [])]
  let goesOn (ts : List Token) : Bool :=
    beginBound ts || (allowsConst && (beginGroup .square ts || beginWord ["const"] ts))
  return (first, sign) :: (← pieces "+" (!goesOn ·) bound)

/-- Bounds of which one at least is a trait. -/
def boundSum (r : Readers) (plus allowsUse allowsConst : Bool) : Written := do
  let bounds ← r.bounds plus allowsUse allowsConst
  guard (bounds.any (·.1.isTrait))
  return bounds.flatMap fun b => b.1.tokens ++ b.2

/-- The bounds after a first one, from a `+` on; one `+` may follow the last. -/
def moreBounds (r : Readers) : Written :=
  mark "+" ++ chain "+" (!beginBound ·) r.plainBound

/-- The bounds after a first one in parentheses, from a `+` on. -/
def boundsAfterGroup (r : Readers) : Written :=
  many (beginMark "+") (mark "+" ++ r.plainBound)

/-! ## Parentheses -/

/-- What a bound in parentheses holds: its own parentheses are left out. -/
def withoutParentheses : List Token → List Token
  | [.group .round inner] => inner
  | ts => ts

/-- What stands in the parentheses of a type. -/
inductive Parenthesized where
  /-- Nothing, or types with commas between them. -/
  | tuple (tokens : List Token)
  /-- A trait that is not asked for. -/
  | optional (tokens : List Token)
  /-- Bounds that begin with a lifetime. -/
  | sum (tokens : List Token)
  | single (type : TypePhrase)

/-- The inside of parentheses. -/
def parenthesized (r : Readers) : Grammar Parenthesized := do
  let ts ← get
  if ts.isEmpty then return .tuple []
  if beginLifetime ts then return .sum (← r.boundSum true false false)
  if beginMark "?" ts then return .optional (← r.traitBound false).2
  let first ← r.type true
  if beginMark "," (← get) then
    let comma ← mark ","
    return .tuple (first.tokens ++ comma ++ (← commaList r.typeTokens))
  return .single first

/-- A type in parentheses, a tuple, or bounds that begin with parentheses. -/
def roundType (r : Readers) (plus : Bool) : Grammar TypePhrase := do
  match ← inside .round r.parenthesized with
  | .tuple tokens | .sum tokens => return ⟨Token.round tokens, .other⟩
  | .optional tokens =>
    let more ← r.boundsAfterGroup
    return ⟨Token.round tokens ++ more, if more.isEmpty then .bound else .other⟩
  | .single type =>
    if plus && beginMark "+" (← get) && type.shape != .other then
      return ⟨Token.round (withoutParentheses type.tokens) ++ (← r.boundsAfterGroup), .other⟩
    return ⟨Token.round type.tokens, .other⟩

/-! ## Functions -/

/-- The calling convention of a function, or nothing. -/
def convention? : Written :=
  optionally (beginWord ["extern"]) (anyWord ++ optionally beginText literal)

/-- A parameter of a function type. The first one may be `self`, and is written as it was read when it
is changeable. -/
def functionParameter (r : Readers) (isFirst : Bool) : Written :=
  orVerbatim do
    let beginChangeable (ts : List Token) : Bool :=
      isFirst && beginWord ["mut"] ts && beginWord ["self"] (ts.drop 1)
    let isChangeable := beginChangeable (← get)
    if isChangeable then
      let _ ← anyWord
    let ts ← get
    let isSelf := isFirst && beginWord ["self"] ts
    let isNamed := (beginIdentifier ts || beginWord ["_"] ts || isSelf) &&
      beginMark ":" (ts.drop 1) && !beginMark "::" (ts.drop 1)
    let name ← if isNamed then anyWord ++ mark ":" else pure []
    if isChangeable && !isNamed then
      let _ ← anyWord
      return none
    if !isSelf && beginChangeable (← get) then
      let _ ← anyWord ++ anyWord
      return none
    let type ← r.typeTokens
    return if isChangeable then none else some (name ++ type)

/-- Whether tokens begin with a last parameter that stands for any number. -/
def beginVariadic (ts : List Token) : Bool :=
  beginMark "..." ts || ((beginIdentifier ts || beginWord ["_"] ts) &&
    beginMark ":" (ts.drop 1) && beginMark "..." (ts.drop 2))

/-- The parameters of a function type up to the end, at most so many. -/
def functionParameters (r : Readers) (isFirst : Bool) : Nat → Written
  | 0 => return []
  | fuel + 1 => do
    if (← get).isEmpty then return []
    let attributes ← r.outerAttributes
    if beginVariadic (← get) then
      let name ← if beginMark "..." (← get) then pure [] else anyWord ++ mark ":"
      return attributes ++ name ++ (← mark "...") ++ (← mark? ",")
    let parameter ← r.functionParameter isFirst
    if (← get).isEmpty then return attributes ++ parameter
    return attributes ++ parameter ++ (← mark ",") ++ (← r.functionParameters false fuel)

/-- A function type after its binder. -/
def functionType (r : Readers) : Written :=
  word? ["unsafe"] ++ convention? ++ word ["fn"] ++
    group .round (do r.functionParameters true ((← remaining) + 1)) ++
    optionally (beginMark "->") (mark "->" ++ r.singleType)

/-! ## All types -/

/-- A type that begins with a path: the path, a call of a macro, or a sum of bounds. -/
def pathType (r : Readers) (plus : Bool) (binder : List Token) : Grammar TypePhrase := do
  let (isUnqualified, p) ← r.anyPath false
  if !isUnqualified then return ⟨p.tokens, .other⟩
  let ts ← get
  if callsMacro isUnqualified p ts then
    return ⟨p.tokens ++ (← mark "!") ++ (← anyGroup), .other⟩
  if plus && beginMark "+" ts then return ⟨binder ++ p.tokens ++ (← r.moreBounds), .other⟩
  if !binder.isEmpty then return ⟨binder ++ p.tokens, .bound⟩
  return ⟨p.tokens, if p.isSingle then .name else .path⟩

/-- A trait object that says so. After a star it is written as it was read. -/
def dynType (r : Readers) (plus : Bool) : Written :=
  orVerbatim do
    let start ← word ["dyn"]
    let star ← mark? "*"
    let bounds ← r.boundSum plus false false
    return if star.isEmpty then some (start ++ bounds) else none

/-- An array or a slice. -/
def squareType (r : Readers) : Written :=
  group .square (r.typeTokens ++ optionally (beginMark ";") (mark ";" ++ r.expression))

/-- Whether tokens begin with a type that may follow a binder. -/
def beginBoundType (ts : List Token) : Bool :=
  beginIdentifier ts || beginWord (["fn", "unsafe", "extern"] ++ places) ts

/-- A type. -/
def typeWith (r : Readers) (plus : Bool) : Grammar TypePhrase := do
  let binder ← r.binder?
  let ts ← get
  guard (binder.isEmpty || beginBoundType ts)
  let other (read : Written) : Grammar TypePhrase := do return ⟨← read, .other⟩
  if beginGroup .round ts then r.roundType plus
  else if beginWord ["fn", "unsafe", "extern"] ts then
    return ⟨binder ++ (← r.functionType), .other⟩
  else if beginPath ts || beginMark "<" ts then r.pathType plus binder
  else if beginWord ["dyn"] ts then other (r.dynType plus)
  else if beginGroup .square ts then other r.squareType
  else if beginMark "*" ts then other (mark "*" ++ word ["const", "mut"] ++ r.singleType)
  else if beginMark "&" ts then
    other (mark "&" ++ optionally beginLifetime lifetime ++ word? ["mut"] ++ r.singleType)
  else if beginMark "!" ts then other (mark "!")
  else if beginWord ["impl"] ts then other (anyWord ++ r.boundSum plus true true)
  else if beginWord ["_"] ts then other anyWord
  else if beginLifetime ts then other (r.boundSum true false false)
  else failure

end BeanMapping.Code.Readers
