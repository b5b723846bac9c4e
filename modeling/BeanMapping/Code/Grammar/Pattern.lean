import BeanMapping.Code.Grammar.Type

/-!
# Patterns of generated code

A pattern binds names, takes a value apart, or compares it with a constant or a range. Alternatives
are separated by `|`. The older sign `...` of a closed range is written `..=`.
-/

namespace BeanMapping.Code.Readers

open Grammar

/-! ## Alternatives -/

/-- A sign between alternatives. -/
def beginAlternative (ts : List Token) : Bool :=
  beginMark "|" ts && !beginOneOf ["||", "|="] ts

/-- Alternatives, of which one is a pattern of its own; a sign may stand before the first. -/
def alternatives (r : Readers) : Grammar PatternPhrase := do
  let start ← mark? "|"
  let first ← r.pattern
  let others ← many beginAlternative (mark "|" ++ do return (← r.pattern).tokens)
  return if start.isEmpty && others.isEmpty then first
    else ⟨start ++ first.tokens ++ others, .other⟩

/-- Alternatives as tokens. -/
def alternativeTokens (r : Readers) : Written := do
  return (← r.alternatives).tokens

/-- A pattern without alternatives as tokens. -/
def patternTokens (r : Readers) : Written := do
  return (← r.pattern).tokens

/-! ## Ranges -/

/-- The sign of a range in a pattern and whether the range is closed. -/
def patternRangeSign : Grammar (List Token × Bool) := do
  let ts ← get
  if beginMark "..=" ts then return (← mark "..=", true)
  if beginMark "..." ts then
    let _ ← mark "..."
    return (Token.marks "..=", true)
  return (← mark "..", false)

/-- Whether tokens begin with what follows a range without an end. -/
def endsRange (ts : List Token) : Bool :=
  ts.isEmpty || beginOneOf ["|", "=", ",", ";"] ts || beginWord ["if"] ts ||
    (beginMark ":" ts && !beginMark "::" ts)

/-- A block that is evaluated early. -/
def constBlock (r : Readers) : Written :=
  word ["const"] ++ r.block

/-- An end of a range, or nothing. -/
def rangeBound? (r : Readers) : Written := do
  let ts ← get
  if endsRange ts then return []
  if beginLiteral ts then literal
  else if beginPath ts || beginMark "<" ts then return (← r.anyPath true).2.tokens
  else r.constBlock

/-- The rest of a range after its start. -/
def rangeAfter (r : Readers) (start : List Token) : Grammar PatternPhrase := do
  let (sign, isClosed) ← patternRangeSign
  let ending ← r.rangeBound?
  guard (!(isClosed && ending.isEmpty))
  return ⟨start ++ sign ++ ending, if ending.isEmpty then .open else .other⟩

/-- A range without a start, or the rest of a list. -/
def rangeWithoutStart (r : Readers) : Grammar PatternPhrase := do
  let ts ← get
  guard (!beginMark "..." ts)
  let isClosed := beginMark "..=" ts
  let sign ← mark (if isClosed then "..=" else "..")
  let ending ← r.rangeBound?
  guard (!(isClosed && ending.isEmpty))
  return ⟨sign ++ ending, if ending.isEmpty then .other else .open⟩

/-- A constant or a range that begins with one. -/
def constantPattern (r : Readers) : Grammar PatternPhrase := do
  let start ← r.rangeBound?
  guard (!start.isEmpty)
  if beginMark ".." (← get) then r.rangeAfter start else return ⟨start, .other⟩

/-! ## Fields -/

/-- The name or the number of a member. -/
def memberName : Written := do
  match ← get with
  | .literal text :: _ =>
    let _ ← next
    match Literal.index? text with
    | some index => return [.literal index]
    | none => failure
  | _ => identifier

/-- A named field: its pattern after a colon, or the name that it is bound to. -/
def fieldPattern (r : Readers) : Written :=
  orVerbatim do
    let box ← word? ["box"]
    let mode ← word? ["ref"] ++ word? ["mut"]
    let isPlain := box.isEmpty && mode.isEmpty
    let isNamed := beginIdentifier (← get)
    let member ← if isPlain then memberName else identifier
    if (isPlain && beginMark ":" (← get)) || !isNamed then
      return some (member ++ (← mark ":") ++ (← r.alternativeTokens))
    return if box.isEmpty then some (mode ++ member) else none

/-- Named fields up to the end, at most so many. After `..` nothing may follow. -/
def fieldPatterns (r : Readers) : Nat → Written
  | 0 => return []
  | fuel + 1 => do
    if (← get).isEmpty then return []
    let attributes ← r.outerAttributes
    if beginMark ".." (← get) then return attributes ++ (← mark "..")
    let field ← r.fieldPattern
    if (← get).isEmpty then return attributes ++ field
    return attributes ++ field ++ (← mark ",") ++ (← r.fieldPatterns fuel)

/-! ## All patterns -/

/-- A pattern that begins with a path. -/
def pathPattern (r : Readers) : Grammar PatternPhrase := do
  let (isUnqualified, p) ← r.anyPath true
  let ts ← get
  if callsMacro isUnqualified p ts then
    return ⟨p.tokens ++ (← mark "!") ++ (← anyGroup), .other⟩
  if beginGroup .curly ts then
    let fields ← group .curly do r.fieldPatterns ((← remaining) + 1)
    return ⟨p.tokens ++ fields, .other⟩
  if beginGroup .round ts then
    return ⟨p.tokens ++ (← group .round (commaList r.alternativeTokens)), .other⟩
  if beginMark ".." ts then r.rangeAfter p.tokens
  else return ⟨p.tokens, .other⟩

/-- A name that is bound, and a pattern for what it is bound to. -/
def namePattern (r : Readers) : Written :=
  word? ["ref"] ++ word? ["mut"] ++
    oneIf (fun ts => beginIdentifier ts || beginWord ["self"] ts) ++
    optionally (beginMark "@") (mark "@" ++ r.patternTokens)

/-- A pattern in a list, where a range has both a start and an end. -/
def elementPattern (r : Readers) : Written := do
  let p ← r.alternatives
  guard (p.shape != .open)
  return p.tokens

/-- Whether tokens begin with a pattern that begins with a path. -/
def beginPathPattern (ts : List Token) : Bool :=
  let second := ts.drop 1
  (beginIdentifier ts && (beginOneOf ["::", "!", ".."] second || beginGroup .curly second ||
    beginGroup .round second)) ||
    (beginWord ["self"] ts && beginMark "::" second) || beginOneOf ["::", "<"] ts ||
    beginWord ["Self", "super", "crate"] ts

/-- A pattern without alternatives. -/
def patternWith (r : Readers) : Grammar PatternPhrase := do
  let ts ← get
  let other (read : Written) : Grammar PatternPhrase := do return ⟨← read, .other⟩
  if beginPathPattern ts then r.pathPattern
  else if beginWord ["_"] ts then other anyWord
  else if beginWord ["box"] ts then
    return ⟨← verbatim (anyWord ++ r.patternTokens), .verbatim⟩
  else if beginMark "-" ts || beginLiteral ts || beginWord ["const"] ts then r.constantPattern
  else if beginWord ["ref", "mut", "self"] ts || beginIdentifier ts then other r.namePattern
  else if beginMark "&" ts then other (mark "&" ++ word? ["mut"] ++ r.patternTokens)
  else if beginGroup .round ts then other (group .round (commaList r.alternativeTokens))
  else if beginGroup .square ts then other (group .square (commaList r.elementPattern))
  else if beginMark ".." ts then r.rangeWithoutStart
  else failure

end BeanMapping.Code.Readers
