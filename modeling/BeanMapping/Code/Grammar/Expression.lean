import BeanMapping.Code.Grammar.Pattern

/-!
# Expressions of generated code

Operands with signs before them and calls, fields, indices and `?` after them are joined by operators,
of which the tighter ones bind first. Comparisons cannot be chained, nothing goes on after a range,
and nothing but an operator follows the type of a cast.
-/

namespace BeanMapping.Code.Readers

open Grammar

/-! ## Operators -/

/-- The operators of two operands, longer ones before their beginnings. -/
def binaryOperators : List (String × Precedence) :=
  [("+=", .assign), ("-=", .assign), ("*=", .assign), ("/=", .assign), ("%=", .assign),
    ("^=", .assign), ("&=", .assign), ("|=", .assign), ("<<=", .assign), (">>=", .assign),
    ("&&", .both), ("||", .either), ("<<", .shift), (">>", .shift), ("==", .compare),
    ("<=", .compare), ("!=", .compare), (">=", .compare), ("+", .sum), ("-", .sum),
    ("*", .product), ("/", .product), ("%", .product), ("^", .bitXor), ("&", .bitAnd),
    ("|", .bitOr), ("<", .compare), (">", .compare)]

/-- The operator of two operands that tokens begin with. -/
def operator? (ts : List Token) : Option (String × Precedence) :=
  binaryOperators.find? fun o => beginMark o.1 ts

/-- Whether tokens begin with an assignment. -/
def beginAssignment (ts : List Token) : Bool :=
  beginMark "=" ts && !beginMark "=>" ts

/-- How tightly the operator that tokens begin with binds; loosest where there is none. -/
def operatorPrecedence (ts : List Token) : Precedence :=
  match operator? ts with
  | some (_, p) => p
  | none =>
    if beginAssignment ts then .assign
    else if beginMark ".." ts then .range
    else if beginWord ["as"] ts then .cast
    else .jump

/-- Whether the first of two operators binds at least as tightly as the second. -/
def bindsAs (p q : Precedence) : Bool :=
  q.ctorIdx ≤ p.ctorIdx

/-- Lets a right operand go on with operators that bind more tightly than the one before it, at most
so many. Assignments go on with assignments. -/
def rightWithin (r : Readers) (braces : Bool) (p : Precedence) :
    Nat → ExpressionPhrase → Grammar ExpressionPhrase
  | 0, right => return right
  | fuel + 1, right => do
    let ts ← get
    let q := operatorPrecedence ts
    if !bindsAs p q || (q == p && p == .assign) then
      let right ← r.operators braces q right
      if (← remaining) == ts.length then return right
      r.rightWithin braces p fuel right
    else return right

/-- The right operand of an operator. -/
def rightOperand (r : Readers) (braces : Bool) (p : Precedence) : Written := do
  let first ← r.operand braces
  return (← r.rightWithin braces p (← remaining) first).tokens

/-- The sign of a range. -/
def rangeSign : Written := do
  let ts ← get
  guard (!beginMark "..." ts)
  mark (if beginMark "..=" ts then "..=" else "..")

/-- Whether tokens begin with what follows a range without an end. -/
def endsOpenRange (braces : Bool) (ts : List Token) : Bool :=
  ts.isEmpty || beginOneOf [",", ";", "?", "=>", "=", "+", "/", "%", "^", ">", "<=", "!=", "-=",
    "*=", "&=", "|=", "<<="] ts || (beginMark "." ts && !beginMark ".." ts) ||
    (!braces && beginGroup .curly ts) || beginWord ["as"] ts

/-- The sign of a range and its end, which only an open range may lack. -/
def rangeEnd (r : Readers) (braces : Bool) : Written := do
  let isOpen := !beginMark "..=" (← get)
  let sign ← rangeSign
  if isOpen && endsOpenRange braces (← get) then return sign
  return sign ++ (← r.rightOperand braces .range)

/-- Whether tokens begin with what may not follow a cast. -/
def beginTrailer (ts : List Token) : Bool :=
  (beginMark "." ts && !beginMark ".." ts) || beginMark "?" ts || beginGroup .square ts ||
    beginGroup .round ts

/-- A cast, from its word on. -/
def castAfter (r : Readers) : Written := do
  let cast ← word ["as"] ++ r.singleType
  guard (!beginTrailer (← get))
  return cast

/-- What follows a first operand, with operators that bind at least so tightly, at most so many. -/
def operatorsWithin (r : Readers) (braces : Bool) (base : Precedence) :
    Nat → ExpressionPhrase → Grammar ExpressionPhrase
  | 0, left => return left
  | fuel + 1, left => do
    if left.shape == .range then return left
    let ts ← get
    let join (read : Written) (shape : ExpressionShape) : Grammar ExpressionPhrase := do
      let right ← read
      r.operatorsWithin braces base fuel ⟨left.tokens ++ right, shape⟩
    match operator? ts with
    | some (sign, p) =>
      if !bindsAs p base then return left
      guard (!(p == .compare && left.shape == .comparison))
      join (mark sign ++ r.rightOperand braces p) (if p == .compare then .comparison else .other)
    | none =>
      if bindsAs .assign base && beginAssignment ts then
        join (mark "=" ++ r.rightOperand braces .assign) .other
      else if bindsAs .range base && beginMark ".." ts then join (r.rangeEnd braces) .range
      else if bindsAs .cast base && beginWord ["as"] ts then join r.castAfter .other
      else return left

/-- What follows a first operand, with operators that bind at least so tightly. -/
def operatorsWith (r : Readers) (braces : Bool) (base : Precedence) (left : ExpressionPhrase) :
    Grammar ExpressionPhrase := do
  r.operatorsWithin braces base (← remaining) left

/-! ## What follows an operand -/

/-- Expressions with commas between them, in parentheses. -/
def callArguments (r : Readers) : Written :=
  group .round (commaList r.expression)

/-- The indices that a number with a point writes after a point, each with a point before it. -/
def indexTokens (indices : List String) : List Token :=
  (indices.map fun i => [Token.literal i]).intersperse (Token.marks ".") |>.flatten

/-- A member after its point: `await`, a field, or a method with its arguments. -/
def memberAfterPoint (r : Readers) : Written := do
  if beginWord ["await"] (← get) then anyWord
  else
    let isNamed := beginIdentifier (← get)
    let member ← memberName
    if !isNamed then return member
    if beginMark "::" (← get) then
      return member ++ (← mark "::") ++ (← r.angled) ++ (← r.callArguments)
    return member ++ (← optionally (beginGroup .round) r.callArguments)

/-- What follows a point. A number with a point stands for several fields. -/
def afterPoint (r : Readers) : Written := do
  match ← get with
  | .literal text :: _ =>
    if Literal.isNumber text && (Literal.whole? text).isNone then
      let _ ← next
      match Literal.indices? text with
      | some (indices, false) => return indexTokens indices
      | some (indices, true) => return indexTokens indices ++ Token.marks "." ++ (← r.memberAfterPoint)
      | none => failure
    else r.memberAfterPoint
  | _ => r.memberAfterPoint

/-- Calls, members, indices and `?` after an operand, at most so many. -/
def trailersWithin (r : Readers) : Nat → ExpressionPhrase → Grammar ExpressionPhrase
  | 0, e => return e
  | fuel + 1, e => do
    let ts ← get
    let more (read : Written) : Grammar ExpressionPhrase := do
      let trailer ← read
      r.trailersWithin fuel ⟨e.tokens ++ trailer, .other⟩
    if beginGroup .round ts then more r.callArguments
    else if beginMark "." ts && !beginMark ".." ts && e.shape != .range then
      more (mark "." ++ r.afterPoint)
    else if beginGroup .square ts then more (group .square r.expression)
    else if beginMark "?" ts && e.shape != .range then more (mark "?")
    else return e

/-- Calls, members, indices and `?` after an operand. -/
def trailers (r : Readers) (e : ExpressionPhrase) : Grammar ExpressionPhrase := do
  r.trailersWithin (← remaining) e

/-! ## Control flow -/

/-- The name of a loop or a block, with its colon. -/
def loopName : Written := lifetime ++ mark ":"

/-- `if` with its alternatives, at most so many. -/
def conditional (r : Readers) : Nat → Written
  | 0 => failure
  | fuel + 1 => do
    let first ← word ["if"] ++ r.condition ++ r.plainBlock
    if !beginWord ["else"] (← get) then return first
    let otherwise ← anyWord
    let other ← if beginWord ["if"] (← get) then r.conditional fuel else r.plainBlock
    return first ++ otherwise ++ other

/-- An arm of a `match`. A comma has to follow it unless it ends with a block or is the last. -/
def arm (r : Readers) : Written := do
  let start ← r.outerAttributes ++ r.alternativeTokens ++
    optionally (beginWord ["if"]) (anyWord ++ r.expression) ++ mark "=>"
  let body ← r.standing
  let comma ←
    if body.shape == .block || (← get).isEmpty then mark? "," else mark ","
  return start ++ body.tokens ++ comma

/-- `match` with its arms. -/
def matching (r : Readers) : Written :=
  word ["match"] ++ r.condition ++ group .curly (r.innerAttributes ++ toEnd r.arm)

/-- A loop over the elements of something. -/
def forLoop (r : Readers) : Written :=
  word ["for"] ++ r.alternativeTokens ++ word ["in"] ++ r.condition ++ r.block

/-- A loop with a condition. -/
def whileLoop (r : Readers) : Written :=
  word ["while"] ++ r.condition ++ r.block

/-- A loop or a block that has a name. -/
def named (r : Readers) : Written := do
  let name ← loopName
  let ts ← get
  if beginWord ["while"] ts then return name ++ (← r.whileLoop)
  if beginWord ["for"] ts then return name ++ (← r.forLoop)
  return name ++ (← word? ["loop"]) ++ (← r.block)

/-- A condition that takes a value apart. -/
def letCondition (r : Readers) (braces : Bool) : Written := do
  let start ← word ["let"] ++ r.alternativeTokens ++ mark "="
  let first ← r.operand braces
  return start ++ (← r.operators braces .compare first).tokens

/-- Whether tokens begin with an expression. -/
def beginExpression (ts : List Token) : Bool :=
  (beginAnyWord ts && !beginWord ["as"] ts) || beginGroup .round ts || beginGroup .square ts ||
    beginGroup .curly ts || beginLiteral ts || (beginMark "!" ts && !beginMark "!=" ts) ||
    (beginMark "-" ts && !beginOneOf ["-=", "->"] ts) ||
    (beginMark "*" ts && !beginMark "*=" ts) || (beginMark "|" ts && !beginMark "|=" ts) ||
    (beginMark "&" ts && !beginMark "&=" ts) || beginMark ".." ts ||
    (beginMark "<" ts && !beginOneOf ["<=", "<<="] ts) || beginMark "::" ts ||
    beginLifetime ts || beginMark "#" ts

/-- The way out of a loop or a block, with a value. A name with a colon after it would begin
something new, which has to stand in parentheses. -/
def breaking (r : Readers) (braces : Bool) : Written := do
  let start ← word ["break"] ++ optionally beginLifetime lifetime
  let ts ← get
  guard (start.length == 1 || !beginMark ":" ts)
  if beginExpression ts && (braces || !beginGroup .curly ts) then return start ++ (← r.expression)
  return start

/-! ## Closures -/

/-- A parameter of a closure. -/
def closureParameter (r : Readers) : Written := do
  let attributes ← r.outerAttributes
  let p ← r.pattern
  if beginMark ":" (← get) then
    return attributes ++ p.tokens ++ (← mark ":") ++ (← r.typeTokens)
  return (if p.shape == .verbatim then [] else attributes) ++ p.tokens

/-- A closure. A block follows a result type. -/
def closure (r : Readers) (braces : Bool) : Written := do
  let start ← r.binder? ++ word? ["const"] ++ word? ["static"] ++ word? ["async"] ++
    word? ["move"] ++ mark "|" ++ chain "," (beginMark "|") r.closureParameter ++ mark "|"
  if beginMark "->" (← get) then
    return start ++ (← mark "->") ++ (← r.typeTokens) ++ (← r.plainBlock)
  return start ++ (← r.expressionIn braces).tokens

/-- Whether tokens begin with a closure. -/
def beginClosure (ts : List Token) : Bool :=
  let second := ts.drop 1
  beginMark "|" ts || beginWord ["move", "static"] ts ||
    (beginWord ["for"] ts && beginParameters second) ||
    (beginWord ["const"] ts && !beginGroup .curly second) ||
    (beginWord ["async"] ts && (beginMark "|" second || beginWord ["move"] second))

/-! ## Structures, lists and tuples -/

/-- A field with its value, which a name alone is too. -/
def fieldValue (r : Readers) : Written := do
  let attributes ← r.outerAttributes
  let isNamed := beginIdentifier (← get)
  let member ← memberName
  if beginMark ":" (← get) || !isNamed then
    return attributes ++ member ++ (← mark ":") ++ (← r.expression)
  return attributes ++ member

/-- Fields with their values up to the end, at most so many; after `..` the value that has the others
may follow. -/
def fieldValues (r : Readers) : Nat → Written
  | 0 => return []
  | fuel + 1 => do
    let ts ← get
    if ts.isEmpty then return []
    if beginMark ".." ts then return (← mark "..") ++ (← optionally (!·.isEmpty) r.expression)
    let field ← r.fieldValue
    if (← get).isEmpty then return field
    return field ++ (← mark ",") ++ (← r.fieldValues fuel)

/-- A path, a call of a macro, or a structure with its fields. -/
def pathExpression (r : Readers) (braces : Bool) : Grammar ExpressionPhrase := do
  let (isUnqualified, p) ← r.anyPath true
  let ts ← get
  if callsMacro isUnqualified p ts then
    let start := p.tokens ++ (← mark "!")
    let shape := if beginGroup .curly (← get) then .braced else .other
    return ⟨start ++ (← anyGroup), shape⟩
  if braces && beginGroup .curly ts then
    let fields ← group .curly do r.fieldValues ((← remaining) + 1)
    return ⟨p.tokens ++ fields, .other⟩
  return ⟨p.tokens, .other⟩

/-- A list, or a value and how often it is repeated. -/
def list (r : Readers) : Written :=
  group .square do
    if (← get).isEmpty then return []
    let first ← r.expression
    if beginMark ";" (← get) then return first ++ (← mark ";") ++ (← r.expression)
    return first ++ (← optionally (beginMark ",") (mark "," ++ commaList r.expression))

/-! ## Operands -/

/-- Something that the compiler provides, written as it was read. -/
def builtIn : Written :=
  verbatim (word ["builtin"] ++ mark "#" ++ identifier ++ do
    if beginGroup .round (← get) then anyGroup else failure)

/-- An operand without signs and without what follows it. -/
def atom (r : Readers) (braces : Bool) :
    Grammar ExpressionPhrase := do
  let ts ← get
  let second := ts.drop 1
  let shaped (shape : ExpressionShape) (read : Written) : Grammar ExpressionPhrase := do
    return ⟨← read, shape⟩
  let other := shaped .other
  let valued (read : Written) : Grammar ExpressionPhrase :=
    other (read ++ optionally beginExpression r.expression)
  if beginLiteral ts then other literal
  else if beginWord ["async"] ts && (beginGroup .curly second ||
      (beginWord ["move"] second && beginGroup .curly (ts.drop 2))) then
    other (anyWord ++ word? ["move"] ++ r.plainBlock)
  else if beginWord ["try"] ts && beginGroup .curly second then
    shaped .block (anyWord ++ r.plainBlock)
  else if beginClosure ts then other (r.closure braces)
  else if beginWord ["builtin"] ts && beginMark "#" second then shaped .verbatim builtIn
  else if beginPath ts || beginMark "<" ts ||
      (beginWord ["try"] ts && beginOneOf ["!", "::"] second) then r.pathExpression braces
  else if beginGroup .round ts then other r.callArguments
  else if beginWord ["break"] ts then other (r.breaking braces)
  else if beginWord ["continue"] ts then other (anyWord ++ optionally beginLifetime lifetime)
  else if beginWord ["return", "yield"] ts then valued anyWord
  else if beginWord ["become"] ts then shaped .verbatim (verbatim (anyWord ++ r.expression))
  else if beginGroup .square ts then other r.list
  else if beginWord ["let"] ts then other (r.letCondition braces)
  else if beginWord ["if"] ts then shaped .block (r.conditional ts.length)
  else if beginWord ["while"] ts then shaped .block r.whileLoop
  else if beginWord ["for"] ts then shaped .block r.forLoop
  else if beginWord ["match"] ts then shaped .block (r.matching)
  else if beginWord ["loop", "unsafe", "const"] ts then shaped .block (anyWord ++ r.block)
  else if beginGroup .curly ts then shaped .block r.block
  else if beginMark ".." ts then shaped .range (r.rangeEnd braces)
  else if beginWord ["_"] ts then other anyWord
  else if beginLifetime ts then shaped .block r.named
  else failure

/-- The sign of a reference, or of a raw address. -/
def referenceSign : Written := do
  let start ← mark "&"
  let ts ← get
  if beginWord ["raw"] ts && beginWord ["mut", "const"] (ts.drop 1) then
    return start ++ (← anyWord) ++ (← anyWord)
  return start ++ (← word? ["mut"])

/-- An operand with its attributes, its signs and what follows it. What is written as it was read is
so with its attributes; a range has none. -/
def operandWith (r : Readers) (braces : Bool) :
    Grammar ExpressionPhrase := do
  let start ← get
  let attributes ← r.outerAttributes
  let ts ← get
  let signed (sign : Written) : Grammar ExpressionPhrase := do
    let sign ← sign
    return ⟨sign ++ (← r.operand braces).tokens, .other⟩
  let e ←
    if beginMark "&" ts then signed referenceSign
    else if beginMark "*" ts then signed (mark "*")
    else if beginMark "!" ts then signed (mark "!")
    else if beginMark "-" ts then signed (mark "-")
    else do r.trailers (← r.atom braces)
  if e.shape == .verbatim then return ⟨← takenSince start, .verbatim⟩
  guard (attributes.isEmpty || e.shape != .range)
  return ⟨attributes ++ e.tokens, e.shape⟩

/-! ## Expressions that stand for themselves -/

/-- An expression with attributes before it. A range with attributes is written in parentheses, and
what is written as it was read loses them. -/
def withAttributes (attributes : List Token) (e : ExpressionPhrase) : ExpressionPhrase :=
  if attributes.isEmpty || e.shape == .verbatim then e
  else if e.shape == .range then { e with tokens := attributes ++ Token.round e.tokens }
  else { e with tokens := attributes ++ e.tokens }

/-- What begins a statement or the body of an arm: after a block only a point or `?` goes on. -/
def firstOperand (r : Readers) : Grammar ExpressionPhrase := do
  let ts ← get
  let second := ts.drop 1
  if beginWord ["if", "while", "loop", "match", "unsafe"] ts || beginGroup .curly ts ||
      beginLifetime ts || (beginWord ["for"] ts && !beginParameters second) ||
      (beginWord ["try", "const"] ts && beginGroup .curly second) then
    r.atom true
  else r.operand true

/-- An expression that is a statement or the body of an arm. -/
def standingWith (r : Readers) : Grammar ExpressionPhrase := do
  let attributes ← r.outerAttributes
  let first ← r.firstOperand
  if first.shape != .block then r.operators true .jump (withAttributes attributes first)
  else
    let ts ← get
    if (beginMark "." ts && !beginMark ".." ts) || beginMark "?" ts then
      r.operators true .jump (withAttributes attributes (← r.trailers first))
    else return withAttributes attributes first

end BeanMapping.Code.Readers
