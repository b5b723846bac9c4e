import BeanMapping.Code.Literal
import BeanMapping.Code.Token

/-!
# Reading generated code

A reader takes tokens from the front of a list, or fails. What it reads is kept as the tokens that it
is written with: punctuation is made anew, and where the written form has an order or a rule of its
own, the reader gives the tokens of that form.

Which rule of the grammar applies is decided on the tokens that come next, without taking any. The
last mark of a punctuation need not be alone for that: `>` begins `>>`.
-/

namespace BeanMapping.Code

/-! ## Tokens that come next -/

namespace Grammar

/-- The tokens after the marks of a punctuation, of which all but the last are joint. -/
def afterMarks? : List Char → List Token → Option (List Token)
  | [], ts => some ts
  | [c], .mark d _ :: ts => if c = d then some ts else none
  | c :: rest, .mark d true :: ts => if c = d then afterMarks? rest ts else none
  | _, _ => none

/-- Whether tokens begin with a punctuation. -/
def beginMark (text : String) (ts : List Token) : Bool :=
  (afterMarks? text.toList ts).isSome

/-- Whether tokens begin with one of some punctuations. -/
def beginOneOf (texts : List String) (ts : List Token) : Bool :=
  texts.any fun text => beginMark text ts

/-- Whether tokens begin with one of some words. -/
def beginWord (words : List String) : List Token → Bool
  | .word w :: _ => words.contains w
  | _ => false

/-- Whether tokens begin with a word of any kind. -/
def beginAnyWord : List Token → Bool
  | .word _ :: _ => true
  | _ => false

/-- The words that are no identifiers. -/
def keywords : List String :=
  ["_", "abstract", "as", "async", "await", "become", "box", "break", "const", "continue", "crate",
    "do", "dyn", "else", "enum", "extern", "false", "final", "fn", "for", "if", "impl", "in", "let",
    "loop", "macro", "match", "mod", "move", "mut", "override", "priv", "pub", "ref", "return",
    "Self", "self", "static", "struct", "super", "trait", "true", "try", "type", "typeof", "unsafe",
    "unsized", "use", "virtual", "where", "while", "yield"]

/-- Whether tokens begin with an identifier. -/
def beginIdentifier : List Token → Bool
  | .word w :: _ => !keywords.contains w
  | _ => false

/-- Whether tokens begin with a lifetime. -/
def beginLifetime : List Token → Bool
  | .lifetime _ :: _ => true
  | _ => false

/-- Whether tokens begin with a group. -/
def beginGroup (d : Delimiter) : List Token → Bool
  | .group e _ :: _ => d == e
  | _ => false

/-- Whether tokens begin with a constant: a literal, a truth value, or a number with a sign. -/
def beginLiteral : List Token → Bool
  | .literal _ :: _ | .word "true" :: _ | .word "false" :: _ => true
  | .mark '-' _ :: .literal text :: _ => Literal.isNumber text
  | _ => false

/-- Whether tokens begin with a literal that is a text. -/
def beginText : List Token → Bool
  | .literal text :: _ => Literal.isText text
  | _ => false

/-- Whether tokens begin with the start of a path that is not qualified by a type: an identifier, a
word that stands for a place, or `::`. -/
def beginPath (ts : List Token) : Bool :=
  beginIdentifier ts || beginWord ["self", "Self", "super", "crate"] ts || beginMark "::" ts

/-- Whether tokens begin with generic parameters and not with a type in angle brackets. -/
def beginParameters (ts : List Token) : Bool :=
  let second := ts.drop 1
  let third := ts.drop 2
  beginMark "<" ts && (beginOneOf [">", "#"] second || beginWord ["const"] second ||
    (beginLifetime second || beginIdentifier second) &&
      (beginOneOf [">", ",", "="] third || (beginMark ":" third && !beginMark "::" third)))

end Grammar

/-! ## Readers -/

/-- Takes tokens from the front of a list, or fails. -/
abbrev Grammar := StateT (List Token) Option

/-- Reads something and gives the tokens that it is written with. -/
abbrev Written := Grammar (List Token)

namespace Grammar

variable {α : Type}

/-- One thing after the other. -/
instance : Append Written :=
  ⟨fun first second => do return (← first) ++ (← second)⟩

/-- The next token. -/
def next : Grammar Token := do
  match ← get with
  | t :: rest =>
    set rest
    return t
  | [] => failure

/-- A punctuation. -/
def mark (text : String) : Written := fun ts =>
  (afterMarks? text.toList ts).map fun rest => (Token.marks text, rest)

/-- A token that the tokens to come have to begin with. -/
def oneIf (begins : List Token → Bool) : Written := do
  if begins (← get) then return [← next] else failure

/-- One of some words. -/
def word (words : List String) : Written := oneIf (beginWord words)

/-- Any word, also a keyword. -/
def anyWord : Written := oneIf beginAnyWord

/-- An identifier. -/
def identifier : Written := oneIf beginIdentifier

/-- A lifetime. -/
def lifetime : Written := oneIf beginLifetime

/-- A group of any kind, kept as it is. -/
def anyGroup : Written := do
  match ← next with
  | .group d inner => return [.group d inner]
  | _ => failure

/-- A constant. -/
def literal : Written := do
  if !beginLiteral (← get) then failure
  match ← next with
  | .mark c _ => return [.mark c false, ← next]
  | t => return [t]

/-- What is read where the tokens begin so, and nothing elsewhere. -/
def optionally (begins : List Token → Bool) (read : Written) : Written := do
  if begins (← get) then read else return []

/-- A punctuation, or nothing. -/
def mark? (text : String) : Written := optionally (beginMark text) (mark text)

/-- One of some words, or nothing. -/
def word? (words : List String) : Written := optionally (beginWord words) (word words)

/-- The inside of a group, all of which the reader takes. -/
def inside (d : Delimiter) (read : Grammar α) : Grammar α := do
  match ← next with
  | .group e inner =>
    guard (d == e)
    match read.run inner with
    | some (a, []) => return a
    | _ => failure
  | _ => failure

/-- A group. -/
def group (d : Delimiter) (read : Written) : Written := do
  return [.group d (← inside d read)]

/-- What a reader gives, or nothing, and then no token is taken. -/
def attempt? (read : Grammar α) : Grammar (Option α) := fun ts =>
  match read.run ts with
  | some (a, rest) => some (some a, rest)
  | none => some (none, ts)

/-- The tokens that were taken since some tokens were to come, as they were. -/
def takenSince (start : List Token) : Written := do
  return start.take (start.length - (← get).length)

/-- Reads something that is written as it was read. -/
def verbatim (read : Grammar α) : Written := do
  let start ← get
  let _ ← read
  takenSince start

/-- Reads something that is written as it was read, unless the reader gives a written form. -/
def orVerbatim (read : Grammar (Option (List Token))) : Written := do
  let start ← get
  match ← read with
  | some written => return written
  | none => takenSince start

/-! ## Repetition -/

/-- The number of tokens that are left. -/
def remaining : Grammar Nat := do
  return (← get).length

/-- One thing after the other while the tokens begin so, at most so many. -/
def whileBegins (begins : List Token → Bool) (read : Written) : Nat → Written
  | 0 => return []
  | fuel + 1 => do
    if begins (← get) then return (← read) ++ (← whileBegins begins read fuel) else return []

/-- One thing after the other while the tokens begin so. -/
def many (begins : List Token → Bool) (read : Written) : Written := do
  whileBegins begins read (← remaining)

/-- One thing after the other up to the end. -/
def toEnd (read : Written) : Written :=
  many (!·.isEmpty) read

/-- Things with a separator between them, at most so many, each with the separator after it. The
tokens at `stop` begin no more of them, and none follows a thing without a separator. -/
def piecesWithin (separator : String) (stop : List Token → Bool) (read : Grammar α) :
    Nat → Grammar (List (α × List Token))
  | 0 => return []
  | fuel + 1 => do
    if stop (← get) then return []
    let a ← read
    let after ← mark? separator
    if after.isEmpty then return [(a, [])]
    return (a, after) :: (← piecesWithin separator stop read fuel)

/-- Things with a separator between them, each with the separator after it. -/
def pieces (separator : String) (stop : List Token → Bool) (read : Grammar α) :
    Grammar (List (α × List Token)) := do
  piecesWithin separator stop read ((← remaining) + 1)

/-- Things with a separator between them and maybe after the last. -/
def chain (separator : String) (stop : List Token → Bool) (read : Written) : Written := do
  return (← pieces separator stop read).flatMap fun p => p.1 ++ p.2

/-- Things with commas between them up to the end of a group. -/
def commaList (read : Written) : Written :=
  chain "," (·.isEmpty) read

/-- Things with commas between them in the order in which they are written: those that are marked come
first, which is where lifetimes stand. -/
def markedFirst (items : List ((Bool × List Token) × List Token)) : List Token :=
  let first := items.filter (·.1.1)
  let others := items.filter (!·.1.1)
  let comma := match others, first.getLast? with
    | _ :: _, some (_, []) => Token.marks ","
    | _, _ => []
  first.flatMap (fun a => a.1.2 ++ a.2) ++ comma ++ others.flatMap fun a => a.1.2 ++ a.2

end Grammar

/-! ## What is read -/

/-- What matters about a type that was read, besides its tokens. -/
inductive TypeShape where
  /-- A path of one segment, which may also name an associated type. -/
  | name
  /-- Another path that is not qualified by a type. -/
  | path
  /-- A single trait. -/
  | bound
  | other
deriving DecidableEq, Repr

/-- A type that was read. -/
structure TypePhrase where
  tokens : List Token
  shape : TypeShape

/-- A bound that was read, and whether it is a trait. -/
structure BoundPhrase where
  tokens : List Token
  isTrait : Bool

/-- What matters about an expression that was read, besides its tokens. -/
inductive ExpressionShape where
  /-- A comparison of two operands. -/
  | comparison
  | range
  /-- A block, or something that ends with one as a statement does. -/
  | block
  /-- A call of a macro with braces. -/
  | braced
  /-- Something that is written as it was read. -/
  | verbatim
  | other
deriving DecidableEq, Repr

/-- An expression that was read. -/
structure ExpressionPhrase where
  tokens : List Token
  shape : ExpressionShape

/-- What matters about a pattern that was read, besides its tokens. -/
inductive PatternShape where
  /-- A range without a start or without an end. -/
  | open
  /-- Something that is written as it was read. -/
  | verbatim
  | other
deriving DecidableEq, Repr

/-- A pattern that was read. -/
structure PatternPhrase where
  tokens : List Token
  shape : PatternShape

/-- How tightly operators bind, from loose to tight. -/
inductive Precedence where
  | jump
  | assign
  | range
  | either
  | both
  | binding
  | compare
  | bitOr
  | bitXor
  | bitAnd
  | shift
  | sum
  | product
  | cast
deriving DecidableEq, Repr

/-- The readers that call one another. Each family of readers is defined over all of them, and
`Readers.ofDepth` ties the knot. -/
structure Readers where
  /-- A type; whether bounds may be joined by `+`. -/
  type : Bool → Grammar TypePhrase
  /-- A bound; whether it may be `use`, and whether it may be `const`. -/
  bound : Bool → Bool → Grammar BoundPhrase
  /-- An operand with its signs and what follows it; whether braces may follow a path. -/
  operand : Bool → Grammar ExpressionPhrase
  /-- What follows a first operand, with operators that bind at least so tightly. -/
  operators : Bool → Precedence → ExpressionPhrase → Grammar ExpressionPhrase
  /-- An expression that is a statement or the body of an arm. -/
  standing : Grammar ExpressionPhrase
  /-- A pattern without alternatives. -/
  pattern : Grammar PatternPhrase
  /-- The statements of a block. -/
  statements : Written
  /-- An item with its attributes. -/
  item : Written

namespace Readers

/-- The readers that fail. -/
def failing : Readers where
  type _ := failure
  bound _ _ := failure
  operand _ := failure
  operators _ _ _ := failure
  standing := failure
  pattern := failure
  statements := failure
  item := failure

/-- A type in which bounds may be joined. -/
def typeTokens (r : Readers) : Written := do
  return (← r.type true).tokens

/-- A type in which bounds may not be joined. -/
def singleType (r : Readers) : Written := do
  return (← r.type false).tokens

/-- A bound that is neither `use` nor `const`. -/
def plainBound (r : Readers) : Written := do
  return (← r.bound false false).tokens

/-- A bound that may be `const`. -/
def constBound (r : Readers) : Written := do
  return (← r.bound false true).tokens

/-- An expression; whether braces may follow a path in it. -/
def expressionIn (r : Readers) (braces : Bool) : Grammar ExpressionPhrase := do
  r.operators braces .jump (← r.operand braces)

/-- An expression. -/
def expression (r : Readers) : Written := do
  return (← r.expressionIn true).tokens

/-- An expression before a block, in which no braces follow a path. -/
def condition (r : Readers) : Written := do
  return (← r.expressionIn false).tokens

end Readers

end BeanMapping.Code
