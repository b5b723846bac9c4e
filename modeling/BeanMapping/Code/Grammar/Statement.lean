import BeanMapping.Code.Grammar.Expression

/-!
# Statements of generated code

A block holds items, bindings, calls of macros with braces, and expressions. An expression needs a
semicolon before the next statement unless it ends with a block.
-/

namespace BeanMapping.Code.Readers

open Grammar

/-- A statement that was read, and whether a semicolon has to come before the next. -/
structure StatementPhrase where
  tokens : List Token
  needsSemicolon : Bool

/-- What tokens hold after a path without generic arguments. -/
def afterPlainPath? (ts : List Token) : Option (List Token) :=
  (plainPath.run ts).map (·.2)

/-- Whether tokens begin with the definition of a macro by a macro. -/
def beginMacroItem (ts : List Token) : Bool :=
  match afterPlainPath? ts with
  | some rest =>
    beginMark "!" rest && (beginIdentifier (rest.drop 1) || beginWord ["try"] (rest.drop 1))
  | none => false

/-- Whether tokens begin with a call of a macro with braces of which nothing else is made. -/
def beginMacroStatement (ts : List Token) : Bool :=
  match afterPlainPath? ts with
  | some rest =>
    let after := rest.drop 2
    beginMark "!" rest && beginGroup .curly (rest.drop 1) &&
      !((beginMark "." after && !beginMark ".." after) || beginMark "?" after)
  | none => false

/-- Whether tokens begin with an item. -/
def beginItem (ts : List Token) : Bool :=
  let second := ts.drop 1
  let third := ts.drop 2
  beginWord ["pub", "extern", "use", "fn", "mod", "type", "struct", "enum", "trait", "impl",
    "macro"] ts ||
    (beginWord ["crate"] ts && !beginMark "::" second) ||
    (beginWord ["static"] ts && (beginWord ["mut"] second || beginIdentifier second)) ||
    (beginWord ["const"] ts && !(beginGroup .curly second || beginWord ["static", "move"] second ||
      beginMark "|" second ||
      (beginWord ["async"] second && !beginWord ["unsafe", "extern", "fn"] third))) ||
    (beginWord ["unsafe"] ts && !beginGroup .curly second) ||
    (beginWord ["async"] ts && beginWord ["unsafe", "extern", "fn"] second) ||
    (beginWord ["union"] ts && beginIdentifier second) ||
    (beginWord ["auto"] ts && beginWord ["trait"] second) ||
    (beginWord ["default"] ts && beginWord ["unsafe", "impl"] second) ||
    beginMacroItem ts

/-- Whether the last token is a group in braces. -/
def endsWithBraces (ts : List Token) : Bool :=
  match ts.getLast? with
  | some (.group .curly _) => true
  | _ => false

/-- A binding with its type, its value, and what is done when the value does not fit, which cannot
follow a value that ends with braces. -/
def localBinding (r : Readers) : Written := do
  let start ← word ["let"] ++ r.patternTokens ++ optionally (beginMark ":") (mark ":" ++ r.typeTokens)
  if !beginMark "=" (← get) then return start ++ (← mark ";")
  let value ← mark "=" ++ r.expression
  let otherwise ← if endsWithBraces value then pure []
    else optionally (beginWord ["else"]) (anyWord ++ r.plainBlock)
  return start ++ value ++ otherwise ++ (← mark ";")

/-- A statement. -/
def statement (r : Readers) : Grammar StatementPhrase := do
  let start ← get
  let attributes ← r.outerAttributes
  let ts ← get
  if beginMacroStatement ts then
    return ⟨attributes ++ (← plainPath ++ mark "!" ++ anyGroup ++ mark? ";"), false⟩
  if beginWord ["let"] ts then return ⟨attributes ++ (← r.localBinding), false⟩
  if beginItem ts then
    set start
    return ⟨← r.item, false⟩
  let e ← r.standing
  let ending ← mark? ";"
  return ⟨(withAttributes attributes e).tokens ++ ending,
    ending.isEmpty && !(e.shape == .block || e.shape == .braced)⟩

/-- Statements up to the end, at most so many. -/
def statementsWithin (r : Readers) : Nat → Written
  | 0 => return []
  | fuel + 1 => do
    let empty ← many (beginMark ";") (mark ";")
    if (← get).isEmpty then return empty
    let s ← r.statement
    if (← get).isEmpty then return empty ++ s.tokens
    guard !s.needsSemicolon
    return empty ++ s.tokens ++ (← r.statementsWithin fuel)

/-- The statements of a block. -/
def statementsWith (r : Readers) : Written := do
  r.statementsWithin ((← remaining) + 1)

end BeanMapping.Code.Readers
