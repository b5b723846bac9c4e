import BeanMapping.Code.Grammar.Item
import BeanMapping.Code.Lexer

/-!
# Types, paths and identifiers of generated code

Which texts are types, paths and identifiers of the generated code, with the tokens that they are
written with; and which tokens are items. A text is one of them when all of its tokens are read.
-/

namespace BeanMapping.Code

open Grammar

/-! ## The knot -/

/-- The readers that may call one another so many levels deep. -/
def Readers.ofDepth : Nat → Readers
  | 0 => .failing
  | depth + 1 => {
    type := fun plus ts => (ofDepth depth).typeWith plus ts
    bound := fun allowsUse allowsConst ts => (ofDepth depth).boundWith allowsUse allowsConst ts
    operand := fun braces ts => (ofDepth depth).operandWith braces ts
    operators := fun braces base left ts => (ofDepth depth).operatorsWith braces base left ts
    standing := fun ts => (ofDepth depth).standingWith ts
    pattern := fun ts => (ofDepth depth).patternWith ts
    statements := fun ts => (ofDepth depth).statementsWith ts
    item := fun ts => (ofDepth depth).itemWith ts }

/-- Reads all of some tokens. A reader calls others only after it has taken a token, or a few times to
read the same tokens as something else, so the number of tokens bounds the levels. -/
def Readers.readAll? {α : Type} (read : Readers → Grammar α) (ts : List Token) : Option α :=
  match (read (ofDepth (8 * Token.listSize ts + 8))).run ts with
  | some (a, []) => some a
  | _ => none

/-! ## Texts -/

/-- A type, by the tokens that it is written with. -/
structure TypeCode where
  tokens : List Token
deriving Repr

/-- A path, by the tokens that it is written with. -/
structure PathCode where
  tokens : List Token
deriving Repr

/-- An identifier, raw or not. -/
structure Identifier where
  text : String
deriving DecidableEq, Repr

/-- The type that a text is. -/
def TypeCode.ofText? (text : String) : Option TypeCode := do
  return ⟨← Readers.readAll? Readers.typeTokens (← Lexer.read? text)⟩

/-- The path that a text is. -/
def PathCode.ofText? (text : String) : Option PathCode := do
  return ⟨(← Readers.readAll? (·.path false) (← Lexer.read? text)).tokens⟩

namespace Identifier

/-- The identifier that a text is. -/
def ofText? (text : String) : Option Identifier :=
  match Lexer.read? text with
  | some [.word w] => if keywords.contains w then none else some ⟨w⟩
  | _ => none

/-- The identifier as tokens. -/
def tokens (i : Identifier) : List Token := [.word i.text]

/-- The identifier without the sign of a raw one. -/
def bare (i : Identifier) : String :=
  if ['r', '#'].isPrefixOf i.text.toList then String.ofList (i.text.toList.drop 2) else i.text

end Identifier

/-! ## Items -/

/-- Whether tokens are items, before which attributes of the whole may stand. -/
def areItems (ts : List Token) : Bool :=
  (Readers.readAll? (fun r => r.innerAttributes ++ toEnd r.item) ts).isSome

end BeanMapping.Code
