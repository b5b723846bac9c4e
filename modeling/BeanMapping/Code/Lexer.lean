import BeanMapping.Code.Literal
import BeanMapping.Code.Token
import BeanMapping.Text.Blank
import BeanMapping.Text.Quoted

/-!
# Reading tokens

Cuts a text into tokens. Blanks and comments only separate; a documentation comment stands for the
attribute that holds its text. A group has to be closed by its own delimiter.
-/

namespace BeanMapping.Code.Lexer

/-! ## Blanks and comments -/

/-- Whether a character only separates tokens: white space, or a mark of the writing direction. -/
def isSeparator (c : Char) : Bool :=
  Text.isBlank c || c == '\u200e' || c == '\u200f'

/-- The line up to its end, and the text from the line end on. -/
def line : List Char → List Char × List Char
  | '\n' :: rest => ([], '\n' :: rest)
  | '\r' :: '\n' :: rest => ([], '\n' :: rest)
  | c :: rest => (c :: (line rest).1, (line rest).2)
  | [] => ([], [])

/-- The text after the end of a comment that is so many levels deep. -/
def afterComment? : Nat → List Char → Option (List Char)
  | depth, '/' :: '*' :: rest => afterComment? (depth + 1) rest
  | depth, '*' :: '/' :: rest => if depth ≤ 1 then some rest else afterComment? (depth - 1) rest
  | depth, _ :: rest => afterComment? depth rest
  | _, [] => none

/-- A comment, up to its end and without its sign, and the text after it. -/
def block? (cs : List Char) : Option (List Char × List Char) :=
  (afterComment? 1 (cs.drop 2)).map fun rest =>
    (((cs.take (cs.length - rest.length)).drop 3).dropLast.dropLast, rest)

/-- The documentation comment that a text begins with: whether it documents what it stands in, what
it says, and the rest of the text. A comment of more than two slashes or stars is an ordinary one. -/
def documentation? : List Char → Option (Bool × List Char × List Char)
  | '/' :: '/' :: '/' :: '/' :: _ => none
  | '/' :: '/' :: '/' :: rest => some (false, line rest)
  | '/' :: '/' :: '!' :: rest => some (true, line rest)
  | '/' :: '*' :: '*' :: '/' :: _ | '/' :: '*' :: '*' :: '*' :: _ => none
  | '/' :: '*' :: '*' :: rest => (block? ('/' :: '*' :: '*' :: rest)).map fun b => (false, b)
  | '/' :: '*' :: '!' :: rest => (block? ('/' :: '*' :: '!' :: rest)).map fun b => (true, b)
  | _ => none

/-- The text without separators and ordinary comments before its first token, in at most so many
steps. A comment without an end stays. -/
def skip : Nat → List Char → List Char
  | 0, cs => cs
  | fuel + 1, cs =>
    if (documentation? cs).isSome then cs
    else
      match cs with
      | '/' :: '/' :: rest => skip fuel (line rest).2
      | '/' :: '*' :: '*' :: '/' :: rest => skip fuel rest
      | '/' :: '*' :: rest =>
        match afterComment? 1 rest with
        | some rest => skip fuel rest
        | none => cs
      | c :: rest => if isSeparator c then skip fuel rest else cs
      | [] => []

/-- Whether a carriage return is no part of a line end. -/
def hasBareReturn : List Char → Bool
  | '\r' :: '\n' :: rest => hasBareReturn rest
  | '\r' :: _ => true
  | _ :: rest => hasBareReturn rest
  | [] => false

/-- The text of a documentation comment inside quotes. A null character before a digit is written in
two digits, so that nothing can be added to it. -/
def quotedComment : List Char → List Char
  | [] => []
  | '\x00' :: d :: rest =>
    (if '0' ≤ d ∧ d ≤ '7' then ['\\', 'x', '0', '0'] else ['\\', '0']) ++ quotedComment (d :: rest)
  | c :: rest => Text.quotedChar c ++ quotedComment rest

/-- The attribute that a documentation comment stands for. -/
def documentationTokens (isInner : Bool) (text : List Char) : List Token :=
  .mark '#' false :: (if isInner then [.mark '!' false] else []) ++
    [.group .square [.word "doc", .mark '=' false,
      .literal (String.ofList ('"' :: (quotedComment text ++ ['"'])))]]

/-! ## Names -/

/-- The name that a text begins with, and the rest. -/
def name? (cs : List Char) : Option (String × List Char) :=
  (Literal.afterName? cs).map fun rest => (String.ofList (cs.take (cs.length - rest.length)), rest)

/-- The names that cannot be written raw. -/
def neverRaw : List String := ["_", "super", "self", "Self", "crate"]

/-- A name, or a raw name. -/
def anyWord? : List Char → Option (String × List Char)
  | 'r' :: '#' :: rest => do
    let (name, rest) ← name? rest
    guard (!neverRaw.contains name)
    return ("r#" ++ name, rest)
  | cs => name? cs

/-- What literals begin with and names do not. -/
def literalStarts : List String :=
  ["r\"", "r#\"", "r##", "b\"", "b'", "br\"", "br#", "c\"", "cr\"", "cr#"]

/-- A name, or a raw name, that is not the beginning of a literal. -/
def word? (cs : List Char) : Option (String × List Char) :=
  if literalStarts.any fun s => s.toList.isPrefixOf cs then none else anyWord? cs

/-! ## Marks -/

/-- The punctuation marks. -/
def punctuation : List Char := "~!@#$%^&*-=+|;:,<.>/?'".toList

/-- Whether the text begins with a punctuation mark that begins no comment. -/
def beginsMark : List Char → Bool
  | '/' :: '/' :: _ | '/' :: '*' :: _ => false
  | c :: _ => punctuation.contains c
  | [] => false

/-- What an apostrophe begins: a lifetime, or a mark before a literal that begins like a name. -/
def apostrophe? (rest : List Char) : Option (Token × List Char) := do
  let (_, after) ← anyWord? rest
  guard (after.head? != some '\'' && (after.head? != some '#' || ['r', '#'].isPrefixOf rest))
  if (Literal.read? rest).isSome then return (.mark '\'' true, rest)
  let (name, after) ← word? rest
  return (.lifetime name, after)

/-- A lifetime or a punctuation mark. -/
def mark? : List Char → Option (Token × List Char)
  | '\'' :: rest => apostrophe? rest
  | c :: rest =>
    if beginsMark (c :: rest) then some (.mark c (beginsMark rest), rest) else none
  | [] => none

/-! ## Tokens -/

/-- What stands for a literal that could not be made. -/
def errorLiteral : String := "(/*ERROR*/)"

/-- A token that is no group. -/
def leaf? (cs : List Char) : Option (Token × List Char) :=
  ((Literal.read? cs).map fun (text, rest) => (.literal text, rest)) <|> mark? cs <|>
    ((word? cs).map fun (text, rest) => (.word text, rest)) <|>
    if errorLiteral.toList.isPrefixOf cs then
      some (.literal errorLiteral, cs.drop errorLiteral.length)
    else none

/-- The delimiter of the group that a text begins with. -/
def opening? (cs : List Char) : Option Delimiter :=
  if errorLiteral.toList.isPrefixOf cs then none else cs.head?.bind Delimiter.ofOpening?

/-- The tokens up to the end of the text or of the group, in at most so many steps. -/
def tokens? : Nat → List Char → Option (List Token × List Char)
  | 0, _ => none
  | fuel + 1, cs =>
    let cs := skip (cs.length + 1) cs
    match documentation? cs with
    | some (isInner, text, rest) => do
      guard !hasBareReturn text
      let (others, rest) ← tokens? fuel rest
      return (documentationTokens isInner text ++ others, rest)
    | none =>
      match cs with
      | [] => some ([], [])
      | c :: rest => do
        if Delimiter.isClosing c then return ([], c :: rest)
        match opening? (c :: rest) with
        | some d =>
          match ← tokens? fuel rest with
          | (inner, close :: rest) =>
            guard (close == d.closing)
            let (others, rest) ← tokens? fuel rest
            return (.group d inner :: others, rest)
          | (_, []) => none
        | none =>
          let (t, rest) ← leaf? (c :: rest)
          let (others, rest) ← tokens? fuel rest
          return (t :: others, rest)

/-- The text without the mark of byte order that it may begin with. -/
def withoutByteOrder : List Char → List Char
  | '\ufeff' :: rest => rest
  | cs => cs

/-- The tokens of a text. -/
def read? (text : String) : Option (List Token) :=
  match tokens? (text.length + 1) (withoutByteOrder text.toList) with
  | some (ts, []) => some ts
  | _ => none

end BeanMapping.Code.Lexer
