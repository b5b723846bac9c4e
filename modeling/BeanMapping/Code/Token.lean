/-!
# Tokens of generated code

The generated code is Rust. It is made as a list of tokens and written with one blank between two
tokens, except after a punctuation mark that is joined to the next one. A group is written with its
tokens inside its delimiters; only braces have blanks inside.
-/

namespace BeanMapping.Code

/-- The delimiters of a group. -/
inductive Delimiter where
  | round
  | square
  | curly
deriving DecidableEq, Repr

/-- A token. -/
inductive Token where
  /-- A name or a keyword; a raw name begins with `r#`. -/
  | word (text : String)
  /-- A punctuation mark, and whether it is joined to the mark after it. -/
  | mark (char : Char) (joint : Bool)
  | literal (text : String)
  /-- The name of a lifetime, without its apostrophe. -/
  | lifetime (name : String)
  | group (delimiter : Delimiter) (inner : List Token)
deriving Repr, Inhabited

namespace Delimiter

/-- What a group begins with. -/
def opening : Delimiter → Char
  | .round => '('
  | .square => '['
  | .curly => '\x7b'

/-- What a group ends with. -/
def closing : Delimiter → Char
  | .round => ')'
  | .square => ']'
  | .curly => '\x7d'

/-- The delimiter that begins with a character. -/
def ofOpening? (c : Char) : Option Delimiter :=
  [Delimiter.round, .square, .curly].find? fun d => d.opening == c

/-- Whether a character ends a group. -/
def isClosing (c : Char) : Bool :=
  [Delimiter.round, .square, .curly].any fun d => d.closing == c

/-- A group of tokens that are written already. -/
def surround (d : Delimiter) (inner : List Char) : List Char :=
  match d with
  | .round | .square => d.opening :: inner ++ [d.closing]
  | .curly =>
    if inner.isEmpty then [d.opening, ' ', d.closing]
    else d.opening :: ' ' :: inner ++ [' ', d.closing]

end Delimiter

namespace Token

/-- Whether no blank follows the token. -/
def isJoint : Token → Bool
  | .mark _ joint => joint
  | _ => false

mutual

/-- The token as text. -/
def chars : Token → List Char
  | .word text | .literal text => text.toList
  | .mark c _ => [c]
  | .lifetime name => '\'' :: name.toList
  | .group d inner => d.surround (listChars inner)

/-- Tokens as text. -/
def listChars : List Token → List Char
  | [] => []
  | [t] => t.chars
  | t :: u :: rest => t.chars ++ (if t.isJoint then [] else [' ']) ++ listChars (u :: rest)

end

mutual

/-- The number of tokens in a token, with itself. -/
def size : Token → Nat
  | .group _ inner => listSize inner + 1
  | _ => 1

/-- The number of tokens in a list of tokens. -/
def listSize : List Token → Nat
  | [] => 0
  | t :: rest => t.size + listSize rest

end

/-- Tokens as text. -/
def listText (ts : List Token) : String :=
  String.ofList (listChars ts)

/-! ## Writing tokens -/

/-- The marks of a punctuation of several characters, joined to one another. -/
def marks (text : String) : List Token :=
  go text.toList
where
  /-- The marks of the characters that are left. -/
  go : List Char → List Token
    | [] => []
    | [c] => [.mark c false]
    | c :: rest => .mark c true :: go rest

/-- Tokens from a text of words and punctuation with blanks between them. -/
def spelled (text : String) : List Token :=
  ((text.splitToList (· == ' ')).filter (· ≠ "")).flatMap fun piece =>
    match piece.toList with
    | c :: _ => if c.isAlpha then [.word piece] else marks piece
    | [] => []

/-- Tokens in parentheses. -/
def round (inner : List Token) : List Token := [.group .round inner]

/-- Tokens in braces. -/
def curly (inner : List Token) : List Token := [.group .curly inner]

end Token

end BeanMapping.Code
