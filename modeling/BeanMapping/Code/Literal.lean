import BeanMapping.Text.Hexadecimal
import BeanMapping.Text.IdentifierChars

/-!
# Literals of the generated code

How far a literal reaches: quoted texts of three kinds, single characters, and numbers. Each may end
with a name, its suffix. Nothing is computed but the number that an index writes; a literal is kept
as it is written.
-/

namespace BeanMapping.Code.Literal

/-! ## Names -/

/-- The text after the name that it begins with. -/
def afterName? : List Char → Option (List Char)
  | c :: rest =>
    if Text.startsIdentifier c then some (rest.dropWhile Text.continuesIdentifier) else none
  | [] => none

/-- The text after the name that it may begin with. -/
def afterSuffix (cs : List Char) : List Char :=
  (afterName? cs).getD cs

/-! ## Quoted texts -/

/-- What a quoted text may hold. -/
inductive Quoting where
  /-- Any characters. -/
  | text
  /-- Bytes, of which those of ASCII may stand for themselves. -/
  | bytes
  /-- Any characters but the null character, which ends the text. -/
  | terminated
deriving DecidableEq, Repr

namespace Quoting

/-- Whether a character may stand for itself. -/
def admits : Quoting → Char → Bool
  | .text, _ => true
  | .bytes, c => c.toNat < 128
  | .terminated, c => c != '\x00'

/-- Whether two hexadecimal digits may write the number. -/
def admitsByte : Quoting → Nat → Bool
  | .text, n => n < 128
  | .bytes, _ => true
  | .terminated, n => n != 0

/-- Whether a character may be written by its number. -/
def admitsNumber : Quoting → Nat → Bool
  | .text, n => n.isValidChar
  | .bytes, _ => false
  | .terminated, n => n.isValidChar && n != 0

/-- The letters and signs that may follow a backslash by themselves. -/
def escapes : Quoting → List Char
  | .text | .bytes => ['n', 'r', 't', '\\', '\'', '"', '0']
  | .terminated => ['n', 'r', 't', '\\', '\'', '"']

end Quoting

/-- The number in braces after `\u`, from its first digit on, when `seen` digits that write `value`
stand before; and the text after it. Low lines may stand behind the first digit. -/
def bracedNumber? (value seen : Nat) : List Char → Option (Nat × List Char)
  | [] => none
  | c :: rest =>
    match Text.hexDigit? c with
    | some d => if seen < 6 then bracedNumber? (value * 16 + d) (seen + 1) rest else none
    | none =>
      if seen = 0 then none
      else if c = '_' then bracedNumber? value seen rest
      else if c = '\x7d' then some (value, rest)
      else none

/-- The text after an escape, from behind the backslash. -/
def afterEscape? (q : Quoting) : List Char → Option (List Char)
  | 'x' :: a :: b :: rest => do
    let high ← Text.hexDigit? a
    let low ← Text.hexDigit? b
    if q.admitsByte (high * 16 + low) then some rest else none
  | 'u' :: '\x7b' :: rest => do
    let (n, rest) ← bracedNumber? 0 0 rest
    if q.admitsNumber n then some rest else none
  | c :: rest => if q.escapes.contains c then some rest else none
  | [] => none

/-- The text after the line end and the blanks that a backslash takes out. Something must follow. -/
def afterLineEnd? : List Char → Option (List Char)
  | '\r' :: '\n' :: rest => afterLineEnd? rest
  | c :: rest =>
    if c = ' ' ∨ c = '\t' ∨ c = '\n' then afterLineEnd? rest
    else if c = '\r' then none
    else some (c :: rest)
  | [] => none

/-- The text after a quoted text, from behind the opening quote, in at most so many steps. A carriage
return must belong to a line end. -/
def afterQuoted? (q : Quoting) : Nat → List Char → Option (List Char)
  | 0, _ => none
  | fuel + 1, cs =>
    match cs with
    | '"' :: rest => some (afterSuffix rest)
    | '\r' :: '\n' :: rest => afterQuoted? q fuel rest
    | '\r' :: _ => none
    | '\\' :: '\n' :: rest => (afterLineEnd? ('\n' :: rest)).bind (afterQuoted? q fuel)
    | '\\' :: '\r' :: rest => (afterLineEnd? ('\r' :: rest)).bind (afterQuoted? q fuel)
    | '\\' :: rest => (afterEscape? q rest).bind (afterQuoted? q fuel)
    | c :: rest => if q.admits c then afterQuoted? q fuel rest else none
    | [] => none

/-- The text after a raw text that ends with a quote and these number signs. -/
def afterRawText? (q : Quoting) (signs : List Char) : List Char → Option (List Char)
  | '\r' :: '\n' :: rest => afterRawText? q signs rest
  | c :: rest =>
    if c = '"' ∧ signs.isPrefixOf rest then some (afterSuffix (rest.drop signs.length))
    else if c ≠ '\r' ∧ q.admits c then afterRawText? q signs rest
    else none
  | [] => none

/-- The text after a raw text, from its number signs on, of which there are at most 255. -/
def afterRaw? (q : Quoting) (cs : List Char) : Option (List Char) :=
  let signs := cs.takeWhile (· == '#')
  match cs.drop signs.length with
  | '"' :: rest => if signs.length ≤ 255 then afterRawText? q signs rest else none
  | _ => none

/-- The text after a single character in apostrophes, from behind the opening one. -/
def afterCharacter? (q : Quoting) (cs : List Char) : Option (List Char) := do
  let rest ← match cs with
    | '\\' :: rest => afterEscape? q rest
    | c :: rest => if q.admits c then some rest else none
    | [] => none
  match rest with
  | '\'' :: rest => some (afterSuffix rest)
  | _ => none

/-! ## Numbers -/

/-- Whether a character is a digit or a low line between digits. -/
def isDigitOrLine (c : Char) : Bool :=
  c.isDigit || c == '_'

/-- Whether a character begins an exponent. -/
def isExponentSign (c : Char) : Bool :=
  c == 'e' || c == 'E'

/-- The text after an exponent that has a digit, from behind its letter. -/
def afterExponent? (cs : List Char) : Option (List Char) :=
  let digits := match cs.dropWhile (· == '_') with
    | '+' :: rest | '-' :: rest => rest
    | rest => rest
  if (digits.takeWhile isDigitOrLine).any Char.isDigit then some (digits.dropWhile isDigitOrLine)
  else none

/-- The text after a number with a point or an exponent. A point is no part of a number when a name
or another point follows it, and neither is an exponent without a digit. -/
def afterDecimal? : List Char → Option (List Char)
  | c :: rest =>
    if c.isDigit then
      match rest.dropWhile isDigitOrLine with
      | '.' :: rest =>
        if rest.head?.any fun d => d == '.' || Text.startsIdentifier d then none
        else
          match rest.dropWhile isDigitOrLine with
          | e :: rest =>
            if isExponentSign e then some ((afterExponent? rest).getD (e :: rest))
            else some (e :: rest)
          | [] => some []
      | e :: rest => if isExponentSign e then afterExponent? rest else none
      | [] => none
    else none
  | [] => none

/-- The base of a whole number, and the text from its digits on. -/
def base : List Char → Nat × List Char
  | '0' :: 'x' :: rest => (16, rest)
  | '0' :: 'o' :: rest => (8, rest)
  | '0' :: 'b' :: rest => (2, rest)
  | cs => (10, cs)

/-- The digits of a whole number with the low lines between them. A decimal digit is among them
whether the base has it or not. -/
def digitRun (base : Nat) (cs : List Char) : List Char :=
  cs.takeWhile fun c => isDigitOrLine c || (Text.hexDigit? c).any (· < base)

/-- The text after a whole number. -/
def afterWhole? (cs : List Char) : Option (List Char) :=
  let (base, body) := base cs
  let run := digitRun base body
  let digits := run.filterMap Text.hexDigit?
  if digits.isEmpty || digits.any (base ≤ ·) || (base == 10 && run.head? == some '_') then none
  else some (body.drop run.length)

/-- The text after a number and its suffix, from behind the number. -/
def endOfNumber? (cs : List Char) : Option (List Char) :=
  let rest := afterSuffix cs
  if rest.head?.any Text.continuesIdentifier then none else some rest

/-! ## All literals -/

/-- The text after the literal that it begins with. -/
def after? (cs : List Char) : Option (List Char) :=
  let behind (start : List Char) (rest : List Char → Option (List Char)) : Option (List Char) :=
    if start.isPrefixOf cs then rest (cs.drop start.length) else none
  let quoted (q : Quoting) := afterQuoted? q (cs.length + 1)
  behind ['"'] (quoted .text) <|> behind ['r'] (afterRaw? .text) <|>
    behind ['b', '"'] (quoted .bytes) <|> behind ['b', 'r'] (afterRaw? .bytes) <|>
    behind ['c', '"'] (quoted .terminated) <|> behind ['c', 'r'] (afterRaw? .terminated) <|>
    behind ['b', '\''] (afterCharacter? .bytes) <|> behind ['\''] (afterCharacter? .text) <|>
    (afterDecimal? cs).bind endOfNumber? <|> (afterWhole? cs).bind endOfNumber?

/-- The literal that a text begins with, and the rest. -/
def read? (cs : List Char) : Option (String × List Char) :=
  (after? cs).map fun rest => (String.ofList (cs.take (cs.length - rest.length)), rest)

/-! ## Kinds of literals -/

/-- Whether a literal is a text of characters. -/
def isText (literal : String) : Bool :=
  literal.front == '"' || literal.front == 'r'

/-- Whether a literal is a number. -/
def isNumber (literal : String) : Bool :=
  literal.front.isDigit

/-- The value and the suffix of a whole number. A number with a point or an exponent is none. -/
def whole? (literal : String) : Option (Nat × List Char) :=
  let (base, body) := base literal.toList
  let run := digitRun base body
  let rest := body.drop run.length
  let isDecimal := match rest with
    | '.' :: _ => true
    | e :: rest =>
      base == 10 && isExponentSign e &&
        match rest.dropWhile isDigitOrLine with
        | '+' :: _ | '-' :: _ => true
        | after => (rest.takeWhile isDigitOrLine).any Char.isDigit &&
            after.head?.all Text.startsIdentifier
    | [] => false
  if !isNumber literal || isDecimal then none
  else some ((run.filterMap Text.hexDigit?).foldl (fun n d => n * base + d) 0, rest)

/-- The index that a whole number of 32 bits without a suffix writes, in decimal digits. -/
def index? (literal : String) : Option String :=
  match whole? literal with
  | some (n, []) => if n < UInt32.size then some (String.ofList (Nat.toDigits 10 n)) else none
  | _ => none

/-- The indices that a number with a point writes, with the point between them; and whether a point
is left at the end. -/
def indices? (literal : String) : Option (List String × Bool) := do
  let parts := literal.splitToList (· == '.')
  let isOpen := parts.getLast? == some ""
  let parts := if isOpen then parts.dropLast else parts
  return (← parts.mapM index?, isOpen)

end BeanMapping.Code.Literal
