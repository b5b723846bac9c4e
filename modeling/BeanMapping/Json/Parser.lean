import BeanMapping.Json.Basic
import BeanMapping.Text.Hexadecimal

/-!
# Reading a JSON text

`Json.parse` reads exactly one value with blanks around it, and fails on anything else: trailing
text, trailing commas, control characters inside quotes, half of a surrogate pair. A repeated name
in an object is kept, so that a reader of records can refuse it. `Json.read?` asks for the syntax
alone: what is syntax but no value is kept as `Json.unfit`, for a reader that passes it over.

Each step takes at least one character, so the length of the text bounds the steps.
-/

namespace BeanMapping.Json

/-- The text from its first character that is no blank between tokens. -/
def skipBlanks (cs : List Char) : List Char :=
  cs.dropWhile fun c => c == ' ' || c == '\n' || c == '\t' || c == '\r'

/-! ## Quoted texts -/

/-- The number that four hexadecimal digits write. -/
def hexUnit? (a b c d : Char) : Option Nat := do
  let a ← Text.hexDigit? a
  let b ← Text.hexDigit? b
  let c ← Text.hexDigit? c
  let d ← Text.hexDigit? d
  return ((a * 16 + b) * 16 + c) * 16 + d

/-- The character that a letter after a backslash stands for. -/
def escaped? : Char → Option Char
  | '"' => some '"'
  | '\\' => some '\\'
  | '/' => some '/'
  | 'b' => some '\x08'
  | 'f' => some '\x0c'
  | 'n' => some '\n'
  | 'r' => some '\r'
  | 't' => some '\t'
  | _ => none

/-- One character of a quoted text: the character and the rest. Two units of a surrogate pair make
one character, and half of a pair makes none. -/
def quotedChar? : List Char → Option (Option Char × List Char)
  | '\\' :: 'u' :: a :: b :: c :: d :: rest => do
    let unit ← hexUnit? a b c d
    if unit < 0xD800 ∨ 0xE000 ≤ unit then
      return (some (Char.ofNat unit), rest)
    else if unit < 0xDC00 then
      match rest with
      | '\\' :: 'u' :: a :: b :: c :: d :: after =>
        let low ← hexUnit? a b c d
        if 0xDC00 ≤ low ∧ low < 0xE000 then
          return (some (Char.ofNat (0x10000 + (unit - 0xD800) * 0x400 + (low - 0xDC00))), after)
        else return (none, rest)
      | _ => return (none, rest)
    else return (none, rest)
  | '\\' :: c :: rest => (escaped? c).map fun c => (some c, rest)
  | c :: rest => if c.toNat < 0x20 ∨ c = '\\' then none else some (some c, rest)
  | [] => none

/-- The characters up to the closing quote, unless half of a surrogate pair is among them, and what
follows the quote. -/
def quoted? : Nat → List Char → Option (Option (List Char) × List Char)
  | 0, _ => none
  | _ + 1, '"' :: rest => some (some [], rest)
  | fuel + 1, cs => do
    let (c, rest) ← quotedChar? cs
    let (text, rest) ← quoted? fuel rest
    return (c.bind fun c => text.map (c :: ·), rest)

/-- A quoted text as a value. -/
def ofQuoted : Option (List Char) → Json
  | some text => .str (String.ofList text)
  | none => unfit

/-! ## Numbers -/

/-- The number that decimal digits write. -/
def natOfDigits (cs : List Char) : Nat :=
  cs.foldl (fun n c => n * 10 + (c.toNat - '0'.toNat)) 0

/-- The digits of the whole part: a zero alone, or digits that do not begin with one. -/
def wholePart? : List Char → Option (List Char × List Char)
  | '0' :: rest => some (['0'], rest)
  | cs =>
    match cs.takeWhile Char.isDigit with
    | [] => none
    | digits => some (digits, cs.dropWhile Char.isDigit)

/-- The digits after a point, if there is one. -/
def fraction? : List Char → Option (List Char × List Char)
  | '.' :: cs =>
    match cs.takeWhile Char.isDigit with
    | [] => none
    | digits => some (digits, cs.dropWhile Char.isDigit)
  | cs => some ([], cs)

/-- The digits of an exponent, after its sign. -/
def exponentDigits? (negative : Bool) (cs : List Char) : Option (Option Int × List Char) :=
  match cs.takeWhile Char.isDigit with
  | [] => none
  | digits =>
    let value : Int := natOfDigits digits
    some (some (if negative then -value else value), cs.dropWhile Char.isDigit)

/-- The exponent, if there is one. -/
def exponent? : List Char → Option (Option Int × List Char)
  | c :: cs =>
    if c = 'e' ∨ c = 'E' then
      match cs with
      | '-' :: rest => exponentDigits? true rest
      | '+' :: rest => exponentDigits? false rest
      | rest => exponentDigits? false rest
    else some (none, c :: cs)
  | [] => some (none, [])

/-- The number of a sign, a whole part, a fraction and an exponent. A whole number of 64 bits is an
integer, anything else a decimal. -/
def numberOf (negative : Bool) (whole fraction : List Char) (exponent : Option Int) : Number :=
  let value := natOfDigits whole
  if fraction.isEmpty ∧ exponent.isNone then
    if negative then
      if 0 < value ∧ value ≤ Nat.pow 2 63 then .int (-value) else .dec (.normal true value 0)
    else if value < Nat.pow 2 64 then .int value else .dec (.normal false value 0)
  else
    .dec (.normal negative (natOfDigits (whole ++ fraction)) (exponent.getD 0 - fraction.length))

/-- A number after its sign. -/
def unsigned? (negative : Bool) (cs : List Char) : Option (Number × List Char) := do
  let (whole, cs) ← wholePart? cs
  let (fraction, cs) ← fraction? cs
  let (exponent, cs) ← exponent? cs
  return (numberOf negative whole fraction exponent, cs)

/-- A number and the rest of the text. -/
def number? : List Char → Option (Number × List Char)
  | '-' :: cs => unsigned? true cs
  | cs => unsigned? false cs

/-- The place of the first digit of a decimal: one above `e` when that digit counts `10 ^ e`. -/
def leadingPlace (d : Decimal) : Int :=
  (Nat.toDigits 10 d.digits).length + d.exponent

/-- Whether a number is so large that floating point has no finite number for it. -/
def isBeyond (d : Decimal) : Bool :=
  d.digits != 0 && (310 < leadingPlace d || (300 < leadingPlace d &&
    (Nat.pow 2 1024 - Nat.pow 2 970) * Nat.pow 10 (-d.exponent).toNat ≤
      d.digits * Nat.pow 10 d.exponent.toNat))

/-- Whether a number is so small that floating point has only zero for it. -/
def isVanishing (d : Decimal) : Bool :=
  leadingPlace d < -330

/-- A number as a value. -/
def ofNumber : Number → Json
  | .int n => .num (.int n)
  | .dec d =>
    if isBeyond d then unfit
    else if isVanishing d then .num (.dec ⟨d.negative, 0, 0⟩)
    else .num (.dec d)

/-! ## Values -/

/-- The members of an object as a value. -/
def ofMembers : Option (List (String × Json)) → Json
  | some fields => .obj fields
  | none => unfit

mutual

/-- A value and the rest of the text. -/
def value? : Nat → List Char → Option (Json × List Char)
  | 0, _ => none
  | fuel + 1, cs =>
    match skipBlanks cs with
    | 'n' :: 'u' :: 'l' :: 'l' :: rest => some (.null, rest)
    | 't' :: 'r' :: 'u' :: 'e' :: rest => some (.bool true, rest)
    | 'f' :: 'a' :: 'l' :: 's' :: 'e' :: rest => some (.bool false, rest)
    | '"' :: rest => (quoted? fuel rest).map fun (text, rest) =>
        (ofQuoted text, rest)
    | '[' :: rest =>
      match skipBlanks rest with
      | ']' :: rest => some (.arr [], rest)
      | rest => (items? fuel rest).map fun (items, rest) => (.arr items, rest)
    | '{' :: rest =>
      match skipBlanks rest with
      | '}' :: rest => some (.obj [], rest)
      | rest => (fields? fuel rest).map fun (fields, rest) => (ofMembers fields, rest)
    | cs => (number? cs).map fun (n, rest) => (ofNumber n, rest)

/-- The items of an array from one of them to the closing bracket. -/
def items? : Nat → List Char → Option (List Json × List Char)
  | 0, _ => none
  | fuel + 1, cs =>
    match value? fuel cs with
    | none => none
    | some (v, rest) =>
      match skipBlanks rest with
      | ']' :: rest => some ([v], rest)
      | ',' :: rest => (items? fuel rest).map fun (items, rest) => (v :: items, rest)
      | _ => none

/-- The members of an object from one of them to the closing brace, unless one has no name. -/
def fields? : Nat → List Char → Option (Option (List (String × Json)) × List Char)
  | 0, _ => none
  | fuel + 1, cs =>
    match skipBlanks cs with
    | '"' :: rest =>
      match quoted? fuel rest with
      | none => none
      | some (name, rest) =>
        match skipBlanks rest with
        | ':' :: rest =>
          match value? fuel rest with
          | none => none
          | some (v, rest) =>
            let field := name.map fun name => (String.ofList name, v)
            match skipBlanks rest with
            | '}' :: rest => some (field.map fun f => [f], rest)
            | ',' :: rest =>
              (fields? fuel rest).map fun (fields, rest) =>
                (field.bind fun f => fields.map (f :: ·), rest)
            | _ => none
        | _ => none
    | _ => none

end

/-- The value that a text writes; a part of it may be unfit. -/
def read? (text : String) : Option Json :=
  let cs := text.toList
  match value? (2 * cs.length + 2) cs with
  | some (v, rest) => if (skipBlanks rest).isEmpty then some v else none
  | none => none

/-- The value that a text writes. -/
def parse (text : String) : Option Json :=
  (read? text).filter isFit

end BeanMapping.Json
