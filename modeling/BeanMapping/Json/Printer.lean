import BeanMapping.Json.Basic
import BeanMapping.Text.Hexadecimal

/-!
# Writing a JSON text

`Json.print` writes a value on one line without blanks. A decimal is written in positional
notation with at least one digit after the point.
-/

namespace BeanMapping.Json

/-- A character inside quotes. -/
def quoteChar (c : Char) : List Char :=
  match c with
  | '"' => ['\\', '"']
  | '\\' => ['\\', '\\']
  | '\x08' => ['\\', 'b']
  | '\x0c' => ['\\', 'f']
  | '\n' => ['\\', 'n']
  | '\r' => ['\\', 'r']
  | '\t' => ['\\', 't']
  | c =>
    if c.toNat < 0x20 then
      ['\\', 'u', '0', '0', Text.hexDigit (c.toNat / 16), Text.hexDigit (c.toNat % 16)]
    else [c]

/-- A text in quotes. -/
def quote (text : String) : List Char :=
  '"' :: (text.toList.flatMap quoteChar ++ ['"'])

/-- A number of things in decimal digits. -/
def natDigits (n : Nat) : List Char :=
  Nat.toDigits 10 n

/-- The digits of a decimal with its point. -/
def positional (digits : Nat) (exponent : Int) : List Char :=
  match exponent with
  | .ofNat e => natDigits digits ++ List.replicate e '0' ++ ['.', '0']
  | .negSucc e =>
    let places := e + 1
    let all := natDigits digits
    let all := List.replicate (places + 1 - all.length) '0' ++ all
    all.take (all.length - places) ++ '.' :: all.drop (all.length - places)

/-- A number. -/
def printNumber : Number → List Char
  | .int (.ofNat n) => natDigits n
  | .int (.negSucc n) => '-' :: natDigits (n + 1)
  | .dec d => (if d.negative then ['-'] else []) ++ positional d.digits d.exponent

mutual

/-- The characters of a value. -/
def write : Json → List Char
  | .null => ['n', 'u', 'l', 'l']
  | .bool true => ['t', 'r', 'u', 'e']
  | .bool false => ['f', 'a', 'l', 's', 'e']
  | .num n => printNumber n
  | .str text => quote text
  | .arr [] => ['[', ']']
  | .arr (v :: rest) => '[' :: (v.write ++ writeItems rest)
  | .obj [] => ['{', '}']
  | .obj ((n, v) :: rest) => '{' :: (quote n ++ ':' :: (v.write ++ writeFields rest))

/-- The items of an array after its first, and the closing bracket. -/
def writeItems : List Json → List Char
  | [] => [']']
  | v :: rest => ',' :: (v.write ++ writeItems rest)

/-- The members of an object after its first, and the closing brace. -/
def writeFields : List (String × Json) → List Char
  | [] => ['}']
  | (n, v) :: rest => ',' :: (quote n ++ ':' :: (v.write ++ writeFields rest))

end

/-- The text of a value. -/
def print (v : Json) : String :=
  String.ofList v.write

end BeanMapping.Json
