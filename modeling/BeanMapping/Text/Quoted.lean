import BeanMapping.Text.Printable

/-!
# Quoted text

`quoted` writes a text between double quotes such that every character of it can be seen: a quote
and a backslash take a backslash, line ends, tabs and the null character have a letter of their own,
and any other character that does not stand for itself is written by its number.
-/

namespace BeanMapping.Text

/-- One character inside quotes. -/
def quotedChar (c : Char) : List Char :=
  if c = '"' then ['\\', '"']
  else if c = '\\' then ['\\', '\\']
  else if c = '\n' then ['\\', 'n']
  else if c = '\r' then ['\\', 'r']
  else if c = '\t' then ['\\', 't']
  else if c = '\x00' then ['\\', '0']
  else if isPrintable c then [c]
  else ['\\', 'u', '{'] ++ Nat.toDigits 16 c.toNat ++ ['}']

/-- A text between quotes. -/
def quoted (text : String) : String :=
  String.ofList ('"' :: (text.toList.flatMap quotedChar ++ ['"']))

end BeanMapping.Text
