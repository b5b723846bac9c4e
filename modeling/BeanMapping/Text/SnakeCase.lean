import BeanMapping.Text.Alphanumeric
import BeanMapping.Text.LetterCase

/-!
# Snake case

`snakeCase` writes a name as small words joined by low lines: `getHTTPServer` is `get_http_server`.
A word ends at every character that is neither letter nor numeral, before a capital that follows a
small letter, and before the last capital of a run of capitals when a small letter follows it.
-/

namespace BeanMapping.Text

/-- Puts a character in front of the first word. -/
def consHead (c : Char) : List (List Char) → List (List Char)
  | [] => [[c]]
  | w :: ws => (c :: w) :: ws

/-- The stretches of letters and numerals, also the empty ones between two separators. -/
def stretches : List Char → List (List Char)
  | [] => [[]]
  | c :: cs => if isAlphanumeric c then consHead c (stretches cs) else [] :: stretches cs

/-- The case of the last letter that has one, in the word that is being read. -/
inductive WordCase where
  | uncased
  | small
  | capital
deriving DecidableEq

/-- The case after one more character. A character without a case keeps the case before it. -/
def WordCase.next (before : WordCase) (c : Char) : WordCase :=
  if isLower c then .small else if isUpper c then .capital else before

/-- The words of a stretch, of which the first goes on from a word in the given case. -/
def caseWords (before : WordCase) : List Char → List (List Char)
  | [] => []
  | [c] => [[c]]
  | c :: d :: rest =>
    if before.next c = .small ∧ isUpper d then
      [c] :: caseWords .uncased (d :: rest)
    else if before = .capital ∧ isUpper c ∧ isLower d then
      [] :: consHead c (caseWords .uncased (d :: rest))
    else
      consHead c (caseWords (before.next c) (d :: rest))

/-- A word in small letters; the sigma at its end takes its final form. -/
def lowerWord : List Char → List Char
  | [] => []
  | [c] => if c = 'Σ' then ['ς'] else lower c
  | c :: cs => lower c ++ lowerWord cs

/-- The words of a name, in small letters. -/
def nameWords (cs : List Char) : List (List Char) :=
  ((stretches cs).flatMap (caseWords .uncased)).map lowerWord

/-- The name in snake case. -/
def snakeCase (name : String) : String :=
  String.ofList ((nameWords name.toList).intersperse ['_']).flatten

end BeanMapping.Text
