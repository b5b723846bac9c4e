import BeanMapping.NameMap

/-!
# Singular forms

The singular forms that a plural may have, the most specific first: an override of the whole name or
of its last word, an irregular noun, what the regular endings give, and at last the name itself. Only
the last word of a name is inflected. The place of a form in the list is its tier.
-/

namespace BeanMapping

/-- The nouns whose plural follows no regular ending, with their singular. -/
def irregularNouns : List (String × String) :=
  [("teeth", "tooth"), ("feet", "foot"), ("geese", "goose"), ("mice", "mouse"), ("lice", "louse"),
    ("men", "man"), ("women", "woman"),
    ("children", "child"), ("oxen", "ox"),
    ("people", "person"), ("dice", "die"),
    ("criteria", "criterion"), ("phenomena", "phenomenon"), ("data", "datum"), ("media", "medium"),
    ("indices", "index"), ("matrices", "matrix"), ("vertices", "vertex"),
    ("appendices", "appendix"), ("analyses", "analysis"), ("axes", "axis"), ("bases", "basis"),
    ("crises", "crisis"), ("theses", "thesis"), ("diagnoses", "diagnosis"), ("cacti", "cactus"),
    ("fungi", "fungus"), ("radii", "radius"), ("alumni", "alumnus"),
    ("lives", "life"), ("knives", "knife"), ("wives", "wife"),
    ("statuses", "status"), ("aliases", "alias"), ("buses", "bus"), ("addresses", "address"),
    ("quizzes", "quiz"),
    ("heroes", "hero"), ("potatoes", "potato"), ("tomatoes", "tomato"),
    ("series", "series"), ("species", "species"), ("news", "news"), ("sheep", "sheep"),
    ("fish", "fish"), ("deer", "deer"), ("moose", "moose")]

/-- The regular endings of plurals and what stands in their place in the singular. Every ending that
fits gives a form, in this order. -/
def pluralEndings : List (String × String) :=
  [("ies", "y"), ("ves", "f"), ("ves", "fe"), ("sses", "ss"), ("ches", "ch"), ("shes", "sh"),
    ("xes", "x"), ("zes", "z"), ("oes", "o"), ("s", ""), ("ses", "s")]

/-- What is known about singular forms: the singular of each plural that has one of its own. -/
structure Inflector where
  overrides : NameMap String

namespace Inflector

/-- The name up to its last low line. -/
def nameStart (name : List Char) : List Char :=
  (name.reverse.dropWhile (· != '_')).reverse

/-- The last word of the name, after its last low line. -/
def lastWord (name : List Char) : List Char :=
  (name.reverse.takeWhile (· != '_')).reverse

/-- The word with another ending. It must have more than the ending; the ending `s` does not count
in words such as `class` and `status`. -/
def replaceEnding? (word ending replacement : List Char) : Option (List Char) :=
  if ending.isSuffixOf word ∧ ending.length < word.length ∧
      ¬ (ending = ['s'] ∧ (['s', 's'].isSuffixOf word ∨ ['u', 's'].isSuffixOf word)) then
    some (word.take (word.length - ending.length) ++ replacement)
  else none

/-- The singular forms that the regular endings give. -/
def regularSingulars (word : List Char) : List (List Char) :=
  pluralEndings.filterMap fun e => replaceEnding? word e.1.toList e.2.toList

/-- The singular forms of a last word, without the override of the whole name and without the word
itself. -/
def wordSingulars (i : Inflector) (word : List Char) : List (List Char) :=
  let text := String.ofList word
  ((i.overrides.find? text).map String.toList).toList ++
    ((irregularNouns.lookup text).map String.toList).toList ++ regularSingulars word

/-- The singular forms of a name, the most specific first and the name itself last. -/
def singularCandidates (i : Inflector) (name : String) : List String :=
  let cs := name.toList
  let start := nameStart cs
  ((i.overrides.find? name).toList ++
    (i.wordSingulars (lastWord cs)).map (fun w => String.ofList (start ++ w)) ++
    [name]).eraseDups

/-- The most specific singular form of a name. -/
def singular (i : Inflector) (name : String) : String :=
  (i.singularCandidates name).headD name

/-- The place of a name among the singular forms of another. -/
def tier? (i : Inflector) (name candidate : String) : Option Nat :=
  (i.singularCandidates name).findIdx? (· == candidate)

end Inflector

end BeanMapping
