import BeanMapping.Text.CodePoints

/-!
# White space

`isBlank` is the Unicode property White_Space. `trim` takes blanks off both ends, and is what a
name that a caller builds goes through.

* `isBlank_of_isWhitespace`: the class contains every white space character of ASCII.
* `trim_eq_self`: a text without a blank at either end is left alone.
-/

namespace BeanMapping.Text

/-- The ranges of White_Space. -/
def blankRanges : List (Nat × Nat) :=
  [
    (0x9, 0xD), (0x20, 0x20), (0x85, 0x85), (0xA0, 0xA0), (0x1680, 0x1680), (0x2000, 0x200A),
    (0x2028, 0x2029), (0x202F, 0x202F), (0x205F, 0x205F), (0x3000, 0x3000)]

/-- Whether a character is white space. -/
def isBlank (c : Char) : Bool :=
  inRanges c.toNat blankRanges

/-- The text from its first character that is no blank. -/
def trimLeft (cs : List Char) : List Char :=
  cs.dropWhile isBlank

/-- The text up to its last character that is no blank. -/
def trimRight (cs : List Char) : List Char :=
  (cs.reverse.dropWhile isBlank).reverse

/-- The text without the blanks at its two ends. -/
def trim (cs : List Char) : List Char :=
  trimRight (trimLeft cs)

theorem isBlank_of_isWhitespace {c : Char} (h : c.isWhitespace = true) : isBlank c = true := by
  simp only [Char.isWhitespace, Bool.or_eq_true, decide_eq_true_eq] at h
  rcases h with ((rfl | rfl) | rfl) | rfl <;> decide

theorem trimLeft_eq_self {c : Char} {cs : List Char} (h : isBlank c = false) :
    trimLeft (c :: cs) = c :: cs := by
  simp [trimLeft, h]

theorem trimRight_eq_self {c : Char} {cs : List Char} (h : isBlank c = false) :
    trimRight (cs ++ [c]) = cs ++ [c] := by
  simp [trimRight, h]

/-- A text without a blank at either end is left alone. -/
theorem trim_eq_self {cs : List Char} (first : ∀ c ∈ cs.head?, isBlank c = false)
    (last : ∀ c ∈ cs.getLast?, isBlank c = false) : trim cs = cs := by
  cases cs with
  | nil => rfl
  | cons c cs =>
    rw [trim, trimLeft_eq_self (first c rfl)]
    obtain ⟨init, d, h⟩ := List.eq_nil_or_concat (c :: cs) |>.resolve_left (by simp)
    rw [h, List.concat_eq_append]
    refine trimRight_eq_self (last d ?_)
    simp [h]

end BeanMapping.Text
