/-!
# Sets of code points

A character class beyond ASCII is a table: ranges of code points in ascending order, some of them
taking every second code point only (capital and small letters often alternate).
-/

namespace BeanMapping.Text

/-- Whether `n` lies in one of the ranges, which are in ascending order. -/
def inRanges (n : Nat) : List (Nat × Nat) → Bool
  | [] => false
  | (lo, hi) :: rest => if n < lo then false else n ≤ hi || inRanges n rest

/-- The code points `lo`, `lo + step`, … up to `hi`. -/
structure Stride where
  lo : Nat
  hi : Nat
  step : Nat

/-- Whether `n` is one of the code points of `s`. -/
def Stride.has (s : Stride) (n : Nat) : Bool :=
  s.lo ≤ n && n ≤ s.hi && (n - s.lo) % s.step == 0

/-- Whether `n` lies in one of the strides, which start in ascending order. -/
def inStrides (n : Nat) : List Stride → Bool
  | [] => false
  | s :: rest => if n < s.lo then false else s.has n || inStrides n rest

end BeanMapping.Text
