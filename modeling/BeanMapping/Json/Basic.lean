/-!
# JSON values

Numbers are kept as they are written: an integer, or a decimal as digits and a power of ten. The
members of an object keep their order. Two objects are the `same` value when they hold the same
members in any order.

* `Json.depth_lt_of_mem_arr`, `Json.depth_lt_of_find?`: an element of an array and a member of an
  object are less deep than what holds them, which is what ends every walk over a value.
-/

namespace BeanMapping

/-- A decimal number: `digits · 10 ^ exponent`, with its sign. -/
structure Decimal where
  negative : Bool
  digits : Nat
  exponent : Int
deriving DecidableEq, Repr

/-- A number of a JSON text: a 64-bit integer, or a decimal. -/
inductive Number where
  | int (value : Int)
  | dec (value : Decimal)
deriving DecidableEq, Repr

/-- A JSON value. -/
inductive Json where
  | null
  | bool (value : Bool)
  | num (value : Number)
  | str (text : String)
  | arr (items : List Json)
  | obj (fields : List (String × Json))
deriving Repr, Inhabited

namespace Decimal

/-- Moves the zeros at the end of the digits into the exponent. -/
def strip : Nat → Nat → Int → Nat × Int
  | 0, digits, exponent => (digits, exponent)
  | fuel + 1, digits, exponent =>
    if digits % 10 = 0 then strip fuel (digits / 10) (exponent + 1) else (digits, exponent)

/-- The decimal without zeros at the end of its digits; zero has the exponent `0`. -/
def normal (negative : Bool) (digits : Nat) (exponent : Int) : Decimal :=
  if digits = 0 then ⟨negative, 0, 0⟩
  else
    let (digits, exponent) := strip digits digits exponent
    ⟨negative, digits, exponent⟩

/-- Whether two decimals are the same number. The sign of zero makes no difference. -/
def same (a b : Decimal) : Bool :=
  a == b || (a.digits == 0 && b.digits == 0)

end Decimal

/-- Whether two numbers are the same. An integer and a decimal never are. -/
def Number.same : Number → Number → Bool
  | .int a, .int b => a == b
  | .dec a, .dec b => a.same b
  | _, _ => false

namespace Json

/-- A number of things. -/
def nat (n : Nat) : Json :=
  .num (.int n)

/-- An array of texts. -/
def strs (texts : List String) : Json :=
  .arr (texts.map .str)

/-- A value that may be missing, written `null` then. -/
def ofOption {α : Type} (write : α → Json) : Option α → Json
  | none => .null
  | some a => write a

/-- The value of the first member with the name. -/
def find? (fields : List (String × Json)) (name : String) : Option Json :=
  (fields.find? (·.1 == name)).map (·.2)

/-- The members with one of them set: in its old place, or else at the end. -/
def set (name : String) (value : Json) : List (String × Json) → List (String × Json)
  | [] => [(name, value)]
  | (n, v) :: rest => if n = name then (n, value) :: rest else (n, v) :: set name value rest

theorem find?_cons (f : String × Json) (fields : List (String × Json)) (name : String) :
    find? (f :: fields) name = if f.1 = name then some f.2 else find? fields name := by
  unfold find?
  by_cases same : f.1 = name <;> simp [same]

theorem find?_set_self (name : String) (v : Json) (fields : List (String × Json)) :
    find? (set name v fields) name = some v := by
  induction fields with
  | nil =>
    rw [set, find?_cons]
    exact if_pos rfl
  | cons f rest ih =>
    obtain ⟨n, w⟩ := f
    rw [set]
    split
    · rename_i same
      rw [find?_cons]
      exact if_pos same
    · rename_i other
      rw [find?_cons]
      exact (if_neg other).trans ih

theorem find?_set_of_ne {name other : String} (v : Json) (fields : List (String × Json))
    (h : other ≠ name) : find? (set name v fields) other = find? fields other := by
  induction fields with
  | nil =>
    rw [set, find?_cons]
    exact if_neg h.symm
  | cons f rest ih =>
    obtain ⟨n, w⟩ := f
    rw [set]
    split
    · rename_i same
      have ne : n ≠ other := fun own => h (own.symm.trans same)
      rw [find?_cons, find?_cons]
      exact (if_neg ne).trans (if_neg ne).symm
    · rw [find?_cons, find?_cons, ih]

mutual

/-- How deep arrays and objects are nested. -/
def depth : Json → Nat
  | .arr items => depthItems items + 1
  | .obj fields => depthFields fields + 1
  | _ => 0

/-- The greatest depth of the values of an array. -/
def depthItems : List Json → Nat
  | [] => 0
  | v :: rest => max v.depth (depthItems rest)

/-- The greatest depth of the values in an object. -/
def depthFields : List (String × Json) → Nat
  | [] => 0
  | (_, v) :: rest => max v.depth (depthFields rest)

end

theorem depth_le_depthItems {v : Json} {items : List Json} (h : v ∈ items) :
    v.depth ≤ depthItems items := by
  induction items with
  | nil => cases h
  | cons w rest ih =>
    rw [depthItems]
    cases h with
    | head => omega
    | tail _ h => have := ih h; omega

theorem depth_le_depthFields {f : String × Json} {fields : List (String × Json)}
    (h : f ∈ fields) : f.2.depth ≤ depthFields fields := by
  induction fields with
  | nil => cases h
  | cons g rest ih =>
    obtain ⟨n, v⟩ := g
    rw [depthFields]
    cases h with
    | head => simp only []; omega
    | tail _ h => have := ih h; omega

theorem depth_lt_of_mem_arr {v : Json} {items : List Json} (h : v ∈ items) :
    v.depth < (Json.arr items).depth := by
  have := depth_le_depthItems h
  rw [depth]
  omega

theorem depth_lt_of_find? {v : Json} {fields : List (String × Json)} {name : String}
    (h : find? fields name = some v) : v.depth < (Json.obj fields).depth := by
  obtain ⟨f, hf, rfl⟩ := Option.map_eq_some_iff.1 h
  have := depth_le_depthFields (List.mem_of_find?_eq_some hf)
  rw [depth]
  omega

mutual

/-- Whether two values are the same; the order of the members of an object makes no difference. -/
def same : Json → Json → Bool
  | .null, .null => true
  | .bool a, .bool b => a == b
  | .num a, .num b => a.same b
  | .str a, .str b => a == b
  | .arr xs, .arr ys => sameItems xs ys
  | .obj fs, .obj gs => fs.length == gs.length && sameFields fs gs
  | _, _ => false

/-- Whether two arrays have the same values, in the same places. -/
def sameItems : List Json → List Json → Bool
  | [], [] => true
  | x :: xs, y :: ys => x.same y && sameItems xs ys
  | _, _ => false

/-- Whether each member of the first list has the same value in the second. -/
def sameFields : List (String × Json) → List (String × Json) → Bool
  | [], _ => true
  | (n, v) :: rest, gs =>
    (match find? gs n with
      | some w => v.same w
      | none => false) && sameFields rest gs

end

mutual

/-- The value in which every object holds a repeated name once: in its first place, with its last
value. -/
def lastWins : Json → Json
  | .arr items => .arr (lastWinsItems items)
  | .obj fields => .obj ((lastWinsFields fields).foldl (fun fs f => set f.1 f.2 fs) [])
  | v => v

/-- The values of an array, with repeated names held once in each. -/
def lastWinsItems : List Json → List Json
  | [] => []
  | v :: rest => v.lastWins :: lastWinsItems rest

/-- The members of an object, with repeated names held once in each value; the members themselves may still repeat
their names. -/
def lastWinsFields : List (String × Json) → List (String × Json)
  | [] => []
  | (n, v) :: rest => (n, v.lastWins) :: lastWinsFields rest

end

/-! ## Unfit parts -/

/-- What stands for a part of a text that is syntax but no value: half of a surrogate pair, or a
number out of range. It is a zero that no text writes, and no field of a record accepts it, so a
record may pass it over but cannot hold it. -/
def unfit : Json :=
  .num (.dec ⟨false, 0, 1⟩)

mutual

/-- Whether no part of a value is unfit. -/
def isFit : Json → Bool
  | .num (.dec d) => d.digits != 0 || d.exponent == 0
  | .arr items => areFit items
  | .obj fields => areFitFields fields
  | _ => true

/-- Whether no part of any value of an array is unfit. -/
def areFit : List Json → Bool
  | [] => true
  | v :: rest => v.isFit && areFit rest

/-- Whether no part of any value in an object is unfit. -/
def areFitFields : List (String × Json) → Bool
  | [] => true
  | (_, v) :: rest => v.isFit && areFitFields rest

end

/-- What kind of value this is. -/
def kindName : Json → String
  | .null => "null"
  | .bool _ => "bool"
  | .num _ => "number"
  | .str _ => "string"
  | .arr _ => "array"
  | .obj _ => "object"

end Json

end BeanMapping
