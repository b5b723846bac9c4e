import BeanMapping.Registry

/-!
# Built-in conversions

The conversions between types that need no rule: a type to itself, a number to a wider one, a type to
its box and back, and an enumeration to one that has all of its variants.
-/

namespace BeanMapping

/-- A conversion that needs no rule. -/
inductive Builtin where
  | identity
  /-- A number to a wider number. -/
  | widening
  /-- A value to a box of it. -/
  | boxing
  /-- A box to the value in it. -/
  | unboxing
  /-- Variant by variant, by name; the variants are those of the source. -/
  | enumByName (variants : List String)
deriving DecidableEq, Repr

/-- The number types, each with those that hold all of its numbers. -/
def widerNumbers : List (String × List String) :=
  [("i8", ["i16", "i32", "i64", "i128", "isize", "f32", "f64"]),
    ("i16", ["i32", "i64", "i128", "isize", "f32", "f64"]),
    ("i32", ["i64", "i128", "f64"]),
    ("i64", ["i128"]),
    ("u8", ["u16", "u32", "u64", "u128", "usize", "i16", "i32", "i64", "i128", "isize", "f32",
      "f64"]),
    ("u16", ["u32", "u64", "u128", "usize", "i32", "i64", "i128", "f32", "f64"]),
    ("u32", ["u64", "u128", "i64", "i128", "f64"]),
    ("u64", ["u128", "i128"]),
    ("f32", ["f64"])]

namespace Builtin

/-- The name of a conversion. -/
def name : Builtin → String
  | .identity => "identity"
  | .widening => "widening"
  | .boxing => "boxing"
  | .unboxing => "unboxing"
  | .enumByName _ => "enum_by_name"

/-- Whether the second type is a wider number than the first. -/
def widens (source target : TypeName) : Bool :=
  match widerNumbers.lookup source.text with
  | some wider => wider.contains target.text
  | none => false

/-- The variants of an enumeration. -/
def variants? (r : Registry) (t : TypeName) : Option (List String) := do
  match (← r.describe t).kind with
  | .enum variants => return variants
  | _ => none

/-- The conversion of an enumeration to one that has all of its variants. -/
def enum? (r : Registry) (source target : TypeName) : Option Builtin := do
  let needed ← variants? r source
  let offered ← variants? r target
  if needed.all fun v => offered.contains v then return .enumByName needed else none

/-- The built-in conversion from one type to another. -/
def find? (r : Registry) (source target : TypeName) : Option Builtin :=
  if source = target then some .identity
  else if widens source target then some .widening
  else if target.boxed? = some source then some .boxing
  else if source.boxed? = some target then some .unboxing
  else enum? r source target

/-- The conversion as a value. -/
def toJson : Builtin → Json
  | .identity => .str "Identity"
  | .widening => .str "Widening"
  | .boxing => .str "Boxing"
  | .unboxing => .str "Unboxing"
  | .enumByName variants => .obj [("EnumByName", .obj [("variants", .strs variants)])]

/-- A conversion from a value. -/
def ofJson? (v : Json) : Option Builtin :=
  match v with
  | .obj [("EnumByName", .obj fields)] =>
    (Json.required (Json.listOf? Json.asText?) fields "variants").map .enumByName
  | v =>
    match v.asTag? with
    | some "Identity" => some .identity
    | some "Widening" => some .widening
    | some "Boxing" => some .boxing
    | some "Unboxing" => some .unboxing
    | _ => none

end Builtin

end BeanMapping
