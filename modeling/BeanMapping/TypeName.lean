import BeanMapping.Text.Blank

/-!
# Type names

A type name is a text as its owner writes it, such as `Vec<i64>` or `crate::target::Pet`. Its parts
are read off on demand: the base before the generic arguments, the last segment of the path, the
arguments at the top level. A name with one argument whose last segment is a container's name names
a collection of that argument.
-/

namespace BeanMapping

/-- The name of a type. -/
structure TypeName where
  text : String
deriving DecidableEq, Repr, Inhabited

/-- The containers whose element type makes a property a collection. -/
inductive Container where
  | vec
  | vecDeque
  | linkedList
  | hashSet
  | bTreeSet
  | indexSet
deriving DecidableEq, Repr

namespace Container

/-- Every container. -/
def all : List Container := [.vec, .vecDeque, .linkedList, .hashSet, .bTreeSet, .indexSet]

/-- The type name of a container, without its argument. -/
def name : Container → String
  | .vec => "Vec"
  | .vecDeque => "VecDeque"
  | .linkedList => "LinkedList"
  | .hashSet => "HashSet"
  | .bTreeSet => "BTreeSet"
  | .indexSet => "IndexSet"

/-- The container with the name. -/
def ofName? (name : String) : Option Container :=
  all.find? (·.name == name)

/-- Whether the container iterates in the order in which elements were put in. -/
def keepsOrder : Container → Bool
  | .vec | .vecDeque | .linkedList | .indexSet => true
  | .hashSet | .bTreeSet => false

end Container

namespace TypeName

/-! ## Parts of a text -/

/-- The text after the last `::`, or the whole text: read from the end. -/
def lastSegment (cs : List Char) : List Char :=
  (back cs.reverse).reverse
where
  /-- The text up to the first `::`. -/
  back : List Char → List Char
    | ':' :: ':' :: _ => []
    | c :: rest => c :: back rest
    | [] => []

/-- The text between the first `<` and the last `>` after it. -/
def between? (cs : List Char) : Option (List Char) :=
  match cs.dropWhile (· != '<') with
  | [] => none
  | _ :: inner =>
    match inner.reverse.dropWhile (· != '>') with
    | [] => none
    | _ :: init => some init.reverse

/-- The depth of brackets after a character. All brackets count alike, and a closing bracket too
many changes nothing. -/
def bracketDepth (depth : Nat) (c : Char) : Nat :=
  if c = '<' ∨ c = '(' ∨ c = '[' then depth + 1
  else if c = '>' ∨ c = ')' ∨ c = ']' then depth - 1
  else depth

/-- The pieces between the commas outside brackets: the first piece and the others. -/
def pieces (depth : Nat) : List Char → List Char × List (List Char)
  | [] => ([], [])
  | c :: cs =>
    if c = ',' ∧ depth = 0 then
      let (piece, rest) := pieces 0 cs
      ([], piece :: rest)
    else
      let (piece, rest) := pieces (bracketDepth depth c) cs
      (c :: piece, rest)

/-- The pieces of a list, where a blank last piece does not count. -/
def dropBlankEnd (pieces : List (List Char)) : List (List Char) :=
  match pieces.getLast? with
  | some [] => pieces.dropLast
  | _ => pieces

/-! ## Type names -/

/-- The name that a text gives when blanks around it do not count. -/
def ofText (text : String) : TypeName :=
  ⟨String.ofList (Text.trim text.toList)⟩

/-- The name of the vector of a type. -/
def vecOf (element : TypeName) : TypeName :=
  ⟨"Vec<" ++ element.text ++ ">"⟩

/-- The characters before the generic arguments, without blanks around them. -/
def baseChars (t : TypeName) : List Char :=
  Text.trim (t.text.toList.takeWhile (· != '<'))

/-- The name before the generic arguments. -/
def base (t : TypeName) : String :=
  String.ofList t.baseChars

/-- The last segment of the path before the generic arguments. -/
def shortName (t : TypeName) : String :=
  String.ofList (lastSegment t.baseChars)

/-- The generic arguments at the top level. -/
def args (t : TypeName) : List TypeName :=
  match between? t.text.toList with
  | none => []
  | some inner =>
    let (first, rest) := pieces 0 inner
    (dropBlankEnd ((first :: rest).map Text.trim)).map fun cs => ⟨String.ofList cs⟩

/-- The container of a type that is a collection. -/
def container? (t : TypeName) : Option Container :=
  match t.args with
  | [_] => Container.ofName? t.shortName
  | _ => none

/-- The element type of a type that is a collection. -/
def element? (t : TypeName) : Option TypeName :=
  match t.container? with
  | some _ => t.args.head?
  | none => none

/-- Whether the name is that of a collection. -/
def isCollection (t : TypeName) : Bool :=
  t.container?.isSome

/-- The type inside a box. -/
def boxed? (t : TypeName) : Option TypeName :=
  if t.shortName = "Box" then
    match t.args with
    | [inner] => some inner
    | _ => none
  else none

end TypeName

end BeanMapping
