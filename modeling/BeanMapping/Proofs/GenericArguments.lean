import BeanMapping.TypeName
import Mathlib.Data.List.DropRight
import Mathlib.Data.List.Forall2

/-!
# Generic arguments

A name `base<first, second>` gives back its base and its arguments. The arguments are cut apart by a count of
open brackets that takes all brackets alike, so it has to be shown that the count is zero at the commas
between the arguments and nowhere else.

An argument is a text whose brackets close in the order in which they opened and whose commas all stand
inside brackets (`IsTypeText`). The tip of an arrow `->` is no bracket, but the count takes it for one;
the arguments here have no arrow.

Results:
* **`pieces_intercalate`**: texts that the count passes without a cut, put together with commas, are cut apart
  at these commas.
* **`unsplit_of_isNested`**: a text of nested brackets is such a text.
* **`args_recovered`**: a name has the base and the arguments that it is put together from, and is a container
  exactly if it has one argument and the last segment of its base is a container's name.
-/

namespace BeanMapping.TypeName

variable {depth : Nat} {awaited cs base inner : List Char}

/-! ## The count of open brackets -/

/-- The brackets: each kind has a character that opens and one that closes. -/
def closing? : Char → Option Char
  | '<' => some '>'
  | '(' => some ')'
  | '[' => some ']'
  | _ => none

/-- Whether a character closes a bracket. -/
def isClosing (c : Char) : Bool :=
  c == '>' || c == ')' || c == ']'

theorem isSome_closing?_iff {c : Char} : (closing? c).isSome ↔ c = '<' ∨ c = '(' ∨ c = '[' := by
  unfold closing?
  split <;> simp_all

theorem bracketDepth_opening {c : Char} (h : (closing? c).isSome) : bracketDepth depth c = depth + 1 := by
  rcases isSome_closing?_iff.mp h with rfl | rfl | rfl <;> rfl

theorem bracketDepth_closing {c : Char} (h : isClosing c = true) : bracketDepth depth c = depth - 1 := by
  simp only [isClosing, Bool.or_eq_true, beq_iff_eq] at h
  rcases h with (rfl | rfl) | rfl <;> rfl

theorem bracketDepth_other {c : Char} (opens : closing? c = none) (closes : isClosing c = false) :
    bracketDepth depth c = depth := by
  simp only [isClosing, Bool.or_eq_false_iff, beq_eq_false_iff_ne] at closes
  have notOpening : ¬(c = '<' ∨ c = '(' ∨ c = '[') := by
    rw [← isSome_closing?_iff, opens]
    exact Bool.false_ne_true
  rw [bracketDepth, if_neg notOpening, if_neg (by tauto)]

/-- The count after a text. -/
def depthAfter (depth : Nat) (cs : List Char) : Nat :=
  cs.foldl bracketDepth depth

/-- Whether a text has no comma where the count is zero. -/
def Unsplit (depth : Nat) (cs : List Char) : Prop :=
  ∀ before after, cs = before ++ ',' :: after → depthAfter depth before ≠ 0

@[simp] theorem depthAfter_nil : depthAfter depth [] = depth := rfl

@[simp] theorem depthAfter_cons (c : Char) :
    depthAfter depth (c :: cs) = depthAfter (bracketDepth depth c) cs := rfl

theorem depthAfter_append (cs' : List Char) :
    depthAfter depth (cs ++ cs') = depthAfter (depthAfter depth cs) cs' :=
  List.foldl_append

theorem unsplit_nil : Unsplit depth [] := by
  intro before after h
  simp at h

theorem unsplit_cons {c : Char} :
    Unsplit depth (c :: cs) ↔ (c = ',' → depth ≠ 0) ∧ Unsplit (bracketDepth depth c) cs := by
  constructor
  · intro h
    refine ⟨?_, fun before after eq => h (c :: before) after (by rw [eq, List.cons_append])⟩
    rintro rfl
    exact h [] cs rfl
  · rintro ⟨first, rest⟩ before after eq
    cases before with
    | nil =>
      obtain ⟨rfl, -⟩ := List.cons.inj eq
      exact first rfl
    | cons c' before =>
      obtain ⟨rfl, tail⟩ := List.cons.inj eq
      exact rest before after tail

theorem unsplit_cons_of_ne {c : Char} (notComma : c ≠ ',') :
    Unsplit depth (c :: cs) ↔ Unsplit (bracketDepth depth c) cs :=
  unsplit_cons.trans (and_iff_right fun comma => absurd comma notComma)

theorem unsplit_append {cs' : List Char} :
    Unsplit depth (cs ++ cs') ↔ Unsplit depth cs ∧ Unsplit (depthAfter depth cs) cs' := by
  induction cs generalizing depth with
  | nil => simp [unsplit_nil]
  | cons c cs ih => rw [List.cons_append, unsplit_cons, unsplit_cons, ih, depthAfter_cons, and_assoc]

/-! ## Cutting at the commas -/

/-- A text without a comma at count zero stays in the first piece. -/
theorem pieces_append (unsplit : Unsplit depth cs) (rest : List Char) :
    pieces depth (cs ++ rest) =
      (cs ++ (pieces (depthAfter depth cs) rest).1, (pieces (depthAfter depth cs) rest).2) := by
  induction cs generalizing depth with
  | nil => rfl
  | cons c cs ih =>
    obtain ⟨first, unsplit⟩ := unsplit_cons.mp unsplit
    have noCut : ¬(c = ',' ∧ depth = 0) := fun h => first h.1 h.2
    rw [List.cons_append, pieces, if_neg noCut, ih unsplit]
    rfl

theorem pieces_of_unsplit (unsplit : Unsplit depth cs) : pieces depth cs = (cs, []) := by
  simpa [pieces] using pieces_append unsplit []

/-- Texts that the count passes without a cut and leaves at zero, put together with commas, are cut apart at
these commas. -/
theorem pieces_intercalate {p : List Char} {ps : List (List Char)}
    (unsplit : ∀ q ∈ p :: ps, Unsplit 0 q ∧ depthAfter 0 q = 0) :
    pieces 0 ([','].intercalate (p :: ps)) = (p, ps) := by
  induction ps generalizing p with
  | nil =>
    rw [List.intercalate_singleton]
    exact pieces_of_unsplit (unsplit p (by simp)).1
  | cons q ps ih =>
    obtain ⟨whole, closed⟩ := unsplit p (by simp)
    have rest := ih fun r mem => unsplit r (List.mem_cons_of_mem p mem)
    rw [List.intercalate_cons_cons, List.append_assoc, pieces_append whole, closed]
    simp [pieces, rest]

/-! ## Nested brackets -/

/-- Whether the brackets of a text close in the order in which they opened, after those that are still
awaited, and all its commas stand inside brackets. -/
def isNested : List Char → List Char → Bool
  | awaited, [] => awaited.isEmpty
  | awaited, c :: cs =>
    match closing? c with
    | some close => isNested (close :: awaited) cs
    | none =>
      if isClosing c then awaited.head? == some c && isNested awaited.tail cs
      else (c != ',' || !awaited.isEmpty) && isNested awaited cs

/-- The text without its arrows. -/
def withoutArrows : List Char → List Char
  | '-' :: '>' :: cs => withoutArrows cs
  | c :: cs => c :: withoutArrows cs
  | [] => []

/-- The texts of types: not empty, without blanks around them, with nested brackets and with no comma outside
them. The tip of an arrow is no bracket. -/
structure IsTypeText (t : TypeName) : Prop where
  nonempty : t.text ≠ ""
  trimmed : Text.trim t.text.toList = t.text.toList
  nested : isNested [] (withoutArrows t.text.toList) = true

/-- The texts of types that have no arrow. -/
def IsArrowless (t : TypeName) : Prop :=
  IsTypeText t ∧ ¬['-', '>'] <:+: t.text.toList

/-- The count passes nested brackets without a cut. All brackets count alike, so it is the number of those
that are awaited. -/
theorem unsplit_of_isNested (h : isNested awaited cs = true) :
    Unsplit awaited.length cs ∧ depthAfter awaited.length cs = 0 := by
  induction cs generalizing awaited with
  | nil =>
    rw [isNested, List.isEmpty_iff] at h
    subst h
    exact ⟨unsplit_nil, rfl⟩
  | cons c cs ih =>
    rw [depthAfter_cons]
    rw [isNested] at h
    split at h
    next close opens =>
      have notComma : c ≠ ',' := by
        rintro rfl
        cases opens
      rw [unsplit_cons_of_ne notComma, bracketDepth_opening (by rw [opens]; rfl)]
      exact ih h
    next opens =>
      split at h
      next closes =>
        have notComma : c ≠ ',' := by
          rintro rfl
          cases closes
        rw [unsplit_cons_of_ne notComma, bracketDepth_closing closes, ← List.length_tail]
        exact ih (Bool.and_eq_true_iff.mp h).2
      next closes =>
        rw [unsplit_cons, bracketDepth_other opens (Bool.eq_false_iff.mpr closes)]
        obtain ⟨inside, h⟩ := Bool.and_eq_true_iff.mp h
        obtain ⟨unsplit, closed⟩ := ih h
        refine ⟨⟨?_, unsplit⟩, closed⟩
        rintro rfl
        simpa using inside

theorem withoutArrows_eq_self (h : ¬['-', '>'] <:+: cs) : withoutArrows cs = cs := by
  induction cs using withoutArrows.induct with
  | case1 cs => exact absurd ⟨[], cs, rfl⟩ h
  | case2 c cs noArrow ih =>
    rw [withoutArrows.eq_2 _ _ noArrow, ih fun infix' => h (infix'.trans (List.suffix_cons c cs).isInfix)]
  | case3 => rfl

/-- The count passes a type's text without arrows from zero to zero. -/
theorem IsArrowless.unsplit {t : TypeName} (text : IsArrowless t) :
    Unsplit 0 t.text.toList ∧ depthAfter 0 t.text.toList = 0 := by
  have nested := text.1.nested
  rw [withoutArrows_eq_self text.2] at nested
  exact unsplit_of_isNested nested

/-! ## Blanks -/

/-- A text of blanks only. -/
def Blank (cs : List Char) : Prop :=
  ∀ c ∈ cs, Text.isBlank c = true

instance (cs : List Char) : Decidable (Blank cs) :=
  decidable_of_iff (cs.all Text.isBlank = true) List.all_eq_true

theorem trimLeft_blank_append (blank : Blank cs) (cs' : List Char) :
    Text.trimLeft (cs ++ cs') = Text.trimLeft cs' :=
  List.dropWhile_append_of_pos blank

theorem trimRight_append_blank (cs' : List Char) (blank : Blank cs) :
    Text.trimRight (cs' ++ cs) = Text.trimRight cs' := by
  have blank' : Blank cs.reverse := fun c mem => blank c (List.mem_reverse.mp mem)
  rw [Text.trimRight, List.reverse_append, List.dropWhile_append_of_pos blank']
  rfl

theorem trim_append_blank (cs' : List Char) (blank : Blank cs) : Text.trim (cs' ++ cs) = Text.trim cs' := by
  rw [Text.trim, Text.trim, Text.trimLeft, Text.trimLeft, List.dropWhile_append]
  split
  next allBlank =>
    have none : List.dropWhile Text.isBlank cs = [] := List.dropWhile_eq_nil_iff.mpr blank
    rw [none, List.isEmpty_iff.mp allBlank]
  next => exact trimRight_append_blank _ blank

/-- Blanks around a text do not count. -/
theorem trim_surrounded {before after : List Char} (blankBefore : Blank before) (blankAfter : Blank after) :
    Text.trim (before ++ cs ++ after) = Text.trim cs := by
  rw [trim_append_blank _ blankAfter, Text.trim, trimLeft_blank_append blankBefore, Text.trim]

/-- A blank is neither a comma nor a bracket. -/
theorem other_of_isBlank {c : Char} (blank : Text.isBlank c = true) :
    c ≠ ',' ∧ closing? c = none ∧ isClosing c = false := by
  refine ⟨?_, ?_, ?_⟩
  · rintro rfl
    cases blank
  · refine Option.not_isSome_iff_eq_none.mp fun opens => ?_
    rcases isSome_closing?_iff.mp opens with rfl | rfl | rfl <;> cases blank
  · rw [Bool.eq_false_iff]
    simp only [isClosing, Bool.or_eq_true, beq_iff_eq, ne_eq]
    rintro ((rfl | rfl) | rfl) <;> cases blank

/-- The count passes blanks without a cut. -/
theorem unsplit_of_blank (depth : Nat) (blank : Blank cs) : Unsplit depth cs ∧ depthAfter depth cs = depth := by
  induction cs with
  | nil => exact ⟨unsplit_nil, rfl⟩
  | cons c cs ih =>
    obtain ⟨notComma, notOpening, notClosing⟩ := other_of_isBlank (blank c List.mem_cons_self)
    rw [unsplit_cons_of_ne notComma, depthAfter_cons, bracketDepth_other notOpening notClosing]
    exact ih fun c' mem => blank c' (List.mem_cons_of_mem c mem)

/-! ## The parts of a name -/

theorem ne_of_plain (plain : '<' ∉ base) : ∀ c ∈ base, (c != '<') = true := by
  intro c mem
  rw [bne_iff_ne]
  rintro rfl
  exact plain mem

theorem between?_eq (plain : '<' ∉ base) : between? (base ++ '<' :: (inner ++ ['>'])) = some inner := by
  rw [between?, List.dropWhile_append_of_pos (ne_of_plain plain)]
  simp

theorem dropBlankEnd_eq_self {ps : List (List Char)} (last : ps.getLast? ≠ some []) :
    dropBlankEnd ps = ps := by
  unfold dropBlankEnd
  split
  next blank => exact absurd blank last
  next => rfl

/-- The arguments of a name are the pieces between its brackets, if the last one is not blank. -/
theorem args_eq {t : TypeName} (text : t.text.toList = base ++ '<' :: (inner ++ ['>'])) (plain : '<' ∉ base)
    {p : List Char} {ps : List (List Char)} (cut : pieces 0 inner = (p, ps))
    (last : ((p :: ps).map Text.trim).getLast? ≠ some []) :
    t.args = (p :: ps).map fun q => ⟨String.ofList (Text.trim q)⟩ := by
  rw [args, text, between?_eq plain]
  simp only [cut]
  rw [dropBlankEnd_eq_self last, List.map_map]
  rfl

theorem baseChars_eq {t : TypeName} (text : t.text.toList = base ++ '<' :: (inner ++ ['>']))
    (plain : '<' ∉ base) : t.baseChars = Text.trim base := by
  rw [baseChars, text, List.takeWhile_append_of_pos (ne_of_plain plain)]
  simp

/-- The name is the last segment of the path. -/
def IsLastSegment (name path : String) : Prop :=
  path = name ∨ ∃ front, path = front ++ "::" ++ name

theorem back_eq_iff {name : List Char} (plain : ':' ∉ name) :
    lastSegment.back cs = name ↔ cs = name ∨ ∃ front, cs = name ++ ':' :: ':' :: front := by
  induction cs using lastSegment.back.induct generalizing name with
  | case1 front =>
    rw [lastSegment.back]
    constructor
    · rintro rfl
      exact Or.inr ⟨front, rfl⟩
    · rintro (rfl | ⟨front, eq⟩)
      · simp at plain
      · cases name with
        | nil => rfl
        | cons c name =>
          obtain ⟨rfl, -⟩ := List.cons.inj eq
          simp at plain
  | case2 c cs single ih =>
    rw [lastSegment.back.eq_2 _ _ single]
    cases name with
    | nil =>
      constructor
      · intro h
        cases h
      · rintro (h | ⟨front, eq⟩)
        · cases h
        · obtain ⟨rfl, rfl⟩ := List.cons.inj eq
          exact absurd rfl (single front rfl)
    | cons c' name =>
      rw [List.mem_cons, not_or] at plain
      simp only [List.cons_append, List.cons.injEq, ih plain.2]
      constructor
      · rintro ⟨rfl, rfl | ⟨front, rfl⟩⟩
        · exact Or.inl ⟨rfl, rfl⟩
        · exact Or.inr ⟨front, rfl, rfl⟩
      · rintro (⟨rfl, rfl⟩ | ⟨front, rfl, rfl⟩)
        · exact ⟨rfl, Or.inl rfl⟩
        · exact ⟨rfl, Or.inr ⟨front, rfl⟩⟩
  | case3 =>
    rw [lastSegment.back]
    simp [eq_comm]

theorem shortName_eq_iff {t : TypeName} {name : String} (plain : ':' ∉ name.toList) :
    t.shortName = name ↔ IsLastSegment name t.base := by
  have plain' : ':' ∉ name.toList.reverse := fun mem => plain (List.mem_reverse.mp mem)
  rw [shortName, ← String.toList_inj, String.toList_ofList, lastSegment, List.reverse_eq_iff,
    back_eq_iff plain', IsLastSegment, base, List.reverse_eq_iff, List.reverse_reverse]
  constructor
  · rintro (whole | ⟨front, eq⟩)
    · exact Or.inl (by rw [whole, String.ofList_toList])
    · refine Or.inr ⟨String.ofList front.reverse, ?_⟩
      rw [List.reverse_eq_iff] at eq
      rw [← String.toList_inj, String.toList_ofList, eq]
      simp
  · rintro (whole | ⟨front, eq⟩)
    · exact Or.inl (by rw [← whole, String.toList_ofList])
    · refine Or.inr ⟨front.toList.reverse, ?_⟩
      rw [← String.toList_inj, String.toList_ofList] at eq
      rw [eq]
      simp

theorem ofName?_eq_some {name : String} {c : Container} :
    Container.ofName? name = some c ↔ name = c.name := by
  constructor
  · intro h
    have same := List.find?_some h
    exact (beq_iff_eq.mp same).symm
  · rintro rfl
    cases c <;> decide

/-- A container has one argument, and the last segment of its base is its name. -/
theorem container?_eq_some {t : TypeName} {c : Container} :
    t.container? = some c ↔ t.args.length = 1 ∧ IsLastSegment c.name t.base := by
  have plain : ':' ∉ c.name.toList := by cases c <;> decide
  rw [← shortName_eq_iff plain, ← ofName?_eq_some, container?, List.length_eq_one_iff]
  split
  next a one => simp [one]
  next many =>
    constructor
    · intro h
      cases h
    · rintro ⟨⟨a, one⟩, -⟩
      exact absurd one (many a)

/-! ## Names that are put together -/

/-- The name of a type with arguments. -/
def application (base : String) (pieces : List String) : String :=
  base ++ "<" ++ ",".intercalate pieces ++ ">"

/-- The piece is the text of the type with blanks around it. -/
def IsSpaced (t : TypeName) (piece : String) : Prop :=
  ∃ before after : String, Blank before.toList ∧ Blank after.toList ∧ piece = before ++ t.text ++ after

theorem toList_application (base : String) (pieces : List String) :
    (application base pieces).toList =
      base.toList ++ '<' :: ([','].intercalate (pieces.map String.toList) ++ ['>']) := by
  simp [application]

/-- Blanks in front of a name are blanks in front of its base. -/
theorem trim_application (base inner : List Char) :
    Text.trim (base ++ '<' :: (inner ++ ['>'])) = Text.trimLeft base ++ '<' :: (inner ++ ['>']) := by
  have opening : Text.isBlank '<' = false := by decide
  have closing : Text.isBlank '>' = false := by decide
  have front :
      Text.trimLeft (base ++ '<' :: (inner ++ ['>'])) = Text.trimLeft base ++ '<' :: (inner ++ ['>']) := by
    rw [Text.trimLeft, Text.trimLeft, List.dropWhile_append]
    split
    next allBlank =>
      rw [List.dropWhile_cons_of_neg (by simp [opening]), List.isEmpty_iff.mp allBlank, List.nil_append]
    next => rfl
  rw [Text.trim, front, ← List.cons_append, ← List.append_assoc, Text.trimRight_eq_self closing]

/-- A piece that is a type's text with blanks around it is passed without a cut, and without the blanks it is
the text. -/
theorem spaced_piece {t : TypeName} {piece : String} (text : IsArrowless t) (spaced : IsSpaced t piece) :
    (Unsplit 0 piece.toList ∧ depthAfter 0 piece.toList = 0) ∧ Text.trim piece.toList = t.text.toList := by
  obtain ⟨before, after, blankBefore, blankAfter, rfl⟩ := spaced
  obtain ⟨unsplitBefore, countBefore⟩ := unsplit_of_blank 0 blankBefore
  obtain ⟨unsplit, closed⟩ := text.unsplit
  obtain ⟨unsplitAfter, countAfter⟩ := unsplit_of_blank 0 blankAfter
  simp only [String.toList_append, unsplit_append, depthAfter_append, countBefore, closed, countAfter]
  exact ⟨⟨⟨⟨unsplitBefore, unsplit⟩, unsplitAfter⟩, trivial⟩,
    (trim_surrounded blankBefore blankAfter).trans text.1.trimmed⟩

theorem spaced_pieces {args : List TypeName} {pieces : List String}
    (texts : ∀ a ∈ args, IsArrowless a) (spaced : List.Forall₂ IsSpaced args pieces) :
    (∀ q ∈ pieces.map String.toList, Unsplit 0 q ∧ depthAfter 0 q = 0) ∧
      (pieces.map String.toList).map Text.trim = args.map (·.text.toList) := by
  induction spaced with
  | nil => simp
  | @cons a q args pieces first _ ih =>
    obtain ⟨passed, trimmed⟩ := spaced_piece (texts a (by simp)) first
    obtain ⟨allPassed, allTrimmed⟩ := ih fun a' mem => texts a' (List.mem_cons_of_mem a mem)
    refine ⟨?_, ?_⟩
    · rw [List.map_cons, List.forall_mem_cons]
      exact ⟨passed, allPassed⟩
    · rw [List.map_cons, List.map_cons, List.map_cons, trimmed, allTrimmed]

/-- The arguments of a name that is put together are those that it is put together from. -/
theorem args_of_pieces {t : TypeName} {args : List TypeName} {pieces : List String} (given : args ≠ [])
    (texts : ∀ a ∈ args, IsArrowless a) (spaced : List.Forall₂ IsSpaced args pieces) (plain : '<' ∉ base)
    (text : t.text.toList = base ++ '<' :: ([','].intercalate (pieces.map String.toList) ++ ['>'])) :
    t.args = args := by
  obtain ⟨passed, trimmed⟩ := spaced_pieces texts spaced
  cases pieces with
  | nil =>
    cases spaced
    exact absurd rfl given
  | cons q qs =>
    have last : (((q :: qs).map String.toList).map Text.trim).getLast? ≠ some [] := by
      intro blank
      rw [trimmed] at blank
      obtain ⟨a, mem, empty⟩ := List.mem_map.mp (List.mem_of_getLast? blank)
      exact (texts a mem).1.nonempty (String.toList_inj.mp empty)
    have cut : pieces 0 ([','].intercalate ((q :: qs).map String.toList)) = (q.toList, qs.map String.toList) :=
      pieces_intercalate passed
    have named := congrArg (List.map fun cs => TypeName.mk (String.ofList cs)) trimmed
    calc t.args
        = ((q :: qs).map String.toList).map fun cs => ⟨String.ofList (Text.trim cs)⟩ :=
        args_eq text plain cut last
      _ = (((q :: qs).map String.toList).map Text.trim).map fun cs => ⟨String.ofList cs⟩ := by
        rw [List.map_map (l := List.map String.toList _)]
        rfl
      _ = (args.map (·.text.toList)).map fun cs => ⟨String.ofList cs⟩ := named
      _ = args := by simp [Function.comp_def]

/-- **The arguments of a name are recovered exactly.** A name that is put together from a base and the
texts of some types, whatever blanks stand around these, has these types as its arguments and the base
without blanks as its base. It is a container exactly if there is one argument and the base ends in the
container's name. -/
theorem args_recovered {base : String} {args : List TypeName} {pieces : List String} {t : TypeName}
    (plain : '<' ∉ base.toList) (given : args ≠ []) (texts : ∀ a ∈ args, IsArrowless a)
    (spaced : List.Forall₂ IsSpaced args pieces)
    (named : t = ⟨application base pieces⟩ ∨ t = .ofText (application base pieces)) :
    t.args = args ∧ t.base = (ofText base).text ∧
      (∀ c, t.container? = some c ↔ args.length = 1 ∧ IsLastSegment c.name (ofText base).text) ∧
      (t.isCollection = true ↔
        args.length = 1 ∧ ∃ c : Container, IsLastSegment c.name (ofText base).text) := by
  obtain ⟨front, text, plainFront, trimmed⟩ : ∃ front,
      t.text.toList = front ++ '<' :: ([','].intercalate (pieces.map String.toList) ++ ['>']) ∧
      '<' ∉ front ∧ Text.trim front = Text.trim base.toList := by
    rcases named with rfl | rfl
    · exact ⟨base.toList, toList_application base pieces, plain, rfl⟩
    · refine ⟨Text.trimLeft base.toList, ?_, fun mem => plain ((List.dropWhile_suffix _).subset mem), ?_⟩
      · rw [ofText, String.toList_ofList, toList_application, trim_application]
      · rw [Text.trim, Text.trim, Text.trimLeft, Text.trimLeft, List.dropWhile_idempotent]
  have args_eq : t.args = args := args_of_pieces given texts spaced plainFront text
  have base_eq : t.base = (ofText base).text := by
    rw [TypeName.base, baseChars_eq text plainFront, trimmed]
    rfl
  have container_iff (c : Container) :
      t.container? = some c ↔ args.length = 1 ∧ IsLastSegment c.name (ofText base).text := by
    rw [container?_eq_some, args_eq, base_eq]
  refine ⟨args_eq, base_eq, container_iff, ?_⟩
  rw [isCollection, Option.isSome_iff_exists, ← exists_and_left]
  exact exists_congr container_iff

/-! ### A map -/

/-- The pieces of a map's name, with blanks around them. -/
def mapPieces : List String := ["String ", " Vec<(u8, u16)>"]

/-- The comma of the tuple is not taken for one between the arguments. -/
theorem args_recovered_of_map :
    let t : TypeName := .ofText (application " std::collections::HashMap " mapPieces)
    let args : List TypeName := [⟨"String"⟩, ⟨"Vec<(u8, u16)>"⟩]
    '<' ∉ " std::collections::HashMap ".toList ∧ args ≠ [] ∧
      (∀ a ∈ args, IsArrowless a) ∧ List.Forall₂ IsSpaced args mapPieces ∧
      t.args = args ∧ t.base = "std::collections::HashMap" ∧ t.isCollection = false := by
  intro t args
  have plain : '<' ∉ " std::collections::HashMap ".toList := by decide
  have given : args ≠ [] := by simp [args]
  have texts : ∀ a ∈ args, IsArrowless a := by
    intro a mem
    simp only [args, List.mem_cons, List.not_mem_nil, or_false] at mem
    have noDash : '-' ∉ a.text.toList := by rcases mem with rfl | rfl <;> decide
    refine ⟨?_, fun arrow => noDash (arrow.subset (by simp))⟩
    rcases mem with rfl | rfl <;> exact ⟨by decide, by decide, by decide⟩
  have spaced : List.Forall₂ IsSpaced args mapPieces :=
    .cons ⟨"", " ", by decide, by decide, rfl⟩ (.cons ⟨" ", "", by decide, by decide, rfl⟩ .nil)
  obtain ⟨args_eq, base_eq, -, collection⟩ := args_recovered plain given texts spaced (Or.inr (rfl : t = _))
  refine ⟨plain, given, texts, spaced, args_eq, base_eq.trans (by decide), ?_⟩
  rw [Bool.eq_false_iff, ne_eq, collection]
  exact fun single => absurd single.1 (by decide)

end BeanMapping.TypeName
