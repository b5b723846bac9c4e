import BeanMapping.Proofs.GenericArguments
import BeanMapping.Proofs.MemberOrigins

/-!
# Vectors of a type

The vector of a type is a collection of that type as long as the type's text is cut nowhere when the
arguments of the vector are read. The texts of types may have arrows, as in `(u8, fn() -> u8)`. The tip of an
arrow is no bracket, but the count of open brackets takes it for a closing one. The count then is too low up
to the end of the brackets around the arrow, and a comma in between may stand at count zero.

Which commas these are is said without the count: a comma is covered if some stretch of text right before it
opens more brackets than it closes, where the tip of an arrow closes one (`Covered`).

Results:
* **`lt_depthAfter_iff`**: the count is how many more brackets are opened than closed on a stretch up to here,
  at most.
* **`unsplit_of_pieces`**: a text that stays in one piece has no comma at count zero.
* **`covered_of_isArrowless`**: without arrows all commas are covered.
* **`vector_elements`**: a vector is a collection of the type that it is named after exactly if the commas
  of the type are covered, and the same decides whether the two types of a property that only an adder
  makes known agree.
-/

namespace BeanMapping.TypeName

variable {depth k : Nat} {cs : List Char} {e : TypeName}

/-! ## What the count is -/

/-- The number of brackets that a text opens. -/
def openings (cs : List Char) : Nat :=
  cs.countP fun c => (closing? c).isSome

/-- The number of brackets that a text closes, with the tips of arrows. -/
def closings (cs : List Char) : Nat :=
  cs.countP isClosing

/-- A property of some stretch at the end of a longer text. -/
theorem exists_suffix_concat {P : List Char → Prop} {c : Char} :
    (∃ stretch, stretch <:+ cs ++ [c] ∧ P stretch) ↔
      P [] ∨ ∃ stretch, stretch <:+ cs ∧ P (stretch ++ [c]) := by
  simp only [List.suffix_concat_iff]
  constructor
  · rintro ⟨-, rfl | ⟨stretch, rfl, suffix⟩, h⟩
    · exact Or.inl h
    · exact Or.inr ⟨stretch, suffix, h⟩
  · rintro (h | ⟨stretch, suffix, h⟩)
    · exact ⟨[], Or.inl rfl, h⟩
    · exact ⟨_, Or.inr ⟨stretch, rfl, suffix⟩, h⟩

/-- The count never falls below zero, so it is not the number of brackets opened less that of brackets closed:
it is the most that this comes to on a stretch at the end of the text. -/
theorem lt_depthAfter_iff :
    k < depthAfter 0 cs ↔ ∃ stretch, stretch <:+ cs ∧ closings stretch + k < openings stretch := by
  induction cs using List.reverseRecOn generalizing k with
  | nil => simp [closings, openings]
  | append_singleton cs c ih =>
    have none : ¬closings [] + k < openings [] := by simp [closings, openings]
    rw [depthAfter_append, depthAfter_cons, depthAfter_nil, exists_suffix_concat, or_iff_right none]
    simp only [closings, openings, List.countP_append, List.countP_singleton] at ih ⊢
    by_cases opens : (closing? c).isSome
    · have notClosing : isClosing c = false := by
        rcases isSome_closing?_iff.mp opens with rfl | rfl | rfl <;> rfl
      simp only [bracketDepth_opening opens, opens, notClosing, if_true, Bool.false_eq_true, if_false]
      cases k with
      | zero => exact ⟨fun _ => ⟨[], List.nil_suffix, by simp⟩, fun _ => Nat.succ_pos _⟩
      | succ k =>
        rw [Nat.add_lt_add_iff_right, ih]
        exact exists_congr fun stretch => and_congr_right fun _ => by omega
    · simp only [opens, Bool.false_eq_true, if_false]
      by_cases closes : isClosing c
      · rw [bracketDepth_closing closes, Nat.lt_sub_iff_add_lt, ih]
        simp only [closes, if_true]
        exact exists_congr fun stretch => and_congr_right fun _ => by omega
      · have other : bracketDepth (depthAfter 0 cs) c = depthAfter 0 cs :=
          bracketDepth_other (Option.not_isSome_iff_eq_none.mp opens) (Bool.eq_false_iff.mpr closes)
        rw [other, ih]
        simp only [closes, Bool.false_eq_true, if_false, Nat.add_zero]

/-- Each comma has a stretch right before it that opens more brackets than it closes. -/
def Covered (cs : List Char) : Prop :=
  ∀ before after, cs = before ++ ',' :: after →
    ∃ stretch, stretch <:+ before ∧ closings stretch < openings stretch

theorem covered_iff_unsplit : Covered cs ↔ Unsplit 0 cs := by
  refine forall_congr' fun before => forall_congr' fun after => imp_congr_right fun _ => ?_
  rw [← Nat.pos_iff_ne_zero, lt_depthAfter_iff]
  simp only [Nat.add_zero]

/-! ## Texts that are cut -/

/-- A text that stays in one piece has no comma at count zero. -/
theorem unsplit_of_pieces (one : (pieces depth cs).2 = []) : Unsplit depth cs := by
  induction cs generalizing depth with
  | nil => exact unsplit_nil
  | cons c cs ih =>
    rw [pieces] at one
    split at one
    next => cases one
    next noCut => exact unsplit_cons.mpr ⟨fun comma zero => noCut ⟨comma, zero⟩, ih one⟩

/-- The last piece that is cut off is what stands after a comma. -/
theorem last_piece {last : List Char} (h : (pieces depth cs).2.getLast? = some last) :
    ∃ before, cs = before ++ ',' :: last := by
  induction cs generalizing depth with
  | nil => cases h
  | cons c cs ih =>
    rw [pieces] at h
    split at h
    next cut =>
      obtain ⟨rfl, -⟩ := cut
      rw [List.getLast?_cons, Option.some.injEq] at h
      cases more : (pieces 0 cs).2.getLast? with
      | none =>
        have one : (pieces 0 cs).2 = [] := List.getLast?_eq_none_iff.mp more
        have whole : pieces 0 cs = (cs, []) := pieces_of_unsplit (unsplit_of_pieces one)
        refine ⟨[], ?_⟩
        rw [← h, more, whole]
        rfl
      | some last' =>
        rw [more, Option.getD_some] at h
        subst h
        obtain ⟨before, rfl⟩ := ih more
        exact ⟨',' :: before, rfl⟩
    next =>
      obtain ⟨before, rfl⟩ := ih h
      exact ⟨c :: before, rfl⟩

theorem length_trim_le (cs : List Char) : (Text.trim cs).length ≤ cs.length := by
  rw [Text.trim, Text.trimRight, List.length_reverse]
  refine (List.dropWhile_suffix _).length_le.trans ?_
  rw [List.length_reverse]
  exact (List.dropWhile_suffix _).length_le

theorem blank_of_trim_eq_nil (h : Text.trim cs = []) : Blank cs := by
  rw [Text.trim, Text.trimRight, List.reverse_eq_nil_iff, List.dropWhile_eq_nil_iff] at h
  intro c mem
  rw [← List.takeWhile_append_dropWhile (p := Text.isBlank) (l := cs), List.mem_append] at mem
  rcases mem with front | back
  · exact List.mem_takeWhile_imp front
  · exact h c (List.mem_reverse.mpr back)

theorem isNested_concat_comma (awaited : List Char) : isNested awaited (cs ++ [',']) = false := by
  induction cs generalizing awaited with
  | nil =>
    have plain : closing? ',' = none := rfl
    have notClosing : isClosing ',' = false := rfl
    cases awaited <;> simp [isNested, plain, notClosing]
  | cons c cs ih =>
    rw [List.cons_append, isNested]
    split
    · exact ih _
    · split <;> rw [ih, Bool.and_false]

theorem withoutArrows_concat_comma : withoutArrows (cs ++ [',']) = withoutArrows cs ++ [','] := by
  induction cs using withoutArrows.induct with
  | case1 cs ih => simpa [withoutArrows] using ih
  | case2 c cs noArrow ih =>
    have noArrow' : ∀ rest, c = '-' → cs ++ [','] = '>' :: rest → False := by
      intro rest dash tip
      cases cs with
      | nil => simp at tip
      | cons c' cs => exact noArrow cs dash (by rw [(List.cons.inj tip).1])
    rw [List.cons_append, withoutArrows.eq_2 _ _ noArrow', withoutArrows.eq_2 _ _ noArrow, ih,
      List.cons_append]
  | case3 => rfl

/-- No comma stands at the end of a type's text, with or without blanks after it. -/
theorem IsTypeText.not_blank_after {before after : List Char} (text : IsTypeText e)
    (eq : e.text.toList = before ++ ',' :: after) : Text.trim after ≠ [] := by
  intro blank
  have shorter : (Text.trim e.text.toList).length ≤ (before ++ [',']).length := by
    rw [eq, ← List.singleton_append, ← List.append_assoc, trim_append_blank _ (blank_of_trim_eq_nil blank)]
    exact length_trim_le _
  rw [text.trimmed, eq] at shorter
  have ends : after = [] := by
    rw [← List.length_eq_zero_iff]
    simp only [List.length_append, List.length_cons, List.length_nil] at shorter
    omega
  have nested := text.nested
  rw [eq, ends, withoutArrows_concat_comma, isNested_concat_comma] at nested
  cases nested

/-! ## Vectors -/

theorem toList_vecOf (e : TypeName) :
    (vecOf e).text.toList = "Vec".toList ++ '<' :: (e.text.toList ++ ['>']) := by
  simp [vecOf]

theorem base_vecOf (e : TypeName) : (vecOf e).base = "Vec" := by
  rw [base, baseChars_eq (toList_vecOf e) (by decide)]
  decide

/-- Where the text of a type is not cut, the type is the one argument of its vector. -/
theorem IsTypeText.args_vecOf (text : IsTypeText e) (unsplit : Unsplit 0 e.text.toList) :
    (vecOf e).args = [e] := by
  have last : ([e.text.toList].map Text.trim).getLast? ≠ some [] := by
    simpa [text.trimmed] using text.nonempty
  rw [args_eq (toList_vecOf e) (by decide) (pieces_of_unsplit unsplit) last, List.map_cons, List.map_nil,
    text.trimmed, String.ofList_toList]

/-- Where the text of a type is cut, its vector has more arguments: the last piece is not blank. -/
theorem IsTypeText.unsplit_of_args (text : IsTypeText e) (single : (vecOf e).args.length = 1) :
    Unsplit 0 e.text.toList := by
  obtain ⟨first, rest, cut⟩ : ∃ first rest, pieces 0 e.text.toList = (first, rest) := ⟨_, _, rfl⟩
  refine unsplit_of_pieces (List.getLast?_eq_none_iff.mp ?_)
  by_contra more
  obtain ⟨after, last⟩ := Option.ne_none_iff_exists'.mp more
  obtain ⟨before, eq⟩ := last_piece last
  rw [cut] at last
  have notBlank : ((first :: rest).map Text.trim).getLast? ≠ some [] := by
    rw [List.getLast?_map, List.getLast?_cons, last]
    simpa using text.not_blank_after eq
  rw [args_eq (toList_vecOf e) (by decide) cut notBlank, List.length_map, List.length_cons] at single
  have none : rest = [] := List.length_eq_zero_iff.mp (Nat.succ.inj single)
  rw [none] at last
  cases last

/-- A vector is a collection of the type that it is named after exactly if the commas of the type are covered,
and else it is no collection. -/
theorem IsTypeText.vecOf_iff (text : IsTypeText e) :
    ((vecOf e).container? = some .vec ↔ Covered e.text.toList) ∧
      ((vecOf e).element? = some e ↔ Covered e.text.toList) ∧
      ((vecOf e).isCollection = true ↔ Covered e.text.toList) := by
  rw [covered_iff_unsplit]
  have container (unsplit : Unsplit 0 e.text.toList) : (vecOf e).container? = some .vec :=
    container?_eq_some.mpr ⟨by rw [text.args_vecOf unsplit]; rfl, Or.inl (base_vecOf e)⟩
  have element (unsplit : Unsplit 0 e.text.toList) : (vecOf e).element? = some e := by
    rw [element?, container unsplit, text.args_vecOf unsplit]
    rfl
  have uncut (collection : (vecOf e).isCollection = true) : Unsplit 0 e.text.toList := by
    obtain ⟨c, found⟩ := Option.isSome_iff_exists.mp collection
    exact text.unsplit_of_args (container?_eq_some.mp found).1
  refine ⟨⟨fun h => uncut ?_, container⟩, ⟨fun h => uncut ?_, element⟩, uncut, fun unsplit => ?_⟩
  · rw [isCollection, h]
    rfl
  · rw [element?] at h
    split at h
    next found =>
      rw [isCollection, found]
      rfl
    next => cases h
  · rw [isCollection, container unsplit]
    rfl

/-- Without arrows all commas are covered. -/
theorem covered_of_isArrowless (text : IsArrowless e) : Covered e.text.toList :=
  covered_iff_unsplit.mpr text.unsplit.1

end BeanMapping.TypeName

namespace BeanMapping.Introspection

open BeanMapping.TypeName

/-! ## Properties that only an adder makes known -/

/-- **A vector is a collection of its element type if the type's commas are covered**, and else it is no
collection. So the value type and the element type of a property that only an adder makes known agree exactly
if the commas of what the adder takes are covered. -/
theorem vector_elements {e : TypeName} (text : IsTypeText e) :
    (((vecOf e).container? = some .vec ↔ Covered e.text.toList) ∧
      ((vecOf e).element? = some e ↔ Covered e.text.toList) ∧
      ((vecOf e).isCollection = true ↔ Covered e.text.toList)) ∧
    ∀ r i t shape p, shapeOf r i t = .ok shape → p ∈ shape.properties → p.accessors.getter = none →
      p.accessors.setter = none → p.elementType = some e →
      p.valueType = vecOf e ∧ (p.valueType.element? = p.elementType ↔ Covered e.text.toList) := by
  refine ⟨text.vecOf_iff, fun r i t shape p made mem unread unset element => ?_⟩
  have value : p.valueType = vecOf e := by
    rw [shapeOf] at made
    split at made
    next d _ =>
      obtain rfl := Except.ok.inj made
      rw [describedShape] at mem
      split at mem
      · obtain ⟨a, rfl⟩ := eq_adderProperty mem unread unset
        exact congrArg vecOf (Option.some.inj element)
      · cases mem
    next =>
      split at made
      · obtain rfl := Except.ok.inj made
        cases mem
      · cases made
  rw [value, element]
  exact ⟨rfl, text.vecOf_iff.2.1⟩

/-! ### Handlers -/

/-- A pair that ends in a function. -/
def handler : TypeName := ⟨"(u8, fn() -> u8)"⟩

/-- A pair that starts with a function. -/
def hook : TypeName := ⟨"(fn() -> u8, u8)"⟩

/-- A service that takes handlers and hooks one by one. -/
def service : TypeDescriptor where
  name := ⟨"Service"⟩
  kind := .bean
  members := [.writer "addHandler" handler, .writer "addHook" hook]

/-- The property of the adder of handlers: a vector of them. -/
def handlers : Property :=
  ⟨"handler", vecOf handler, some handler, { adder := some ⟨"addHandler", []⟩ }⟩

/-- The property of the adder of hooks: a vector of them. -/
def hooks : Property :=
  ⟨"hook", vecOf hook, some hook, { adder := some ⟨"addHook", []⟩ }⟩

/-- What introspection makes of the service, with the inflector that has no overrides. -/
def serviceShape : Except Fault BeanShape :=
  shapeOf (.ofList [service]) ⟨.ofList []⟩ service.name

theorem serviceShape_eq : serviceShape = .ok ⟨service.name, [handlers, hooks]⟩ := by
  have described : serviceShape = .ok (describedShape ⟨.ofList []⟩ service) := rfl
  rw [described, Except.ok.injEq]
  decide +kernel

/-- The arrow of a handler comes after its comma, which the bracket in front covers. -/
theorem vector_elements_of_handlers :
    IsTypeText handler ∧ (∃ shape, serviceShape = .ok shape ∧ handlers ∈ shape.properties) ∧
      handlers.accessors.getter = none ∧ handlers.accessors.setter = none ∧
      handlers.elementType = some handler ∧ Covered handler.text.toList ∧
      handlers.valueType.element? = handlers.elementType := by
  have text : IsTypeText handler := ⟨by decide, by decide, by decide⟩
  have mem : handlers ∈ [handlers, hooks] := List.mem_cons_self
  obtain ⟨⟨-, element, -⟩, agree⟩ := vector_elements text
  have covered : Covered handler.text.toList := element.mp (by decide)
  have types := agree _ _ _ _ handlers serviceShape_eq mem rfl rfl rfl
  exact ⟨text, ⟨_, serviceShape_eq, mem⟩, rfl, rfl, rfl, covered, types.2.mpr covered⟩

/-- The arrow of a hook comes before its comma: the vector of hooks has two arguments and is no
collection. -/
theorem vector_of_hooks_is_cut :
    IsTypeText hook ∧ (vecOf hook).args = [⟨"(fn() -> u8"⟩, ⟨"u8)"⟩] ∧ (vecOf hook).isCollection = false ∧
      (∃ shape, serviceShape = .ok shape ∧ hooks ∈ shape.properties) ∧
      hooks.accessors.getter = none ∧ hooks.accessors.setter = none ∧
      hooks.elementType = some hook ∧ hooks.valueType.element? = none := by
  have text : IsTypeText hook := ⟨by decide, by decide, by decide⟩
  have mem : hooks ∈ [handlers, hooks] := List.mem_cons_of_mem handlers List.mem_cons_self
  exact ⟨text, by decide, by decide, ⟨_, serviceShape_eq, mem⟩, rfl, rfl, rfl, by decide⟩

end BeanMapping.Introspection
