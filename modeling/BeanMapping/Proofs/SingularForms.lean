import BeanMapping.Proofs.NearestFirst
import Mathlib.Data.List.TakeWhile

/-!
# The singular forms of a name

A name is a start, up to its last low line, and a last word. Its forms come from sources that are asked in
turn: the override of the name, then that of its last word, the irregular nouns and the regular endings, of
which each gives a word that takes the place of the last word, and at the end the name itself. A form that is
given again stays where it was given first.

So the name is the last form unless one of the other sources has given it and a form that is new comes after
that. Regular endings make a word shorter, so only an override or a noun without a plural of its own can give
the name (`mem_earlierForms_iff`).

Results:
* **`name_is_last_form_iff`**: the forms of a name are distinct, an override comes first, the name is one of
  them, and when it is the last one;
* **`only_last_word_is_inflected`**: the forms and the tiers of a name are those of its last word, after the
  start of the name.
-/

namespace BeanMapping

open Registry (eraseDups_filter)

/-! ## Lists without their duplicates -/

section Lists

variable {α β : Type}

/-- An item that does not come again is the last one where nothing comes after it. -/
theorem getLast?_append_cons_eq_some_iff {l l' : List α} {a : α} (once : a ∉ l') :
    (l ++ a :: l').getLast? = some a ↔ l' = [] := by
  rw [List.getLast?_append_cons, List.getLast?_cons]
  cases last : l'.getLast? with
  | none => exact iff_of_true rfl (List.getLast?_eq_none_iff.mp last)
  | some b =>
    refine iff_of_false (fun same => ?_) fun empty => by simp [empty] at last
    obtain rfl : b = a := Option.some.inj same
    exact once (List.mem_of_getLast? last)

variable [DecidableEq α] [DecidableEq β]

theorem eraseDups_of_nodup {l : List α} (h : l.Nodup) : l.eraseDups = l := by
  induction l with
  | nil => rfl
  | cons a l ih =>
    obtain ⟨fresh, nodup⟩ := List.nodup_cons.mp h
    have kept : l.filter (fun b => !b == a) = l := by
      refine List.filter_eq_self.mpr fun b mem => ?_
      simpa using fun same : b = a => fresh (same ▸ mem)
    rw [List.eraseDups_cons, kept, ih nodup]

/-- A function that keeps items apart keeps the places of duplicates. -/
theorem eraseDups_map {f : α → β} (apart : Function.Injective f) :
    ∀ l : List α, (l.map f).eraseDups = l.eraseDups.map f
  | [] => rfl
  | a :: l => by
    have others : (l.map f).filter (fun b => !b == f a) = (l.filter fun b => !b == a).map f := by
      rw [List.filter_map]
      refine congrArg (List.map f) (List.filter_congr fun b _ => ?_)
      simp [apart.eq_iff]
    rw [List.map_cons, List.eraseDups_cons, List.eraseDups_cons, List.map_cons, others,
      eraseDups_map apart (l.filter fun b => !b == a)]
termination_by l => l.length
decreasing_by exact Nat.lt_succ_of_le (List.length_filter_le _ l)

/-- Duplicates may be left out of the end of a list first. -/
theorem eraseDups_append_eraseDups (l l' : List α) : (l ++ l'.eraseDups).eraseDups = (l ++ l').eraseDups := by
  rw [List.eraseDups_append, List.eraseDups_append]
  unfold List.removeAll
  rw [eraseDups_filter, eraseDups_of_nodup (nodup_eraseDups _)]

/-- The first item may be given twice. -/
theorem eraseDups_toList_append (first : Option α) (l : List α) :
    (first.toList ++ (first.toList ++ l)).eraseDups = (first.toList ++ l).eraseDups := by
  cases first with
  | none => rfl
  | some a => simp [List.eraseDups_cons]

/-- What comes after a new item adds what is neither the item nor was there before. -/
theorem eraseDups_append_cons {before after : List α} {a : α} (new : a ∉ before) :
    (before ++ a :: after).eraseDups =
      before.eraseDups ++ a :: (after.filter fun b => b != a && !before.contains b).eraseDups := by
  have kept : (a :: after).removeAll before = a :: after.removeAll before := by
    rw [List.cons_removeAll, if_pos (by simpa using new)]
  rw [List.eraseDups_append, kept, List.eraseDups_cons]
  unfold List.removeAll
  rw [List.filter_filter]
  rfl

/-- **An item that is added at the end is the last one**, unless it was there and something new comes after
it. -/
theorem getLast?_eraseDups_concat_iff {l : List α} {a : α} :
    (l ++ [a]).eraseDups.getLast? = some a ↔
      ∀ b ∈ l.dropWhile (· != a), b = a ∨ b ∈ l.takeWhile (· != a) := by
  have new : a ∉ l.takeWhile (· != a) := fun mem => by simpa using List.mem_takeWhile_imp mem
  obtain ⟨after, split, mem_after⟩ : ∃ after, l.dropWhile (· != a) ++ [a] = a :: after ∧
      ∀ b, b ≠ a → (b ∈ after ↔ b ∈ l.dropWhile (· != a)) := by
    cases rest : l.dropWhile (· != a) with
    | nil => exact ⟨[], rfl, fun b _ => Iff.rfl⟩
    | cons b rest' =>
      have head := List.head?_dropWhile_not (· != a) l
      rw [rest] at head
      obtain rfl : b = a := by simpa using head
      exact ⟨rest' ++ [b], rfl, fun c other => by simp [other]⟩
  have whole : l ++ [a] = l.takeWhile (· != a) ++ a :: after := by
    rw [← split, ← List.append_assoc, List.takeWhile_append_dropWhile]
  rw [whole, eraseDups_append_cons new, getLast?_append_cons_eq_some_iff (by simp)]
  rw [List.eq_nil_iff_forall_not_mem]
  constructor
  · intro nothing b mem
    by_cases same : b = a
    · exact Or.inl same
    · refine Or.inr (by_contra fun absent => nothing b (List.mem_eraseDups.mpr (List.mem_filter.mpr ?_)))
      exact ⟨(mem_after b same).mpr mem, by simp [same, absent]⟩
  · intro settled b mem
    obtain ⟨mem, test⟩ := List.mem_filter.mp (List.mem_eraseDups.mp mem)
    simp only [Bool.and_eq_true, bne_iff_ne, Bool.not_eq_true', List.contains_eq_mem,
      decide_eq_false_iff_not] at test
    exact test.2 ((settled b ((mem_after b test.1).mp mem)).resolve_left test.1)

end Lists

namespace Inflector

variable {i : Inflector} {name : String}

/-! ## Starts and last words -/

/-- The start of a name, up to its last low line. -/
def startOf (name : String) : String := String.ofList (nameStart name.toList)

/-- The last word of a name. -/
def wordOf (name : String) : String := String.ofList (lastWord name.toList)

theorem startOf_append_wordOf (name : String) : startOf name ++ wordOf name = name := by
  unfold startOf wordOf nameStart lastWord
  rw [← String.ofList_append, ← List.reverse_append, List.takeWhile_append_dropWhile, List.reverse_reverse,
    String.ofList_toList]

/-- A start that is empty or ends with a low line is the start of each name that it makes with a word. -/
theorem startOf_append {start word : String} (ends : start = "" ∨ start.toList.getLast? = some '_')
    (plain : '_' ∉ word.toList) : startOf (start ++ word) = start ∧ wordOf (start ++ word) = word := by
  have passes : ∀ c ∈ word.toList.reverse, (c != '_') = true := by
    intro c mem
    have other : c ≠ '_' := fun same => plain (same ▸ List.mem_reverse.mp mem)
    simpa using other
  have stops : start.toList.reverse.takeWhile (· != '_') = [] ∧
      start.toList.reverse.dropWhile (· != '_') = start.toList.reverse := by
    rcases ends with rfl | ends
    · exact ⟨rfl, rfl⟩
    · obtain ⟨before, ends⟩ := List.getLast?_eq_some_iff.mp ends
      rw [ends, List.reverse_concat]
      exact ⟨rfl, rfl⟩
  unfold startOf wordOf nameStart lastWord
  rw [String.toList_append, List.reverse_append, List.dropWhile_append_of_pos passes,
    List.takeWhile_append_of_pos passes, stops.1, stops.2, List.append_nil, List.reverse_reverse,
    List.reverse_reverse, String.ofList_toList, String.ofList_toList]
  exact ⟨rfl, rfl⟩

theorem append_injective (start : String) : Function.Injective (start ++ ·) :=
  fun _ _ => (String.append_right_inj start).mp

/-! ## Forms -/

/-- The forms of a word: its override, its irregular singular, what the regular endings give. -/
def wordForms (i : Inflector) (word : String) : List String :=
  (i.wordSingulars word.toList).map String.ofList

/-- The forms of a name in the order of their sources, without the name itself. -/
def earlierForms (i : Inflector) (name : String) : List String :=
  (i.overrides.find? name).toList ++ (i.wordForms (wordOf name)).map (startOf name ++ ·)

theorem wordForms_eq (i : Inflector) (word : String) :
    i.wordForms word = (i.overrides.find? word).toList ++ ((irregularNouns.lookup word).toList ++
      (regularSingulars word.toList).map String.ofList) := by
  have texts : ∀ o : Option String, (o.map String.toList).toList.map String.ofList = o.toList := by
    rintro (_ | s)
    · rfl
    · simp
  unfold wordForms wordSingulars
  rw [String.ofList_toList, List.map_append, List.map_append, texts, texts, List.append_assoc]

theorem singularCandidates_eq (i : Inflector) (name : String) :
    i.singularCandidates name = (i.earlierForms name ++ [name]).eraseDups := by
  unfold singularCandidates earlierForms wordForms startOf wordOf
  rw [List.map_map, String.toList_ofList]
  simp only [String.ofList_append]
  rfl

/-- The override that applies to a name: its own, or else that of its last word. -/
def override? (i : Inflector) (name : String) : Option String :=
  (i.overrides.find? name).or ((i.overrides.find? (wordOf name)).map (startOf name ++ ·))

/-- The override that applies comes first. -/
theorem head?_singularCandidates {form : String} (applies : i.override? name = some form) :
    (i.singularCandidates name).head? = some form := by
  obtain ⟨others, forms_eq⟩ : ∃ others, i.earlierForms name = form :: others := by
    unfold override? at applies
    unfold earlierForms
    cases whole : i.overrides.find? name with
    | some s =>
      rw [whole] at applies
      obtain rfl := Option.some.inj applies
      exact ⟨_, rfl⟩
    | none =>
      rw [whole, Option.none_or] at applies
      obtain ⟨s, word, rfl⟩ := Option.map_eq_some_iff.mp applies
      rw [wordForms_eq, word]
      exact ⟨_, rfl⟩
  rw [singularCandidates_eq, forms_eq, List.cons_append, List.eraseDups_cons]
  rfl

/-- Regular endings make a word shorter. -/
theorem length_lt_of_mem_regularSingulars {word form : List Char} (h : form ∈ regularSingulars word) :
    form.length < word.length := by
  have shorter : ∀ e ∈ pluralEndings, e.2.toList.length < e.1.toList.length := by decide
  obtain ⟨e, known, made⟩ := List.mem_filterMap.mp h
  unfold replaceEnding? at made
  split at made
  · rename_i fits
    obtain rfl := Option.some.inj made
    have less := shorter e known
    rw [List.length_append, List.length_take]
    omega
  · cases made

/-- The nouns that have no plural of their own. -/
def invariantNouns : List String := (irregularNouns.filter fun e => e.1 == e.2).map (·.1)

theorem mem_invariantNouns_iff {word : String} :
    word ∈ invariantNouns ↔ irregularNouns.lookup word = some word := by
  constructor
  · have known : ∀ noun ∈ invariantNouns, irregularNouns.lookup noun = some noun := by decide
    exact known word
  · intro found
    obtain ⟨before, after, nouns_eq, -⟩ := List.lookup_eq_some_iff.mp found
    have entry : (word, word) ∈ irregularNouns := by simp [nouns_eq]
    exact List.mem_map.mpr ⟨_, List.mem_filter.mpr ⟨entry, beq_self_eq_true word⟩, rfl⟩

theorem startOf_append_eq_iff {form : String} : startOf name ++ form = name ↔ form = wordOf name := by
  conv_lhs => rhs; rw [← startOf_append_wordOf name]
  exact String.append_right_inj _

theorem not_mem_regularSingulars (word : String) :
    word ∉ (regularSingulars word.toList).map String.ofList := by
  intro mem
  obtain ⟨form, regular, rfl⟩ := List.mem_map.mp mem
  rw [String.toList_ofList] at regular
  exact Nat.lt_irrefl _ (length_lt_of_mem_regularSingulars regular)

/-- **Which sources give the name itself**: an override may, and the invariant nouns. -/
theorem mem_earlierForms_iff : name ∈ i.earlierForms name ↔
    i.overrides.find? name = some name ∨ i.overrides.find? (wordOf name) = some (wordOf name) ∨
      wordOf name ∈ invariantNouns := by
  unfold earlierForms
  rw [List.mem_append, List.mem_map, wordForms_eq, mem_invariantNouns_iff]
  simp only [startOf_append_eq_iff, exists_eq_right, List.mem_append, Option.mem_toList,
    not_mem_regularSingulars, or_false]

/-- The invariant nouns that have a regular ending all the same. -/
def endedInvariants : List String := invariantNouns.filter fun noun => !(regularSingulars noun.toList).isEmpty

example : endedInvariants = ["series", "species", "news"] := by decide

/-- Without an override the name is last unless its last word is an invariant noun with a regular ending. -/
theorem getLast?_singularCandidates_of_not_overridden (none : i.override? name = none) :
    (i.singularCandidates name).getLast? = some name ↔ wordOf name ∉ endedInvariants := by
  obtain ⟨whole, word⟩ := Option.or_eq_none_iff.mp none
  rw [Option.map_eq_none_iff] at word
  have forms_eq : i.earlierForms name = ((irregularNouns.lookup (wordOf name)).toList ++
      (regularSingulars (wordOf name).toList).map String.ofList).map (startOf name ++ ·) := by
    unfold earlierForms
    rw [wordForms_eq, whole, word]
    rfl
  rw [singularCandidates_eq, getLast?_eraseDups_concat_iff]
  unfold endedInvariants
  rw [List.mem_filter]
  by_cases invariant : wordOf name ∈ invariantNouns
  · -- The irregular nouns give the name first, so it is last where the endings give nothing.
    rw [mem_invariantNouns_iff.mp invariant, Option.toList_some, List.singleton_append, List.map_cons,
      startOf_append_wordOf] at forms_eq
    have others : ∀ form ∈ ((regularSingulars (wordOf name).toList).map String.ofList).map
        (startOf name ++ ·), form ≠ name := by
      intro form mem same
      obtain ⟨regular, mem, form_eq⟩ := List.mem_map.mp mem
      rw [startOf_append_eq_iff.mp (form_eq.trans same)] at mem
      exact not_mem_regularSingulars (wordOf name) mem
    rw [forms_eq, List.dropWhile_cons_of_neg (by simp), List.takeWhile_cons_of_neg (by simp)]
    cases regular : regularSingulars (wordOf name).toList with
    | nil => simp
    | cons first rest =>
      rw [regular] at others
      simp [invariant, others _ List.mem_cons_self]
  · have absent : name ∉ i.earlierForms name := by
      rw [mem_earlierForms_iff, whole, word]
      simpa using invariant
    have nothing : (i.earlierForms name).dropWhile (· != name) = [] := by
      refine List.dropWhile_eq_nil_iff.mpr fun form mem => ?_
      simpa using fun same : form = name => absent (same ▸ mem)
    rw [nothing]
    simp [invariant]

/-- **When the name is the last of its forms.** The forms of a name are distinct, the override that applies
is the first, and the name is one of them. It is the last one exactly where each form that follows the name in
the order of the sources was given before it; so it is where no override and no irregular noun gives the name
itself. Without overrides it fails for the invariant nouns that have a regular ending, and for them only. -/
theorem name_is_last_form_iff (i : Inflector) (name : String) :
    (i.singularCandidates name).Nodup ∧
    (∀ form, i.override? name = some form → (i.singularCandidates name).head? = some form) ∧
    name ∈ i.singularCandidates name ∧
    ((i.singularCandidates name).getLast? = some name ↔
      ∀ form ∈ (i.earlierForms name).dropWhile (· != name),
        form = name ∨ form ∈ (i.earlierForms name).takeWhile (· != name)) ∧
    (name ∈ i.earlierForms name ↔ i.overrides.find? name = some name ∨
      i.overrides.find? (wordOf name) = some (wordOf name) ∨ wordOf name ∈ invariantNouns) ∧
    (i.override? name = none →
      ((i.singularCandidates name).getLast? = some name ↔ wordOf name ∉ endedInvariants)) := by
  have last_iff : (i.singularCandidates name).getLast? = some name ↔
      ∀ form ∈ (i.earlierForms name).dropWhile (· != name),
        form = name ∨ form ∈ (i.earlierForms name).takeWhile (· != name) := by
    rw [singularCandidates_eq, getLast?_eraseDups_concat_iff]
  refine ⟨?_, fun form => head?_singularCandidates, ?_, last_iff, mem_earlierForms_iff,
    getLast?_singularCandidates_of_not_overridden⟩
  · rw [singularCandidates_eq]
    exact nodup_eraseDups _
  · rw [singularCandidates_eq, List.mem_eraseDups]
    exact List.mem_append_right _ (List.mem_singleton_self name)

/-- News are their own singular, and the ending comes after. -/
theorem name_is_not_last_form : (⟨∅⟩ : Inflector).singularCandidates "news" = ["news", "new"] ∧
    ((⟨∅⟩ : Inflector).singularCandidates "news").getLast? ≠ some "news" := by
  decide

/-! ## Compound names -/

section Compound

variable {start word : String} (ends : start = "" ∨ start.toList.getLast? = some '_')
  (plain : '_' ∉ word.toList)
include ends plain

theorem earlierForms_append (i : Inflector) : i.earlierForms (start ++ word) =
    (i.overrides.find? (start ++ word)).toList ++ (i.wordForms word).map (start ++ ·) := by
  obtain ⟨startOf_eq, wordOf_eq⟩ := startOf_append ends plain
  unfold earlierForms
  rw [startOf_eq, wordOf_eq]

omit ends in
/-- The override of a single word is asked for twice, as that of the name and as that of its last word. -/
theorem singularCandidates_word (i : Inflector) :
    i.singularCandidates word = (i.wordForms word ++ [word]).eraseDups := by
  have forms_eq := earlierForms_append (Or.inl rfl) plain i
  have self : (i.wordForms word).map ("" ++ ·) = i.wordForms word := by simp
  rw [String.empty_append, self] at forms_eq
  rw [singularCandidates_eq, forms_eq, wordForms_eq, List.append_assoc, List.append_assoc,
    eraseDups_toList_append]

/-- The forms of a compound name: its override, and the forms of its last word after its start. -/
theorem singularCandidates_append (i : Inflector) : i.singularCandidates (start ++ word) =
    ((i.overrides.find? (start ++ word)).toList ++ (i.singularCandidates word).map (start ++ ·)).eraseDups := by
  rw [singularCandidates_word plain, ← eraseDups_map (append_injective start), eraseDups_append_eraseDups,
    singularCandidates_eq, earlierForms_append ends plain, List.map_append, List.append_assoc]
  rfl

/-- **Only the last word is inflected.** The forms of a name are the override of the name, if there is one, and
then the start of the name before each form of its last word. Where the name has no override of its own, the
start changes no tier. -/
theorem only_last_word_is_inflected (i : Inflector) :
    i.singularCandidates (start ++ word) = ((i.overrides.find? (start ++ word)).toList ++
      (i.singularCandidates word).map (start ++ ·)).eraseDups ∧
    (i.overrides.find? (start ++ word) = none →
      ∀ candidate, i.tier? (start ++ word) (start ++ candidate) = i.tier? word candidate) := by
  have forms_eq := singularCandidates_append ends plain i
  refine ⟨forms_eq, fun none candidate => ?_⟩
  have nodup : ((i.singularCandidates word).map (start ++ ·)).Nodup := by
    rw [singularCandidates_eq]
    exact (nodup_eraseDups _).map (append_injective start)
  rw [none, Option.toList_none, List.nil_append, eraseDups_of_nodup nodup] at forms_eq
  unfold tier?
  rw [forms_eq, List.findIdx?_map]
  refine congrArg (List.findIdx? · _) (funext fun form => ?_)
  simp [(append_injective start).eq_iff]

end Compound

/-- Teeth are fangs, and the roots of teeth have a singular of their own. -/
def fangs : Inflector :=
  ⟨.ofList [("teeth", "fang"), ("teeth_roots", "root_canal")]⟩

/-- The teeth of a dog are fangs by the override of their last word; a name with an override of its own has
one form more. -/
theorem only_last_word_of_dog_teeth_is_inflected :
    "dog_".toList.getLast? = some '_' ∧ '_' ∉ "teeth".toList ∧
    fangs.singularCandidates "dog_teeth" = ["dog_fang", "dog_tooth", "dog_teeth"] ∧
    fangs.overrides.find? "dog_teeth" = none ∧
    fangs.tier? "dog_teeth" "dog_tooth" = fangs.tier? "teeth" "tooth" ∧ fangs.tier? "teeth" "tooth" = some 1 ∧
    fangs.singularCandidates "teeth_roots" = ["root_canal", "teeth_root", "teeth_roots"] := by
  obtain ⟨teeth, tiers⟩ := @only_last_word_is_inflected "dog_" "teeth" (Or.inr (by decide)) (by decide) fangs
  obtain ⟨roots, -⟩ := @only_last_word_is_inflected "teeth_" "roots" (Or.inr (by decide)) (by decide) fangs
  have none : fangs.overrides.find? "dog_teeth" = none := by decide
  refine ⟨by decide, by decide, teeth.trans (by decide), none, tiers none "tooth", by decide,
    roots.trans (by decide)⟩

end Inflector

end BeanMapping
