import BeanMapping.Proofs.ConversionPriority
import BeanMapping.Proofs.VectorElements

/-!
# Boxing and unboxing

A value is boxed where the target is a box of its type, and unboxed where its type is a box of the target. Both
come after other built-in conversions, so it has to be shown that none of these takes one direction away: a type
is not its own box, numbers that are widened are no boxes, and of two types only one can be a box of the other.
The last holds as an argument of a name is shorter than the name.

Results:
* **`TypeName.length_lt_of_mem_args`**: an argument is shorter than the name that it is an argument of;
* `find?_eq_boxing_iff`, `find?_eq_unboxing_iff`: what is boxed, and what is unboxed;
* **`boxing_is_undone`**: one type is boxed to another exactly if that is unboxed to the one, also where rules and
  hints have their say.
-/

namespace BeanMapping

namespace TypeName

variable {depth : Nat} {cs inner p : List Char} {ps : List (List Char)} {a t : TypeName}

/-! ## The length of arguments -/

theorem length_lt_of_between? (h : between? cs = some inner) : inner.length < cs.length := by
  unfold between? at h
  split at h
  · cases h
  next after opened =>
    split at h
    · cases h
    next init closed =>
      obtain rfl := Option.some.inj h
      have afterOpening := (List.dropWhile_suffix (l := cs) (· != '<')).length_le
      have beforeClosing := (List.dropWhile_suffix (l := after.reverse) (· != '>')).length_le
      rw [opened, List.length_cons] at afterOpening
      rw [closed, List.length_cons, List.length_reverse] at beforeClosing
      rw [List.length_reverse]
      omega

theorem length_le_of_mem_pieces (h : p ∈ (pieces depth cs).1 :: (pieces depth cs).2) :
    p.length ≤ cs.length := by
  induction cs generalizing depth p with
  | nil =>
    rw [List.mem_singleton.mp h]
    exact Nat.le_refl _
  | cons c cs ih =>
    rw [pieces] at h
    split at h
    next =>
      rcases List.mem_cons.mp h with rfl | later
      · exact Nat.zero_le _
      · exact (ih later).trans (Nat.le_succ _)
    next =>
      rcases List.mem_cons.mp h with rfl | later
      · exact Nat.succ_le_succ (ih List.mem_cons_self)
      · exact (ih (List.mem_cons_of_mem _ later)).trans (Nat.le_succ _)

theorem mem_of_mem_dropBlankEnd (h : p ∈ dropBlankEnd ps) : p ∈ ps := by
  unfold dropBlankEnd at h
  split at h
  · exact List.dropLast_subset ps h
  · exact h

/-- **An argument is shorter than the name that it is an argument of.** -/
theorem length_lt_of_mem_args (h : a ∈ t.args) : a.text.toList.length < t.text.toList.length := by
  unfold args at h
  split at h
  · cases h
  next inner found =>
    obtain ⟨q, kept, rfl⟩ := List.mem_map.mp h
    obtain ⟨p, mem, rfl⟩ := List.mem_map.mp (mem_of_mem_dropBlankEnd kept)
    rw [String.toList_ofList]
    calc (Text.trim p).length
        ≤ p.length := length_trim_le p
      _ ≤ inner.length := length_le_of_mem_pieces mem
      _ < t.text.toList.length := length_lt_of_between? found

theorem mem_args_of_boxed? (h : t.boxed? = some a) : a ∈ t.args := by
  unfold boxed? at h
  split at h
  · split at h
    next one =>
      obtain rfl := Option.some.inj h
      rw [one]
      exact List.mem_singleton_self _
    · cases h
  · cases h

/-- Only one of two types can be a box of the other. -/
theorem boxed?_ne_of_boxed? (h : t.boxed? = some a) : a.boxed? ≠ some t := by
  intro back
  have there := length_lt_of_mem_args (mem_args_of_boxed? h)
  have andBack := length_lt_of_mem_args (mem_args_of_boxed? back)
  omega

theorem ne_of_boxed? (h : t.boxed? = some a) : a ≠ t := by
  rintro rfl
  exact boxed?_ne_of_boxed? h h

/-- A name without brackets is no box. -/
theorem boxed?_eq_none (plain : '<' ∉ t.text.toList) : t.boxed? = none := by
  have unopened : between? t.text.toList = none := by
    have none : t.text.toList.dropWhile (· != '<') = [] :=
      List.dropWhile_eq_nil_iff.mpr (ne_of_plain plain)
    rw [between?, none]
  have noArgs : t.args = [] := by rw [args, unopened]
  refine Option.eq_none_iff_forall_ne_some.mpr fun a boxed => ?_
  have mem := mem_args_of_boxed? boxed
  rw [noArgs] at mem
  cases mem

end TypeName

namespace Builtin

variable {types : Registry} {a b : TypeName}

/-! ## What is boxed -/

/-- The names of numbers have no brackets. -/
theorem plain_of_widens (h : widens a b = true) : '<' ∉ a.text.toList ∧ '<' ∉ b.text.toList := by
  have plain : ∀ e ∈ widerNumbers, '<' ∉ e.1.toList ∧ ∀ wider ∈ e.2, '<' ∉ wider.toList := by decide
  unfold widens at h
  split at h
  next wider found =>
    obtain ⟨before, after, split, -⟩ := List.lookup_eq_some_iff.mp found
    have mem : (a.text, wider) ∈ widerNumbers := by
      rw [split]
      exact List.mem_append_right _ List.mem_cons_self
    exact ⟨(plain _ mem).1, (plain _ mem).2 _ (List.contains_iff_mem.mp h)⟩
  · cases h

theorem exists_variants_of_enum? {k : Builtin} (h : enum? types a b = some k) :
    ∃ variants, k = .enumByName variants := by
  unfold enum? at h
  simp only [Option.bind_eq_bind, Option.bind_eq_some_iff] at h
  obtain ⟨needed, -, offered, -, chosen⟩ := h
  split at chosen
  · exact ⟨needed, (Option.some.inj chosen).symm⟩
  · cases chosen

/-- What boxes has a box for its target, and what unboxes has one for its source. -/
theorem boxed?_of_find? {k : Builtin} (found : find? types a b = some k) :
    (k = .boxing → b.boxed? = some a) ∧ (k = .unboxing → a.boxed? = some b) := by
  unfold find? at found
  split_ifs at found with same wider boxed unboxed
  · obtain rfl := Option.some.inj found
    exact ⟨nofun, nofun⟩
  · obtain rfl := Option.some.inj found
    exact ⟨nofun, nofun⟩
  · obtain rfl := Option.some.inj found
    exact ⟨fun _ => boxed, nofun⟩
  · obtain rfl := Option.some.inj found
    exact ⟨nofun, fun _ => unboxed⟩
  · obtain ⟨variants, rfl⟩ := exists_variants_of_enum? found
    exact ⟨nofun, nofun⟩

/-- Numbers of which one is wider than the other are no boxes. -/
theorem not_widens_of_boxed? (boxed : b.boxed? = some a) : ¬ widens a b = true ∧ ¬ widens b a = true := by
  have unboxed (plain : '<' ∉ b.text.toList) : False := by
    rw [TypeName.boxed?_eq_none plain] at boxed
    cases boxed
  exact ⟨fun wider => unboxed (plain_of_widens wider).2, fun wider => unboxed (plain_of_widens wider).1⟩

/-- A type is boxed to those that are boxes of it. -/
theorem find?_eq_boxing_iff : find? types a b = some .boxing ↔ b.boxed? = some a := by
  refine ⟨fun found => (boxed?_of_find? found).1 rfl, fun boxed => ?_⟩
  rw [find?, if_neg (TypeName.ne_of_boxed? boxed), if_neg (not_widens_of_boxed? boxed).1, if_pos boxed]

/-- A type is unboxed to the one that it is a box of. -/
theorem find?_eq_unboxing_iff : find? types b a = some .unboxing ↔ b.boxed? = some a := by
  refine ⟨fun found => (boxed?_of_find? found).2 rfl, fun boxed => ?_⟩
  rw [find?, if_neg (TypeName.ne_of_boxed? boxed).symm, if_neg (not_widens_of_boxed? boxed).2,
    if_neg (TypeName.boxed?_ne_of_boxed? boxed), if_pos boxed]

end Builtin

namespace Resolution

variable {types : Registry} {rules : List ConversionRule} {a b declared target : TypeName} {hint : Option TypeName}
  {property : String} {k : Builtin} {σ ρ : Type}
  {nested : TypeName → TypeName → Generation σ (Option (NestedMapping ρ))} {s t : σ}

/-! ## Resolutions that end in a built-in conversion -/

/-- No rule converts the one type to the other. -/
structure Unruled (types : Registry) (rules : List ConversionRule) (source target : TypeName) : Prop where
  exact : exactRule? rules source target = none
  generic : genericRule? types rules source target = none

theorem Targets.unique {target' : TypeName} (h : Targets types declared hint target)
    (h' : Targets types declared hint target') : target = target' :=
  Except.ok.inj ((h.targetType_eq "").symm.trans (h'.targetType_eq ""))

/-- A resolution that ends in a built-in conversion has found it for the types. -/
theorem find?_of_resolve (targets : Targets types declared hint b)
    (ends : (resolve types (.registerAll .empty rules) nested property a declared hint).EndsIn s
      (.ok (some (.builtin k))) t) : Builtin.find? types a b = some k := by
  obtain ⟨result, asked, outcome⟩ :
      ∃ result asked, Outcome types rules (answers nested s) property a declared hint result asked :=
    targets.exists_outcome _ property
  obtain rfl : result = .ok (some (.builtin k)) := outcome.endsIn.1.symm.trans ends.1
  cases outcome with
  | builtin targets' _ _ found _ =>
    obtain rfl := targets'.unique targets
    exact found

/-- Where no rule applies, a resolution ends in the built-in conversion that is found, and asks nothing. -/
theorem Unruled.resolve_endsIn (unruled : Unruled types rules a b) (targets : Targets types declared hint b)
    (found : Builtin.find? types a b = some k) (other : k ≠ .identity) :
    (resolve types (.registerAll .empty rules) nested property a declared hint).EndsIn s
      (.ok (some (.builtin k))) s :=
  (Outcome.builtin targets unruled.exact unruled.generic found other).endsIn

end Resolution

namespace Builtin

open Resolution (Targets Unruled resolve)

/-! ## There and back -/

/-- **One type is boxed to another exactly if the other is unboxed to the one.** So a mapping that boxes a value,
under whatever rules and for a hint or not, has a reverse that unboxes it: between the types the other way round a
resolution ends in unboxing and asks for no nested mapping, under whatever rules of which none converts the one
type to the other. -/
theorem boxing_is_undone (types : Registry) (a b : TypeName) :
    (find? types a b = some .boxing ↔ find? types b a = some .unboxing) ∧
    ∀ (σ ρ : Type) (nested : TypeName → TypeName → Generation σ (Option (NestedMapping ρ))) (s t : σ)
      (rules : List ConversionRule) (property : String) (declared : TypeName) (hint : Option TypeName),
      Targets types declared hint b →
      (resolve types (.registerAll .empty rules) nested property a declared hint).EndsIn s
        (.ok (some (.builtin .boxing))) t →
      ∀ (rules' : List ConversionRule) (property' : String) (s' : σ), Unruled types rules' b a →
        (resolve types (.registerAll .empty rules') nested property' b a none).EndsIn s'
          (.ok (some (.builtin .unboxing))) s' := by
  have converse : find? types a b = some .boxing ↔ find? types b a = some .unboxing := by
    rw [find?_eq_boxing_iff, find?_eq_unboxing_iff]
  refine ⟨converse, ?_⟩
  intro σ ρ nested s t rules property declared hint targets boxes rules' property' s' unruled
  have unboxed : find? types b a = some .unboxing := converse.mp (Resolution.find?_of_resolve targets boxes)
  exact unruled.resolve_endsIn .declared unboxed (by simp)

/-! ### A box in a box -/

/-- A number in a box. -/
def boxedNumber : TypeName := ⟨"Box<i64>"⟩

/-- The box in another box. -/
def boxedTwice : TypeName := ⟨"std::boxed::Box< Box<i64> >"⟩

/-- The outer box counts as a holder. -/
def holders : Registry := .ofList [⟨boxedTwice, .value, [⟨"Holder"⟩], []⟩]

/-- A rule for other types. -/
def boxedNumberToText : ConversionRule := { source := boxedNumber, target := ⟨"String"⟩, converter := "to_text" }

/-- The inner box is put into the outer one, which is what a hint asks for, and is taken out again. -/
theorem boxing_is_undone_for_boxed_number :
    Targets holders ⟨"Holder"⟩ (some boxedTwice) boxedTwice ∧
    (resolve holders (.registerAll .empty [boxedNumberToText]) Resolution.noMapping "slot" boxedNumber ⟨"Holder"⟩
      (some boxedTwice)).EndsIn () (.ok (some (.builtin .boxing))) () ∧
    Unruled holders [boxedNumberToText] boxedTwice boxedNumber ∧
    (resolve holders (.registerAll .empty [boxedNumberToText]) Resolution.noMapping "slot" boxedTwice boxedNumber
      none).EndsIn () (.ok (some (.builtin .unboxing))) () := by
  have targets : Targets holders ⟨"Holder"⟩ (some boxedTwice) boxedTwice := .hint (by decide +kernel)
  have found : find? holders boxedNumber boxedTwice = some .boxing := find?_eq_boxing_iff.mpr (by decide +kernel)
  have there : Unruled holders [boxedNumberToText] boxedNumber boxedTwice :=
    ⟨by decide +kernel, by decide +kernel⟩
  have back : Unruled holders [boxedNumberToText] boxedTwice boxedNumber := ⟨by decide +kernel, by decide +kernel⟩
  have boxes : (resolve holders (.registerAll .empty [boxedNumberToText]) Resolution.noMapping "slot" boxedNumber
      ⟨"Holder"⟩ (some boxedTwice)).EndsIn () (.ok (some (.builtin .boxing))) () :=
    there.resolve_endsIn targets found (by simp)
  exact ⟨targets, boxes, back,
    (boxing_is_undone holders boxedNumber boxedTwice).2 _ _ _ _ _ _ _ _ _ targets boxes _ _ _ back⟩

end Builtin

end BeanMapping
