import BeanMapping.Proofs.Outcome
import BeanMapping.Resolution

/-!
# Which conversion is taken

`Resolution.Outcome` says for any list of rules, as they are registered one after the other, what the conversion
for a property is: a clause for each way to find one, with what has to be missing before it applies. It also says
which questions the supplier of nested mappings is asked.

Of the rules for one pair of types the first is kept (`firsts`), so a rule that comes again changes nothing, be it
generic where the first is not.

Results:
* `items_registerAll`, `ruleFor?_registerAll_empty`: a rule book holds the first rule for each pair of types;
* `Outcome.endsIn`, `exists_outcome`: a resolution comes to what an outcome says, and there is one;
* **`resolve_prioritizes`**: a resolution comes to the one outcome that there is, asks what it says, and takes no
  notice of rules that come again;
* `supplier_refuses_hint`: a hint may be refused where none is given, since a supplier's failure is passed on as it is.
-/

namespace BeanMapping

/-! ## Rules that are registered in turn -/

namespace RuleBook

/-- The rules of a list that are the first for their types. -/
def firsts : List ConversionRule → List ConversionRule
  | [] => []
  | r :: rest => r :: (firsts rest).filter fun later => later.types != r.types

variable {before after rules : List ConversionRule} {r : ConversionRule}

/-- Rules are added as far as they are the first for types that the book has no rule for. -/
theorem items_registerAll (b : RuleBook) (rules : List ConversionRule) :
    (b.registerAll rules).items =
      b.items ++ (firsts rules).filter fun r => (b.ruleFor? r.source r.target).isNone := by
  induction rules generalizing b with
  | nil => exact (List.append_nil b.items).symm
  | cons r rest ih =>
    have unfolded : b.registerAll (r :: rest) = (b.register r).registerAll rest := rfl
    rw [unfolded, ih, firsts, List.filter_cons]
    cases found : b.ruleFor? r.source r.target with
    | some old =>
      have same : b.register r = b := Keyed.insertIfAbsent_of_some found
      rw [same, List.filter_filter]
      refine congrArg (b.items ++ ·) (List.filter_congr fun x _ => ?_)
      by_cases again : x.types = r.types
      · obtain ⟨source_eq, target_eq⟩ := Prod.mk.inj again
        rw [source_eq, target_eq, found]
        rfl
      · rw [bne_iff_ne.mpr again, Bool.and_true]
    | none =>
      have added : (b.register r).items = b.items ++ [r] := Keyed.items_insertIfAbsent_of_none found
      rw [added, List.append_assoc, List.filter_filter]
      refine congrArg (b.items ++ r :: ·) (List.filter_congr fun x _ => ?_)
      rw [ruleFor?_register]
      by_cases again : x.types = r.types
      · have same : r.types = (x.source, x.target) := again.symm
        rw [if_pos same, again, bne_self_eq_false, Bool.and_false]
        cases b.ruleFor? x.source x.target <;> rfl
      · have other : ¬ r.types = (x.source, x.target) := fun same => again same.symm
        rw [if_neg other, Option.or_none, bne_iff_ne.mpr again, Bool.and_true]

theorem items_registerAll_empty (rules : List ConversionRule) :
    (registerAll .empty rules).items = firsts rules := by
  rw [items_registerAll]
  exact List.filter_eq_self.mpr fun _ _ => rfl

theorem ruleFor?_registerAll_empty (rules : List ConversionRule) (source target : TypeName) :
    (registerAll .empty rules).ruleFor? source target =
      rules.find? fun r => r.source == source && r.target == target := by
  refine (Keyed.find?_ofFirsts rules (source, target)).trans (congrArg rules.find? (funext fun r => ?_))
  show decide (r.types = (source, target)) = (decide (r.source = source) && decide (r.target = target))
  rw [← Bool.decide_and]
  exact decide_eq_decide.mpr Prod.ext_iff

/-- A rule for types that have one changes nothing. -/
theorem registerAll_of_mem (h : r.types ∈ before.map ConversionRule.types) :
    registerAll .empty (before ++ r :: after) = registerAll .empty (before ++ after) := by
  have split : ∀ rest, registerAll .empty (before ++ rest) = (registerAll .empty before).registerAll rest :=
    fun rest => List.foldl_append
  obtain ⟨old, mem, same⟩ := List.mem_map.mp h
  obtain ⟨kept, found⟩ : ∃ kept, (registerAll .empty before).find? r.types = some kept := by
    rw [← Option.isSome_iff_exists]
    refine (congrArg Option.isSome (ruleFor?_registerAll_empty before r.source r.target)).trans ?_
    obtain ⟨source_eq, target_eq⟩ := Prod.mk.inj same
    have test := Bool.and_eq_true_iff.mpr ⟨beq_iff_eq.mpr source_eq, beq_iff_eq.mpr target_eq⟩
    exact List.find?_isSome.mpr ⟨old, mem, test⟩
  have again : (registerAll .empty before).register r = registerAll .empty before :=
    Keyed.insertIfAbsent_of_some found
  have unfolded : (registerAll .empty before).registerAll (r :: after) =
      ((registerAll .empty before).register r).registerAll after := rfl
  rw [split, split, unfolded, again]

end RuleBook

namespace Resolution

/-! ## Outcomes -/

/-- The first rule of a list that is for exactly the two types. -/
def exactRule? (rules : List ConversionRule) (source target : TypeName) : Option ConversionRule :=
  rules.find? fun r => r.source == source && r.target == target

/-- The first rule that is generic and gives the target type, among those that are the first for their types. -/
def genericRule? (types : Registry) (rules : List ConversionRule) (source target : TypeName) :
    Option ConversionRule :=
  (RuleBook.firsts rules).find? fun r =>
    r.acceptsTargetType && r.source == source && types.isAssignable target r.target

/-- Where no hint is given the target is the declared type; a hint takes its place if it fits. -/
inductive Targets (types : Registry) (declared : TypeName) : Option TypeName → TypeName → Prop
  | declared : Targets types declared none declared
  | hint {h : TypeName} (fits : types.isAssignable h declared = true) : Targets types declared (some h) h

/-- Neither a rule nor a built-in conversion applies. -/
structure Unserved (types : Registry) (rules : List ConversionRule) (source target : TypeName) : Prop where
  exact : exactRule? rules source target = none
  generic : genericRule? types rules source target = none
  builtin : Builtin.find? types source target = none

variable {σ ρ : Type}

/-- What the conversion for a property is, or why there is none, and the questions for nested mappings that are
asked on the way; `answer` is the answer to each. -/
inductive Outcome (types : Registry) (rules : List ConversionRule)
    (answer : TypeName → TypeName → Except Report (Option (NestedMapping ρ))) (property : String)
    (source declared : TypeName) (hint : Option TypeName) :
    Except Report (Option (Conversion ρ)) → List (TypeName × TypeName) → Prop
  /-- A hint that does not fit. -/
  | unfit {h : TypeName} (given : hint = some h) (unfit : types.isAssignable h declared = false) :
    Outcome types rules answer property source declared hint
      (.error (.of (.hintNotAssignable property h declared))) []
  /-- A rule for exactly the two types, which is told the target if it is generic. -/
  | exact {target : TypeName} {r : ConversionRule} (targets : Targets types declared hint target)
    (exact : exactRule? rules source target = some r) :
    Outcome types rules answer property source declared hint
      (.ok (some (.converter r.converter (if r.acceptsTargetType then some target else none)
        r.declaredFailures))) []
  /-- A generic rule, which is told the target. -/
  | generic {target : TypeName} {r : ConversionRule} (targets : Targets types declared hint target)
    (exact : exactRule? rules source target = none) (generic : genericRule? types rules source target = some r) :
    Outcome types rules answer property source declared hint
      (.ok (some (.converter r.converter (some target) r.declaredFailures))) []
  /-- A value that can be used as it is. -/
  | identity {target : TypeName} (targets : Targets types declared hint target)
    (exact : exactRule? rules source target = none) (generic : genericRule? types rules source target = none)
    (builtin : Builtin.find? types source target = some .identity) :
    Outcome types rules answer property source declared hint (.ok none) []
  /-- Another built-in conversion. -/
  | builtin {target : TypeName} {b : Builtin} (targets : Targets types declared hint target)
    (exact : exactRule? rules source target = none) (generic : genericRule? types rules source target = none)
    (builtin : Builtin.find? types source target = some b) (other : b ≠ .identity) :
    Outcome types rules answer property source declared hint (.ok (some (.builtin b))) []
  /-- A nested mapping. -/
  | nested {target : TypeName} {m : NestedMapping ρ} (targets : Targets types declared hint target)
    (unserved : Unserved types rules source target) (answered : answer source target = .ok (some m)) :
    Outcome types rules answer property source declared hint (.ok (some (.nested m))) [(source, target)]
  /-- No conversion at all. -/
  | unmappable {target : TypeName} (targets : Targets types declared hint target)
    (unserved : Unserved types rules source target) (answered : answer source target = .ok none) :
    Outcome types rules answer property source declared hint
      (.error (.of (.unmappableType property source target))) [(source, target)]
  /-- A question that is rejected. -/
  | refused {target : TypeName} {e : Report} (targets : Targets types declared hint target)
    (unserved : Unserved types rules source target) (answered : answer source target = .error e) :
    Outcome types rules answer property source declared hint (.error e) [(source, target)]

/-- The answers of a supplier that is asked in a state. -/
def answers (nested : TypeName → TypeName → Generation σ (Option (NestedMapping ρ))) (s : σ)
    (source target : TypeName) : Except Report (Option (NestedMapping ρ)) :=
  ((nested source target).run s).result

/-- The state that questions to a supplier leave. -/
def after (nested : TypeName → TypeName → Generation σ (Option (NestedMapping ρ))) (s : σ)
    (asked : List (TypeName × TypeName)) : σ :=
  asked.foldl (fun s q => ((nested q.1 q.2).run s).state) s

/-- A supplier that takes down what it is asked. -/
def recording (nested : TypeName → TypeName → Generation σ (Option (NestedMapping ρ)))
    (source target : TypeName) : Generation (σ × List (TypeName × TypeName)) (Option (NestedMapping ρ)) := do
  Narrated.modify fun s => (s.1, s.2 ++ [(source, target)])
  Narrated.focus Prod.fst (fun t s => (t, s.2)) (nested source target)

variable {types : Registry} {rules : List ConversionRule} {property : String}
  {source declared target : TypeName} {hint : Option TypeName}
  {answer : TypeName → TypeName → Except Report (Option (NestedMapping ρ))}
  {nested : TypeName → TypeName → Generation σ (Option (NestedMapping ρ))} {s : σ}
  {result : Except Report (Option (Conversion ρ))} {asked : List (TypeName × TypeName)}

theorem Targets.targetType_eq (h : Targets types declared hint target) (property : String) :
    targetType types property declared hint = .ok target := by
  cases h with
  | declared => rfl
  | hint fits => exact if_pos fits

theorem acceptsTargetType_of_generic {r : ConversionRule} (h : genericRule? types rules source target = some r) :
    r.acceptsTargetType = true := by
  have test := List.find?_some h
  rw [Bool.and_eq_true, Bool.and_eq_true] at test
  exact test.1.1

/-- What the rules that are registered in turn decide. -/
theorem route_eq (types : Registry) (rules : List ConversionRule) (source target : TypeName) :
    route types (.registerAll .empty rules) source target =
      match exactRule? rules source target with
      | some r => .rule r
      | none =>
        match genericRule? types rules source target with
        | some r => .generic r
        | none =>
          match Builtin.find? types source target with
          | some b => .builtin b
          | none => .ask := by
  have generic_eq : (RuleBook.registerAll .empty rules).generic? types source target =
      genericRule? types rules source target := by
    unfold RuleBook.generic? genericRule?
    rw [RuleBook.items_registerAll_empty]
  unfold route
  rw [RuleBook.ruleFor?_registerAll_empty, generic_eq]
  rfl

theorem Unserved.route_eq (h : Unserved types rules source target) :
    route types (.registerAll .empty rules) source target = .ask := by
  rw [Resolution.route_eq, h.exact, h.generic, h.builtin]

/-- A resolution comes to what its decision does. -/
theorem endsIn_resolve {book : RuleBook} {t : σ} (targets : Targets types declared hint target)
    (ends : (follow nested property source target (route types book source target)).EndsIn s result t) :
    (resolve types book nested property source declared hint).EndsIn s result t := by
  unfold resolve
  rw [targets.targetType_eq]
  exact (Narrated.endsIn_pure target s).bind ((Narrated.endsIn_tell _ s).bind ends)

/-- **A resolution comes to what an outcome says.** -/
theorem Outcome.endsIn (h : Outcome types rules (answers nested s) property source declared hint result asked) :
    (resolve types (.registerAll .empty rules) nested property source declared hint).EndsIn s result
      (after nested s asked) := by
  cases h with
  | unfit given unfit =>
    subst given
    unfold resolve targetType
    dsimp only
    rw [unfit]
    exact (Narrated.endsIn_reject _ s).bind_error _
  | exact targets exact =>
    refine endsIn_resolve targets ?_
    rw [route_eq, exact]
    exact Narrated.endsIn_pure _ s
  | generic targets exact generic =>
    refine endsIn_resolve targets ?_
    rw [route_eq, exact, generic]
    dsimp only [follow, ruleConversion]
    rw [acceptsTargetType_of_generic generic]
    exact Narrated.endsIn_pure _ s
  | identity targets exact generic builtin =>
    refine endsIn_resolve targets ?_
    rw [route_eq, exact, generic, builtin]
    exact Narrated.endsIn_pure _ s
  | @builtin _ b targets exact generic builtin other =>
    refine endsIn_resolve targets ?_
    rw [route_eq, exact, generic, builtin]
    cases b with
    | identity => exact absurd rfl other
    | _ => exact Narrated.endsIn_pure _ s
  | nested targets unserved answered =>
    refine endsIn_resolve targets ?_
    rw [unserved.route_eq]
    exact Narrated.EndsIn.bind ⟨answered, rfl⟩ ((Narrated.endsIn_tell _ _).bind (Narrated.endsIn_pure _ _))
  | unmappable targets unserved answered =>
    refine endsIn_resolve targets ?_
    rw [unserved.route_eq]
    exact Narrated.EndsIn.bind ⟨answered, rfl⟩ (Narrated.endsIn_reject _ _)
  | refused targets unserved answered =>
    refine endsIn_resolve targets ?_
    rw [unserved.route_eq]
    exact Narrated.EndsIn.bind_error ⟨answered, rfl⟩ _

/-- Whatever the target, something comes of it. -/
theorem Targets.exists_outcome (targets : Targets types declared hint target)
    (answer : TypeName → TypeName → Except Report (Option (NestedMapping ρ))) (property : String) :
    ∃ result asked, Outcome types rules answer property source declared hint result asked := by
  cases exact : exactRule? rules source target with
  | some r => exact ⟨_, _, .exact targets exact⟩
  | none =>
    cases generic : genericRule? types rules source target with
    | some r => exact ⟨_, _, .generic targets exact generic⟩
    | none =>
      cases builtin : Builtin.find? types source target with
      | some b =>
        by_cases same : b = .identity
        · exact ⟨_, _, .identity targets exact generic (same ▸ builtin)⟩
        · exact ⟨_, _, .builtin targets exact generic builtin same⟩
      | none =>
        have unserved : Unserved types rules source target := ⟨exact, generic, builtin⟩
        cases answered : answer source target with
        | error e => exact ⟨_, _, .refused targets unserved answered⟩
        | ok found =>
          cases found with
          | none => exact ⟨_, _, .unmappable targets unserved answered⟩
          | some m => exact ⟨_, _, .nested targets unserved answered⟩

/-- There is an outcome. -/
theorem exists_outcome (types : Registry) (rules : List ConversionRule)
    (answer : TypeName → TypeName → Except Report (Option (NestedMapping ρ))) (property : String)
    (source declared : TypeName) (hint : Option TypeName) :
    ∃ result asked, Outcome types rules answer property source declared hint result asked := by
  cases hint with
  | none => exact Targets.declared.exists_outcome answer property
  | some h =>
    cases fits : types.isAssignable h declared with
    | true => exact (Targets.hint fits).exists_outcome answer property
    | false => exact ⟨_, _, .unfit rfl fits⟩

/-! ## Questions -/

theorem recording_endsIn (log : List (TypeName × TypeName)) (source target : TypeName) :
    (recording nested source target).EndsIn (s, log) (answers nested s source target)
      (((nested source target).run s).state, log ++ [(source, target)]) :=
  (Narrated.endsIn_modify _ _).bind (Narrated.EndsIn.focus ⟨rfl, rfl⟩)

theorem answers_recording (log : List (TypeName × TypeName)) :
    answers (recording nested) (s, log) = answers nested s := by
  funext source target
  exact (recording_endsIn log source target).1

theorem after_recording (s : σ) (log asked : List (TypeName × TypeName)) :
    after (recording nested) (s, log) asked = (after nested s asked, log ++ asked) := by
  induction asked generalizing s log with
  | nil => rw [List.append_nil]; rfl
  | cons q asked ih =>
    have step : ((recording nested q.1 q.2).run (s, log)).state = (((nested q.1 q.2).run s).state, log ++ [q]) :=
      (recording_endsIn log q.1 q.2).2
    have unfolded : after (recording nested) (s, log) (q :: asked) =
        after (recording nested) ((recording nested q.1 q.2).run (s, log)).state asked := rfl
    rw [unfolded, step, ih, List.append_assoc]
    rfl

/-- Over a supplier that takes them down, the questions are those of the outcome. -/
theorem Outcome.endsIn_recording
    (h : Outcome types rules (answers nested s) property source declared hint result asked) :
    (resolve types (.registerAll .empty rules) (recording nested) property source declared hint).EndsIn (s, [])
      result (after nested s asked, asked) := by
  rw [← answers_recording []] at h
  have ends := h.endsIn
  rwa [after_recording, List.nil_append] at ends

/-- There is one outcome only. -/
theorem Outcome.unique {result' : Except Report (Option (Conversion ρ))} {asked' : List (TypeName × TypeName)}
    (h : Outcome types rules (answers nested s) property source declared hint result asked)
    (h' : Outcome types rules (answers nested s) property source declared hint result' asked') :
    result' = result ∧ asked' = asked := by
  obtain ⟨result_eq, state_eq⟩ := h.endsIn_recording
  obtain ⟨result_eq', state_eq'⟩ := h'.endsIn_recording
  exact ⟨result_eq'.symm.trans result_eq, (Prod.mk.inj (state_eq'.symm.trans state_eq)).2⟩

/-- One question is asked at most, and only where no rule and no built-in conversion applies. -/
theorem Outcome.asked_eq (h : Outcome types rules answer property source declared hint result asked) :
    asked = [] ∨ ∃ target, Targets types declared hint target ∧ Unserved types rules source target ∧
      asked = [(source, target)] := by
  cases h with
  | nested targets unserved => exact Or.inr ⟨_, targets, unserved, rfl⟩
  | unmappable targets unserved => exact Or.inr ⟨_, targets, unserved, rfl⟩
  | refused targets unserved => exact Or.inr ⟨_, targets, unserved, rfl⟩
  | _ => exact Or.inl rfl

/-- A rejection because of a hint. -/
def RefusesHint {α : Type} (result : Except Report α) : Prop :=
  ∃ report text, result = .error report ∧ report.fault = .invalidTypeHint text

theorem not_refusesHint_ok {α : Type} (a : α) : ¬ RefusesHint (.ok a : Except Report α) := by
  rintro ⟨_, _, ⟨⟩, _⟩

theorem refusesHint_error_iff {α : Type} {e : Report} :
    RefusesHint (.error e : Except Report α) ↔ ∃ text, e.fault = .invalidTypeHint text := by
  constructor
  · rintro ⟨_, text, ⟨⟩, same⟩
    exact ⟨text, same⟩
  · rintro ⟨text, same⟩
    exact ⟨e, text, rfl, same⟩

theorem Targets.not_unfit (h : Targets types declared hint target) :
    ¬ ∃ h, hint = some h ∧ types.isAssignable h declared = false := by
  rintro ⟨_, given, unfit⟩
  cases h with
  | declared => cases given
  | hint fits =>
    obtain rfl := Option.some.inj given
    exact absurd (unfit.symm.trans fits) Bool.false_ne_true

/-- A hint is refused if it does not fit, or where the answer to a question is that one is refused. -/
theorem Outcome.refusesHint_iff (h : Outcome types rules answer property source declared hint result asked) :
    RefusesHint result ↔ (∃ h, hint = some h ∧ types.isAssignable h declared = false) ∨
      ∃ q ∈ asked, RefusesHint (answer q.1 q.2) := by
  have nothing : ¬ ∃ q ∈ ([] : List (TypeName × TypeName)), RefusesHint (answer q.1 q.2) := by
    rintro ⟨_, mem, -⟩
    exact List.not_mem_nil mem
  cases h with
  | unfit given unfit => exact iff_of_true ⟨_, _, rfl, rfl⟩ (Or.inl ⟨_, given, unfit⟩)
  | exact targets | generic targets | identity targets | builtin targets =>
    exact iff_of_false (not_refusesHint_ok _) (not_or.mpr ⟨targets.not_unfit, nothing⟩)
  | nested targets unserved answered =>
    simp only [targets.not_unfit, false_or, List.mem_singleton, exists_eq_left, answered, not_refusesHint_ok]
  | unmappable targets unserved answered =>
    simp only [targets.not_unfit, false_or, List.mem_singleton, exists_eq_left, answered, not_refusesHint_ok,
      refusesHint_error_iff, Report.of, reduceCtorEq, exists_false]
  | refused targets unserved answered =>
    simp only [targets.not_unfit, false_or, List.mem_singleton, exists_eq_left, answered, refusesHint_error_iff]

/-- **A resolution takes the first conversion that applies.** Whatever rules are registered in turn, whatever the
hint and the supplier of nested mappings, it comes to the one outcome that there is, and leaves the state that the
questions of the outcome leave: none, or one where neither a rule nor a built-in conversion applies. It refuses a
hint where that does not fit, or where the supplier does so when it is asked. A rule for types that have one
already changes nothing, wherever it comes. -/
theorem resolve_prioritizes (types : Registry) (rules : List ConversionRule)
    (nested : TypeName → TypeName → Generation σ (Option (NestedMapping ρ))) (property : String)
    (source declared : TypeName) (hint : Option TypeName) (s : σ) :
    (∃ result asked,
      (∀ result' asked', Outcome types rules (answers nested s) property source declared hint result' asked' ↔
        result' = result ∧ asked' = asked) ∧
      (resolve types (.registerAll .empty rules) nested property source declared hint).EndsIn s result
        (after nested s asked) ∧
      (resolve types (.registerAll .empty rules) (recording nested) property source declared hint).EndsIn (s, [])
        result (after nested s asked, asked) ∧
      (asked = [] ∨ ∃ target, Targets types declared hint target ∧ Unserved types rules source target ∧
        asked = [(source, target)]) ∧
      (RefusesHint result ↔ (∃ h, hint = some h ∧ types.isAssignable h declared = false) ∨
        ∃ q ∈ asked, RefusesHint (answers nested s q.1 q.2))) ∧
    ∀ before r later, rules = before ++ later → r.types ∈ before.map ConversionRule.types →
      resolve types (.registerAll .empty (before ++ r :: later)) nested property source declared hint =
        resolve types (.registerAll .empty rules) nested property source declared hint := by
  obtain ⟨result, asked, outcome⟩ :=
    exists_outcome types rules (answers nested s) property source declared hint
  refine ⟨⟨result, asked, fun result' asked' => ⟨fun other => outcome.unique other, ?_⟩, outcome.endsIn,
    outcome.endsIn_recording, outcome.asked_eq, outcome.refusesHint_iff⟩, fun before r later split mem => ?_⟩
  · rintro ⟨rfl, rfl⟩
    exact outcome
  · rw [split, RuleBook.registerAll_of_mem mem]

/-! ### Outdoor pets -/

/-- A pet that lives outdoors is a pet. -/
def pets : Registry :=
  .ofList [{ name := ⟨"Pet"⟩, kind := .bean },
    { name := ⟨"OutdoorPet"⟩, kind := .bean, supertypes := [⟨"Pet"⟩] }]

/-- A converter that gives any pet. -/
def toPet : ConversionRule :=
  { source := ⟨"String"⟩, target := ⟨"Pet"⟩, converter := "to_pet", acceptsTargetType := true }

/-- Another converter for the same types. -/
def toSomePet : ConversionRule := { source := ⟨"String"⟩, target := ⟨"Pet"⟩, converter := "to_some_pet" }

/-- A supplier that has no nested mapping. -/
def noMapping (_ _ : TypeName) : Generation Unit (Option (NestedMapping MappingPlan)) := pure none

/-- The generic converter is told the hint, and the other one is not seen. -/
theorem resolve_prioritizes_for_pets :
    (resolve pets (.registerAll .empty [toPet]) noMapping "pet" ⟨"String"⟩ ⟨"Pet"⟩ (some ⟨"OutdoorPet"⟩)).EndsIn ()
      (.ok (some (.converter "to_pet" (some ⟨"OutdoorPet"⟩) []))) () ∧
    toSomePet.types ∈ [toPet].map ConversionRule.types ∧
    resolve pets (.registerAll .empty [toPet, toSomePet]) noMapping "pet" ⟨"String"⟩ ⟨"Pet"⟩
        (some ⟨"OutdoorPet"⟩) =
      resolve pets (.registerAll .empty [toPet]) noMapping "pet" ⟨"String"⟩ ⟨"Pet"⟩ (some ⟨"OutdoorPet"⟩) := by
  obtain ⟨⟨result, asked, only, ends, -⟩, later⟩ :=
    resolve_prioritizes pets [toPet] noMapping "pet" ⟨"String"⟩ ⟨"Pet"⟩ (some ⟨"OutdoorPet"⟩) ()
  have fits : pets.isAssignable ⟨"OutdoorPet"⟩ ⟨"Pet"⟩ = true := by decide +kernel
  have generic : genericRule? pets [toPet] ⟨"String"⟩ ⟨"OutdoorPet"⟩ = some toPet := by decide +kernel
  obtain ⟨rfl, rfl⟩ := (only _ _).mp (.generic (.hint fits) (by decide +kernel) generic)
  have again : toSomePet.types ∈ [toPet].map ConversionRule.types := List.mem_singleton.mpr rfl
  exact ⟨ends, again, later [toPet] toSomePet [] rfl again⟩

/-- A supplier that fails with one cause, whatever it is asked. -/
def failing (fault : Fault) (_ _ : TypeName) : Generation Unit (Option (NestedMapping MappingPlan)) :=
  Narrated.reject (.of fault)

/-- Whatever the cause, the failure of a supplier is passed on. -/
theorem Unserved.endsIn_failing (h : Unserved types rules source target)
    (targets : Targets types declared hint target) (property : String) (fault : Fault) :
    (resolve types (.registerAll .empty rules) (failing fault) property source declared hint).EndsIn ()
      (.error (.of fault)) () := by
  have answered : answers (failing fault) () source target = .error (.of fault) := rfl
  exact (Outcome.refused targets h answered).endsIn

/-- No hint is given, and yet one is refused, because the supplier refuses one. Where the supplier fails for want of
a description, that is passed on as well: it does not make the types unmappable. -/
theorem supplier_refuses_hint :
    (∃ result,
      (resolve pets (.registerAll .empty []) (failing (.hintNotAssignable "home" ⟨"Pet"⟩ ⟨"OutdoorPet"⟩)) "pet"
        ⟨"String"⟩ ⟨"Pet"⟩ none).EndsIn () result () ∧
      ¬ (RefusesHint result ↔
        ∃ h, (none : Option TypeName) = some h ∧ pets.isAssignable h ⟨"Pet"⟩ = false)) ∧
    ∃ result,
      (resolve pets (.registerAll .empty []) (failing (.unknownType ⟨"String"⟩)) "pet" ⟨"String"⟩ ⟨"Pet"⟩
        none).EndsIn () result () ∧
      result ≠ .error (.of (.unmappableType "pet" ⟨"String"⟩ ⟨"Pet"⟩)) := by
  have unserved : Unserved pets [] ⟨"String"⟩ ⟨"Pet"⟩ := ⟨rfl, rfl, by decide +kernel⟩
  have notGiven : ¬ ∃ h, (none : Option TypeName) = some h ∧ pets.isAssignable h ⟨"Pet"⟩ = false :=
    Targets.declared.not_unfit
  refine ⟨⟨_, unserved.endsIn_failing .declared _ _, fun same => notGiven (same.mp ?_)⟩,
    _, unserved.endsIn_failing .declared _ _, fun same => ?_⟩
  · exact refusesHint_error_iff.mpr ⟨_, rfl⟩
  · cases same

end Resolution

end BeanMapping
