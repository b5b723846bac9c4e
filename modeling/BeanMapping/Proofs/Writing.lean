import BeanMapping.Proofs.FreshRuns

/-!
# What a property writes

The value that a property writes, apart from the target that it writes to. A value is converted to a
result that depends on nothing but the mapping and the value (`converted`), nested methods included: these
run into a target of their own. What is written is the result of the one conversion, or the array of the
results of all elements (`written`).

A property that appends writes one result after the other, up to the first conversion that fails
(`convertedUntil`). Where the source has no value for a property (`HasValue`), nothing is written.

Results:
* **`apply_replaces`**: a property that does not append writes its value, or leaves the target as it was;
* **`apply_appends`**: a property that appends leaves the results before the first failure;
* **`sameBut_apply`**: neither touches a member of another name, however it ends.
-/

namespace BeanMapping

/-! ## Members -/

namespace Json

variable {name : String} {v w : Json} {fields : List (String × Json)}

theorem set_set (name : String) (v w : Json) (fields : List (String × Json)) :
    set name w (set name v fields) = set name w fields := by
  induction fields with
  | nil => simp [set]
  | cons f rest ih =>
    obtain ⟨n, u⟩ := f
    by_cases same : n = name
    · simp [set, same]
    · simp [set, same, ih]

/-- To set a member to the value that it has changes nothing. -/
theorem set_eq_self (h : find? fields name = some v) : set name v fields = fields := by
  induction fields with
  | nil => cases h
  | cons f rest ih =>
    obtain ⟨n, u⟩ := f
    rw [find?_cons] at h
    by_cases same : n = name
    · rw [if_pos same, Option.some.injEq] at h
      subst h
      simp [set, same]
    · rw [if_neg same] at h
      simp [set, same, ih h]

end Json

namespace PropertyAction

/-- Whether the action appends to the collection of the target. -/
def appends : PropertyAction → Bool
  | .mergeAdd _ => true
  | .assign | .convertAssign | .replaceSet => false

theorem isElementWise_of_appends {action : PropertyAction} (h : action.appends = true) :
    action.isElementWise = true := by
  cases action with
  | mergeAdd => rfl
  | assign | convertAssign | replaceSet => cases h

end PropertyAction

namespace CompiledMapping

open Narrated

variable {c : CompiledMapping} {depth : Nat} {σ : Type} {plan : MappingPlan}
  {x : PlannedProperty MappingPlan} {conversion : Option (Conversion MappingPlan)} {s : Members}
  {xs items : List Json} {v : Json}

/-! ## Conversions -/

/-- What a method gives for a source: the target that it leaves of a new one, or the error that it ends
in. -/
def mapped (c : CompiledMapping) (method : String) (source : Json) : Except ExecutionError Json :=
  let n := (c.run method source).run (.obj [])
  n.result.map fun _ => n.state

/-- What a value is converted to. -/
def converted (c : CompiledMapping) (conversion : Option (Conversion MappingPlan)) (v : Json) :
    Except ExecutionError Json :=
  match conversion with
  | none | some (.builtin _) => .ok v
  | some (.converter path target _) =>
    match c.converters.find? path with
    | none => .error (.missingConverter path)
    | some convert => (convert v target).mapError .raised
  | some (.nested n) => c.mapped n.method v

/-- The results of the elements before the first that cannot be converted, and how it ends. -/
def convertedUntil (c : CompiledMapping) (conversion : Option (Conversion MappingPlan)) :
    List Json → List Json × Except ExecutionError Unit
  | [] => ([], .ok ())
  | v :: rest =>
    match c.converted conversion v with
    | .error e => ([], .error e)
    | .ok w => (w :: (c.convertedUntil conversion rest).1, (c.convertedUntil conversion rest).2)

/-- The elements of a source collection. -/
def elementsOf (property : String) : Json → Except ExecutionError (List Json)
  | .arr items => .ok items
  | _ => .error (.notACollection property)

theorem eq_arr_of_elementsOf {property : String} (h : elementsOf property v = .ok items) :
    v = .arr items := by
  cases v with
  | arr => exact congrArg Json.arr (Except.ok.inj h)
  | _ => cases h

/-- The results of all elements of a list. -/
def convertedAll (c : CompiledMapping) (conversion : Option (Conversion MappingPlan))
    (items : List Json) : Except ExecutionError (List Json) :=
  items.mapM (c.converted conversion)

/-- All elements have results where there is no failure. -/
theorem convertedAll_eq (c : CompiledMapping) (conversion : Option (Conversion MappingPlan)) :
    ∀ items : List Json, c.convertedAll conversion items =
      (c.convertedUntil conversion items).2.map fun _ => (c.convertedUntil conversion items).1
  | [] => rfl
  | v :: rest => by
    have others := convertedAll_eq c conversion rest
    unfold convertedAll at others ⊢
    unfold convertedUntil
    rw [List.mapM_cons, others]
    cases c.converted conversion v with
    | error e => rfl
    | ok w =>
      cases h : (c.convertedUntil conversion rest).2 with
      | error e => simp [Except.map]; rfl
      | ok _ => simp [Except.map]; rfl

/-- The value that a property writes. -/
def written (c : CompiledMapping) (x : PlannedProperty MappingPlan) (v : Json) :
    Except ExecutionError Json :=
  if x.action.isElementWise then
    (elementsOf x.source.name v).bind fun items => (c.convertedAll x.conversion items).map .arr
  else c.converted x.conversion v

theorem written_of_whole (h : x.action.isElementWise = false) (v : Json) :
    c.written x v = c.converted x.conversion v := by
  unfold written
  simp [h]

theorem written_of_elements (h : x.action.isElementWise = true)
    (found : elementsOf x.source.name v = .ok items) :
    c.written x v = (c.convertedAll x.conversion items).map .arr := by
  unfold written
  simp [h, found, Except.bind]

theorem written_of_no_elements (h : x.action.isElementWise = true) {e : ExecutionError}
    (found : elementsOf x.source.name v = .error e) : c.written x v = .error e := by
  unfold written
  simp [h, found, Except.bind]

/-- The methods of a mapping, to run nested ones by. -/
def below (c : CompiledMapping) (depth : Nat) : RunsBelow depth := fun method value _ =>
  c.run method value

/-- **A value is converted to its result**, and the state stays. -/
theorem convert_endsIn (c : CompiledMapping) (conversion : Option (Conversion MappingPlan)) (v : Json)
    (h : v.depth < depth) (s : σ) :
    (c.convert (c.below depth) conversion v h : Running σ Json).EndsIn s
      (c.converted conversion v) s := by
  unfold convert converted
  rcases conversion with _ | (b | ⟨path, target, failures⟩ | n)
  · exact endsIn_pure v s
  · exact endsIn_pure v s
  · dsimp only
    unfold callConverter
    cases c.converters.find? path with
    | none => exact endsIn_reject _ s
    | some convert =>
      dsimp only
      cases convert v target with
      | ok w => exact endsIn_pure w s
      | error failure => exact endsIn_reject _ s
  · exact ⟨rfl, rfl⟩

/-- The results before the first failure are those of the first elements, and of all elements where there
is no failure. -/
theorem convertedUntil_prefix (c : CompiledMapping) (conversion : Option (Conversion MappingPlan)) :
    ∀ items : List Json, (c.convertedUntil conversion items).1.map .ok <+:
        items.map (c.converted conversion) ∧
      ((c.convertedUntil conversion items).2 = .ok () →
        (c.convertedUntil conversion items).1.map .ok = items.map (c.converted conversion))
  | [] => ⟨List.prefix_rfl, fun _ => rfl⟩
  | v :: rest => by
    obtain ⟨isPrefix, all⟩ := convertedUntil_prefix c conversion rest
    unfold convertedUntil
    cases h : c.converted conversion v with
    | error e => exact ⟨List.nil_prefix, fun done => by cases done⟩
    | ok w =>
      simp only [List.map_cons, h]
      exact ⟨(List.prefix_cons_inj _).mpr isPrefix, fun done => by rw [all done]⟩

/-- The elements are converted in turn. -/
theorem convertAll_endsIn (c : CompiledMapping) (conversion : Option (Conversion MappingPlan)) :
    ∀ (items : List Json) (h : ∀ v ∈ items, v.depth < depth) (s : σ),
      (c.convertAll (c.below depth) conversion items h : Running σ (List Json)).EndsIn s
        (c.convertedAll conversion items) s
  | [], _, s => endsIn_pure [] s
  | v :: rest, h, s => by
    have first := c.convert_endsIn conversion v (h v List.mem_cons_self) s
    have others := convertAll_endsIn c conversion rest (fun w hw => h w (List.mem_cons_of_mem v hw)) s
    unfold convertAll
    rw [convertedAll_eq] at others ⊢
    unfold convertedUntil
    cases hv : c.converted conversion v with
    | error e =>
      rw [hv] at first
      exact first.bind_error _
    | ok w =>
      rw [hv] at first
      cases hrest : (c.convertedUntil conversion rest).2 with
      | error e =>
        rw [hrest] at others
        exact first.bind (others.bind_error _)
      | ok _ =>
        rw [hrest] at others
        exact first.bind (others.bind (endsIn_pure _ s))

/-! ## Collections -/

/-- The elements are the items of an array, or there are none. -/
theorem elements_endsIn (property : String) (v : Json) (h : v.depth < depth) (s : σ) :
    (∃ items hs, elementsOf property v = .ok items ∧
      (elements property v h : Running σ _).EndsIn s (.ok ⟨items, hs⟩) s) ∨
    ∃ e, elementsOf property v = .error e ∧ (elements property v h : Running σ _).EndsIn s (.error e) s := by
  cases v with
  | arr items => exact Or.inl ⟨items, _, rfl, endsIn_pure _ s⟩
  | _ => exact Or.inr ⟨_, rfl, endsIn_reject _ s⟩

/-- **Elements are appended up to the first that cannot be converted**, to the array that is there. -/
theorem appendAll_endsIn (c : CompiledMapping) (x : PlannedProperty MappingPlan) (signal : List Step) :
    ∀ (items : List Json) (h : ∀ v ∈ items, v.depth < depth) (s : Members) (xs : List Json),
      Json.find? s x.target.name = some (.arr xs) →
        (c.appendAll (c.below depth) x signal items h).EndsIn s (c.convertedUntil x.conversion items).2
          (Json.set x.target.name (.arr (xs ++ (c.convertedUntil x.conversion items).1)) s)
  | [], _, s, xs, held => by
    have same : Json.set x.target.name (.arr (xs ++ [])) s = s := by
      rw [List.append_nil]
      exact Json.set_eq_self held
    show (pure () : Running Members Unit).EndsIn s (.ok ()) _
    rw [show (c.convertedUntil x.conversion []).1 = [] from rfl, same]
    exact endsIn_pure () s
  | v :: rest, h, s, xs, held => by
    have first := c.convert_endsIn x.conversion v (h v List.mem_cons_self) s
    unfold appendAll convertedUntil
    cases hv : c.converted x.conversion v with
    | error e =>
      rw [hv] at first
      dsimp only
      rw [List.append_nil, Json.set_eq_self held]
      exact first.bind_error _
    | ok w =>
      rw [hv] at first
      have appended : (append x.target.name w).EndsIn s (.ok ())
          (Json.set x.target.name (.arr (xs ++ [w])) s) := by
        unfold append
        refine (endsIn_get s).bind ?_
        rw [held]
        exact endsIn_modify _ s
      have others := appendAll_endsIn c x signal rest (fun u hu => h u (List.mem_cons_of_mem v hu)) _ _
        (Json.find?_set_self x.target.name (.arr (xs ++ [w])) s)
      rw [Json.set_set, List.append_assoc, List.singleton_append] at others
      exact first.bind (appended.bind ((endsIn_tell signal _).bind others))

/-! ## Properties -/

/-- **A property that does not append writes its value, or leaves the target as it was.** -/
theorem apply_replaces (c : CompiledMapping) (plan : MappingPlan) (h : v.depth < depth)
    (replaces : x.action.appends = false) (s : Members) :
    (∃ w, c.written x v = .ok w ∧
      (c.apply (c.below depth) plan x v h).EndsIn s (.ok ()) (Json.set x.target.name w s)) ∨
    ∃ e, c.written x v = .error e ∧ (c.apply (c.below depth) plan x v h).EndsIn s (.error e) s := by
  unfold apply
  have first := c.convert_endsIn x.conversion v h s
  cases action : x.action with
  | assign | convertAssign =>
    rw [written_of_whole (by rw [action]; rfl)]
    cases hv : c.converted x.conversion v with
    | error e =>
      rw [hv] at first
      exact Or.inr ⟨e, rfl, first.bind_error _⟩
    | ok w =>
      rw [hv] at first
      exact Or.inl ⟨w, rfl, first.bind ((endsIn_modify _ s).bind (endsIn_tell _ _))⟩
  | replaceSet =>
    have elementWise : x.action.isElementWise = true := by rw [action]; rfl
    rcases elements_endsIn x.source.name v h s with ⟨items, hs, found, ends⟩ | ⟨e, found, ends⟩
    · have all := c.convertAll_endsIn x.conversion items hs s
      rw [written_of_elements elementWise found]
      cases hall : c.convertedAll x.conversion items with
      | error e =>
        rw [hall] at all
        exact Or.inr ⟨e, rfl, ends.bind (all.bind_error _)⟩
      | ok ws =>
        rw [hall] at all
        exact Or.inl ⟨.arr ws, rfl, ends.bind (all.bind ((endsIn_modify _ s).bind (endsIn_tell _ _)))⟩
    · rw [written_of_no_elements elementWise found]
      exact Or.inr ⟨e, rfl, ends.bind_error _⟩
  | mergeAdd via =>
    rw [action] at replaces
    cases replaces

/-- **A property that appends leaves the results before the first failure**, after what the collection of
the target held when it was opened. -/
theorem apply_appends (c : CompiledMapping) (plan : MappingPlan) (h : v.depth < depth)
    (appends : x.action.appends = true)
    (held : Json.find? (opened x.target.name s) x.target.name = some (.arr xs)) :
    (∃ items, elementsOf x.source.name v = .ok items ∧
      (c.apply (c.below depth) plan x v h).EndsIn s (c.convertedUntil x.conversion items).2
        (Json.set x.target.name (.arr (xs ++ (c.convertedUntil x.conversion items).1))
          (opened x.target.name s))) ∨
    ∃ e, elementsOf x.source.name v = .error e ∧
      (c.apply (c.below depth) plan x v h).EndsIn s (.error e) (opened x.target.name s) := by
  have begun := endsIn_modify (ε := ExecutionError) (ω := Step) (opened x.target.name) s
  unfold apply
  cases action : x.action with
  | assign | convertAssign | replaceSet =>
    rw [action] at appends
    cases appends
  | mergeAdd via =>
    rcases elements_endsIn x.source.name v h (opened x.target.name s) with
      ⟨items, hs, found, ends⟩ | ⟨e, found, ends⟩
    · refine Or.inl ⟨items, found, ?_⟩
      cases via with
      | adder => exact begun.bind (ends.bind (c.appendAll_endsIn x _ items hs _ xs held))
      | getter =>
        have all := c.appendAll_endsIn x [] items hs _ xs held
        cases hall : (c.convertedUntil x.conversion items).2 with
        | error e =>
          rw [hall] at all
          exact begun.bind (ends.bind (all.bind_error _))
        | ok _ =>
          rw [hall] at all
          exact begun.bind (ends.bind (all.bind (endsIn_tell _ _)))
    · refine Or.inr ⟨e, found, ?_⟩
      cases via with
      | adder => exact begun.bind (ends.bind_error _)
      | getter => exact begun.bind (ends.bind_error _)

/-! ## Other members -/

section Frame

variable {below : RunsBelow depth} {I : σ → Prop} {name : String} {s₀ : Members}

/-- No conversion touches the state. -/
theorem keeps_convert (h : v.depth < depth) :
    (c.convert below conversion v h : Running σ Json).Keeps I := by
  unfold convert
  split
  · exact keeps_pure _
  · exact keeps_pure _
  · unfold callConverter
    split
    · exact keeps_reject _
    · split
      · exact keeps_pure _
      · exact keeps_reject _
  · exact keeps_apart _ _

theorem keeps_convertAll : ∀ (items : List Json) (h : ∀ v ∈ items, v.depth < depth),
    (c.convertAll below conversion items h : Running σ (List Json)).Keeps I
  | [], _ => keeps_pure _
  | v :: rest, h => by
    unfold convertAll
    refine keeps_bind (keeps_convert _) fun w => ?_
    exact keeps_bind (keeps_convertAll rest _) fun ws => keeps_pure _

theorem keeps_elements (property : String) (h : v.depth < depth) :
    (elements property v h : Running σ _).Keeps I := by
  unfold elements
  split
  · exact keeps_pure _
  · exact keeps_reject _

theorem sameBut_modify_set (name : String) (w : Json) :
    (Narrated.modify (Json.set name w) : Running Members Unit).Keeps (SameBut name s₀) :=
  keeps_modify fun s same => same.trans (sameBut_set name w s)

theorem sameBut_opened (name : String) :
    (Narrated.modify (opened name) : Running Members Unit).Keeps (SameBut name s₀) := by
  refine keeps_modify fun s same => ?_
  unfold opened
  split
  · exact same.trans (sameBut_set name _ s)
  · exact same.trans (sameBut_set name _ s)
  · exact same

theorem sameBut_append (name : String) (w : Json) : (append name w).Keeps (SameBut name s₀) := by
  unfold append
  refine keeps_bind keeps_get fun s => ?_
  split
  · exact sameBut_modify_set name _
  · exact keeps_reject _

theorem sameBut_appendAll (signal : List Step) :
    ∀ (items : List Json) (h : ∀ v ∈ items, v.depth < depth),
      (c.appendAll below x signal items h).Keeps (SameBut x.target.name s₀)
  | [], _ => keeps_pure _
  | v :: rest, h => by
    unfold appendAll
    refine keeps_bind (keeps_convert _) fun w => ?_
    refine keeps_bind (sameBut_append _ w) fun _ => keeps_bind (keeps_tell _) fun _ => ?_
    exact sameBut_appendAll signal rest _

/-- **A property touches no member of another name**, however it ends. -/
theorem sameBut_apply (h : v.depth < depth) :
    (c.apply below plan x v h).Keeps (SameBut x.target.name s₀) := by
  unfold apply
  dsimp only
  split
  · exact keeps_bind (keeps_convert _) fun w =>
      keeps_bind (sameBut_modify_set _ w) fun _ => keeps_tell _
  · exact keeps_bind (keeps_convert _) fun w =>
      keeps_bind (sameBut_modify_set _ w) fun _ => keeps_tell _
  · refine keeps_bind (keeps_elements _ h) fun items => ?_
    exact keeps_bind (keeps_convertAll _ _) fun ws =>
      keeps_bind (sameBut_modify_set _ _) fun _ => keeps_tell _
  · refine keeps_bind (sameBut_opened _) fun _ => keeps_bind (keeps_elements _ h) fun items => ?_
    exact sameBut_appendAll _ _ _
  · refine keeps_bind (sameBut_opened _) fun _ => keeps_bind (keeps_elements _ h) fun items => ?_
    exact keeps_bind (sameBut_appendAll _ _ _) fun _ => keeps_tell _

end Frame

/-! ## Values that are there -/

/-- The source has a value for the property. -/
def HasValue (source : Members) (x : PlannedProperty MappingPlan) (v : Json) : Prop :=
  Json.find? source x.source.name = some v ∧ v ≠ .null

section Values

variable {source : Members}

theorem HasValue.unique {w : Json} (h : HasValue source x v) (h' : HasValue source x w) : v = w :=
  Option.some.inj (h.1.symm.trans h'.1)

theorem exists_hasValue_or (source : Members) (x : PlannedProperty MappingPlan) :
    (∃ v, HasValue source x v) ∨ ∀ v, ¬ HasValue source x v := by
  by_cases h : ∃ v, HasValue source x v
  · exact Or.inl h
  · exact Or.inr fun v hv => h ⟨v, hv⟩

variable {below : RunsBelow (Json.obj source).depth}

/-- A value that is there is written. -/
theorem HasValue.applyFrom_eq (h : HasValue source x v) :
    ∃ hd, c.applyFrom plan source below x = c.apply below plan x v hd := by
  obtain ⟨found, nonnull⟩ := h
  unfold applyFrom
  split
  · rename_i absent
    exact absurd (absent.symm.trans found) (by simp)
  · rename_i null
    exact absurd (Option.some.inj (found.symm.trans null)) nonnull
  · rename_i w _ held
    obtain rfl := Option.some.inj (found.symm.trans held)
    exact ⟨Json.depth_lt_of_find? held, rfl⟩

/-- Where there is no value, nothing is written. -/
theorem applyFrom_of_absent (h : ∀ v, ¬ HasValue source x v) :
    c.applyFrom plan source below x = Narrated.tell [.told (absentEvent plan x)] := by
  unfold applyFrom
  split
  · rfl
  · rfl
  · rename_i v nonnull found
    exact absurd ⟨found, nonnull⟩ (h v)

end Values

/-! ## Targets -/

/-- The members that a run finds in its target: `null` stands for an object without any. -/
def targetMembers? : Json → Option Members
  | .obj fields => some fields
  | .null => some []
  | _ => none

section Targets

variable {a : TypeName} {y : Running Members Unit} {r : Except ExecutionError Unit} {target : Json}
  {t : Members} {method : String} {q : MappingPlan}

theorem overTarget_endsIn (members : targetMembers? target = some s) (h : y.EndsIn s r t) :
    (overTarget a y).EndsIn target r (.obj t) := by
  unfold overTarget
  cases target with
  | obj fields =>
    obtain rfl := Option.some.inj members
    exact (endsIn_get _).bind h.focus
  | null =>
    obtain rfl := Option.some.inj members
    exact (endsIn_get _).bind h.focus
  | bool | num | str | arr => cases members

theorem overTarget_refuses (none : targetMembers? target = none) :
    ∃ e, (overTarget a y).EndsIn target (.error e) target := by
  unfold overTarget
  cases target with
  | obj | null => cases none
  | bool | num | str | arr => exact ⟨_, (endsIn_get _).bind (endsIn_reject _ _)⟩

/-- Over an object a method runs the properties of its plan. -/
theorem run_eq_of_found (found : c.plans.find? method = some q) (fields : Members) :
    c.run method (.obj fields) =
      overTarget q.targetType (c.applyAll q fields (c.below _) q.properties) := by
  rw [run_eq]
  unfold runWith
  rw [found]
  rfl

theorem run_endsIn_of_unknown (unknown : c.plans.find? method = none) (v target : Json) :
    (c.run method v).EndsIn target (.error (.unknownMethod method)) target := by
  rw [run_eq]
  unfold runWith
  rw [unknown]
  exact endsIn_reject _ target

/-- What is no object is refused. -/
theorem run_endsIn_of_plain (found : c.plans.find? method = some q) (plain : ∀ fields, v ≠ .obj fields)
    (target : Json) :
    (c.run method v).EndsIn target (.error (.notAnObject q.sourceType v.kindName)) target := by
  rw [run_eq]
  unfold runWith
  rw [found]
  dsimp only
  split
  · exact absurd rfl (plain _)
  · exact endsIn_reject _ target

end Targets

end CompiledMapping

end BeanMapping
