import BeanMapping.Proofs.Writing

/-!
# What a run puts into a new target

In a new target no property finds a value of its own name. So one that appends leaves what one that
replaces would write (`apply_new`), and the properties of a plan put their values there one after the other
(`filled`), whatever the actions are.

Result:
* **`mapped_eq_filled`**: what a method gives for an object.
-/

namespace BeanMapping.CompiledMapping

open Narrated

variable {c : CompiledMapping} {plan q : MappingPlan} {x : PlannedProperty MappingPlan} {v : Json}
  {depth : Nat} {method : String} {source s : Members}

/-- The members that the properties of a plan add, where none of them is there yet. -/
def filled (c : CompiledMapping) (source : Members) :
    List (PlannedProperty MappingPlan) → Members → Except ExecutionError Members
  | [], s => .ok s
  | x :: rest, s =>
    match Json.find? source x.source.name with
    | none | some .null => c.filled source rest s
    | some v => (c.written x v).bind fun w => c.filled source rest (Json.set x.target.name w s)

theorem filled_cons_of_hasValue (h : HasValue source x v)
    (rest : List (PlannedProperty MappingPlan)) (s : Members) :
    c.filled source (x :: rest) s =
      (c.written x v).bind fun w => c.filled source rest (Json.set x.target.name w s) := by
  obtain ⟨found, nonnull⟩ := h
  rw [filled]
  split
  · rename_i absent
    exact absurd (absent.symm.trans found) (by simp)
  · rename_i null
    exact absurd (Option.some.inj (found.symm.trans null)) nonnull
  · rename_i w _ held
    obtain rfl := Option.some.inj (found.symm.trans held)
    rfl

theorem filled_cons_of_absent (h : ∀ v, ¬ HasValue source x v)
    (rest : List (PlannedProperty MappingPlan)) (s : Members) :
    c.filled source (x :: rest) s = c.filled source rest s := by
  rw [filled]
  split
  · rfl
  · rfl
  · rename_i v nonnull found
    exact absurd ⟨found, nonnull⟩ (h v)

/-- **Where there is no member of its name a property writes its value**, also if it appends. -/
theorem apply_new (c : CompiledMapping) (plan : MappingPlan) (x : PlannedProperty MappingPlan)
    (h : v.depth < depth) (absent : Json.find? s x.target.name = none) :
    (∃ w, c.written x v = .ok w ∧
      (c.apply (c.below depth) plan x v h).EndsIn s (.ok ()) (Json.set x.target.name w s)) ∨
    ∃ e t, c.written x v = .error e ∧ (c.apply (c.below depth) plan x v h).EndsIn s (.error e) t := by
  cases appends : x.action.appends with
  | false =>
    rcases c.apply_replaces plan h appends s with replaced | ⟨e, failed, ends⟩
    · exact Or.inl replaced
    · exact Or.inr ⟨e, s, failed, ends⟩
  | true =>
    have begun := opened_of_absent absent
    have held : Json.find? (opened x.target.name s) x.target.name = some (.arr []) := by
      rw [begun]
      exact Json.find?_set_self _ _ _
    have elementWise := PropertyAction.isElementWise_of_appends appends
    rcases c.apply_appends plan h appends held with ⟨items, found, ends⟩ | ⟨e, found, ends⟩
    · rw [begun, Json.set_set, List.nil_append] at ends
      rw [written_of_elements elementWise found, convertedAll_eq]
      cases all : (c.convertedUntil x.conversion items).2 with
      | ok _ =>
        rw [all] at ends
        exact Or.inl ⟨_, rfl, ends⟩
      | error e =>
        rw [all] at ends
        exact Or.inr ⟨e, _, rfl, ends⟩
    · exact Or.inr ⟨e, _, written_of_no_elements elementWise found, ends⟩

/-- The properties of a plan fill new members, as they have different names. -/
theorem applyAll_new (c : CompiledMapping) (plan : MappingPlan) :
    ∀ (xs : List (PlannedProperty MappingPlan)) (s : Members), (xs.map (·.target.name)).Nodup →
      (∀ x ∈ xs, Json.find? s x.target.name = none) →
      (∃ t, c.filled source xs s = .ok t ∧
        (c.applyAll plan source (c.below _) xs).EndsIn s (.ok ()) t) ∨
      ∃ e t, c.filled source xs s = .error e ∧
        (c.applyAll plan source (c.below _) xs).EndsIn s (.error e) t
  | [], s, _, _ => Or.inl ⟨s, rfl, endsIn_pure () s⟩
  | x :: rest, s, distinct, absent => by
    rw [List.map_cons, List.nodup_cons] at distinct
    unfold applyAll
    rcases exists_hasValue_or source x with ⟨v, value⟩ | none
    · rw [filled_cons_of_hasValue value]
      obtain ⟨hd, first_eq⟩ : ∃ hd, c.applyFrom plan source (c.below _) x =
          c.apply (c.below _) plan x v hd := value.applyFrom_eq
      rw [first_eq]
      rcases c.apply_new plan x hd (absent x List.mem_cons_self) with
        ⟨w, written, first⟩ | ⟨e, t, failed, first⟩
      · have others : ∀ y ∈ rest, Json.find? (Json.set x.target.name w s) y.target.name = .none := by
          intro y hy
          have ne : y.target.name ≠ x.target.name := fun same =>
            distinct.1 (List.mem_map.mpr ⟨y, hy, same⟩)
          rw [sameBut_set x.target.name w s _ ne]
          exact absent y (List.mem_cons_of_mem x hy)
        rw [written]
        rcases applyAll_new c plan rest _ distinct.2 others with ⟨t, ok, ends⟩ | ⟨e, t, error, ends⟩
        · exact Or.inl ⟨t, ok, first.bind ends⟩
        · exact Or.inr ⟨e, t, error, first.bind ends⟩
      · rw [failed]
        exact Or.inr ⟨e, t, rfl, first.bind_error _⟩
    · rw [filled_cons_of_absent none, applyFrom_of_absent none]
      have first := endsIn_tell (ε := ExecutionError) [Step.told (absentEvent plan x)] s
      rcases applyAll_new c plan rest s distinct.2 fun y hy =>
        absent y (List.mem_cons_of_mem x hy) with ⟨t, ok, ends⟩ | ⟨e, t, error, ends⟩
      · exact Or.inl ⟨t, ok, first.bind ends⟩
      · exact Or.inr ⟨e, t, error, first.bind ends⟩

theorem mapped_of_endsIn {r : Except ExecutionError Unit} {t : Json}
    (h : (c.run method v).EndsIn (.obj []) r t) : c.mapped method v = r.map fun _ => t := by
  obtain ⟨result, state⟩ := h
  unfold mapped
  simp only [result, state]

/-- **A method gives for an object what the properties of its plan fill in.** -/
theorem mapped_eq_filled (found : c.plans.find? method = some q)
    (distinct : (q.properties.map (·.target.name)).Nodup) (fields : Members) :
    c.mapped method (.obj fields) = (c.filled fields q.properties []).map .obj := by
  have new : ∀ x ∈ q.properties, Json.find? [] x.target.name = none := fun _ _ => rfl
  have whole : ∀ {r t}, (c.applyAll q fields (c.below _) q.properties).EndsIn [] r t →
      (c.run method (.obj fields)).EndsIn (.obj []) r (.obj t) := by
    intro r t ends
    rw [run_eq_of_found found]
    exact overTarget_endsIn rfl ends
  rcases c.applyAll_new q q.properties [] distinct new with ⟨t, ok, ends⟩ | ⟨e, t, error, ends⟩
  · rw [mapped_of_endsIn (whole ends), ok]
    rfl
  · rw [mapped_of_endsIn (whole ends), error]
    rfl

/-- A method that is not there gives nothing. -/
theorem mapped_of_unknown (unknown : c.plans.find? method = none) (v : Json) :
    c.mapped method v = .error (.unknownMethod method) :=
  mapped_of_endsIn (run_endsIn_of_unknown unknown v _)

/-- A method gives nothing for what is no object. -/
theorem mapped_of_plain (found : c.plans.find? method = some q) (plain : ∀ fields, v ≠ .obj fields) :
    c.mapped method v = .error (.notAnObject q.sourceType v.kindName) :=
  mapped_of_endsIn (run_endsIn_of_plain found plain _)

end BeanMapping.CompiledMapping
