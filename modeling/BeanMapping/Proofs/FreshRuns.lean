import BeanMapping.Proofs.Running

/-!
# Runs into new targets

A property is written into members that have none of its name yet, and touches no other member
(`SameBut`). So the properties of a plan that writes each property of its target once are written one
after the other as if each were alone, and appending to a collection always finds the array that was
opened for it.

The errors of a run into a new target are those of the conversions of what its properties carry; errors
about the shape of the target do not occur, and errors about that of a source value only where it carries
nothing.

Result:
* **`applyAll_ends`**: the properties of a plan are written, or a conversion fails.
-/

namespace BeanMapping

namespace CompiledMapping

variable {l : CompiledMapping} {depth : Nat} {below : RunsBelow depth} {p : MappingPlan}
  {x : PlannedProperty MappingPlan} {s t u : Members} {name : String} {E : ExecutionError → Prop}

/-- The members are the same but for those of one name. -/
def SameBut (name : String) (s t : Members) : Prop :=
  ∀ other, other ≠ name → Json.find? t other = Json.find? s other

theorem SameBut.refl (name : String) (s : Members) : SameBut name s s := fun _ _ => rfl

theorem SameBut.trans (h : SameBut name s t) (h' : SameBut name t u) : SameBut name s u :=
  fun other ne => (h' other ne).trans (h other ne)

theorem sameBut_set (name : String) (v : Json) (s : Members) : SameBut name s (Json.set name v s) :=
  fun _ ne => Json.find?_set_of_ne v s ne

/-! ## Conversions -/

/-- A value is converted, or its conversion fails with an error of `E`; the members stay. -/
def ConvertsTo (l : CompiledMapping) (below : RunsBelow depth) (x : PlannedProperty MappingPlan)
    (E : ExecutionError → Prop) (v : Json) : Prop :=
  ∀ h s, (l.convert below x.conversion v h : Running Members Json).Ends s (fun _ t => t = s) E

theorem convertAll_ends (s : Members) :
    ∀ (items : List Json) (h : ∀ v ∈ items, v.depth < depth),
      (∀ v ∈ items, l.ConvertsTo below x E v) →
        (l.convertAll below x.conversion items h : Running Members _).Ends s (fun _ t => t = s) E
  | [], _, _ => Narrated.ends_pure rfl
  | v :: rest, h, converts => by
    unfold convertAll
    refine (converts v List.mem_cons_self _ s).bind fun w t same => ?_
    obtain rfl := same
    have others := convertAll_ends t rest (fun w hw => h w (List.mem_cons_of_mem v hw)) fun w hw =>
      converts w (List.mem_cons_of_mem v hw)
    exact others.bind fun ws u same => Narrated.ends_pure same

/-! ## Collections -/

/-- The members hold an array under the name. -/
def HoldsArray (name : String) (s : Members) : Prop := ∃ items, Json.find? s name = some (.arr items)

theorem append_gives (h : HoldsArray name s) (w : Json) :
    ∃ t, (append name w).Gives s () t ∧ SameBut name s t ∧ HoldsArray name t := by
  obtain ⟨items, held⟩ := h
  refine ⟨Json.set name (.arr (items ++ [w])) s, ?_, sameBut_set _ _ _, _, Json.find?_set_self _ _ _⟩
  unfold append
  refine Narrated.gives_bind_iff.mpr ⟨s, s, Narrated.gives_get s, ?_⟩
  rw [held]
  exact Narrated.gives_modify _ s

/-- Elements are appended to the array, and nothing else is touched. -/
theorem appendAll_ends (signal : List Step) :
    ∀ (items : List Json) (h : ∀ v ∈ items, v.depth < depth) (s : Members),
      (∀ v ∈ items, l.ConvertsTo below x E v) → HoldsArray x.target.name s →
        (l.appendAll below x signal items h).Ends s (fun _ t => SameBut x.target.name s t) E
  | [], _, s, _, _ => Narrated.ends_pure (SameBut.refl _ s)
  | v :: rest, h, s, converts, held => by
    unfold appendAll
    refine (converts v List.mem_cons_self _ s).bind fun w t same => ?_
    obtain rfl := same
    obtain ⟨u, appended, kept, held⟩ := append_gives held w
    refine appended.bind_ends ((Narrated.gives_tell _ _).bind_ends ?_)
    have others := appendAll_ends signal rest (fun w hw => h w (List.mem_cons_of_mem v hw)) u
      (fun w hw => converts w (List.mem_cons_of_mem v hw)) held
    exact others.imp fun _ _ later => kept.trans later

theorem opened_of_absent (absent : Json.find? s name = none) :
    opened name s = Json.set name (.arr []) s := by
  unfold opened
  rw [absent]

/-! ## Properties -/

/-- **A property is written, or a conversion fails**, and no other member is touched. -/
theorem apply_ends {v : Json} {us : List Json} (carries : Carries x v us)
    (converts : ∀ u ∈ us, l.ConvertsTo below x E u) (absent : Json.find? s x.target.name = none)
    (h : v.depth < depth) :
    (l.apply below p x v h).Ends s (fun _ t => SameBut x.target.name s t) E := by
  unfold Carries at carries
  unfold apply
  cases action : x.action with
  | assign | convertAssign =>
    rw [action] at carries
    obtain rfl : us = [v] := carries
    refine (converts v (List.mem_singleton_self v) h s).bind fun w t same => ?_
    obtain rfl := same
    refine (Narrated.gives_modify _ t).bind_ends ?_
    exact (Narrated.gives_tell _ _).ends (sameBut_set _ _ _)
  | replaceSet =>
    rw [action] at carries
    obtain rfl : v = .arr us := carries
    obtain ⟨hs, items⟩ := elements_gives x.source.name h s
    refine items.bind_ends ((convertAll_ends s us hs converts).bind fun ws t same => ?_)
    obtain rfl := same
    refine (Narrated.gives_modify _ t).bind_ends ?_
    exact (Narrated.gives_tell _ _).ends (sameBut_set _ _ _)
  | mergeAdd via =>
    rw [action] at carries
    obtain rfl : v = .arr us := carries
    have empty : HoldsArray x.target.name (opened x.target.name s) := by
      rw [opened_of_absent absent]
      exact ⟨[], Json.find?_set_self _ _ _⟩
    have begun : SameBut x.target.name s (opened x.target.name s) := by
      rw [opened_of_absent absent]
      exact sameBut_set _ _ _
    obtain ⟨hs, items⟩ := elements_gives x.source.name h (opened x.target.name s)
    cases via with
    | adder =>
      refine (Narrated.gives_modify _ s).bind_ends (items.bind_ends ?_)
      exact (appendAll_ends _ us hs _ converts empty).imp fun _ t appended => begun.trans appended
    | getter =>
      refine (Narrated.gives_modify _ s).bind_ends (items.bind_ends ?_)
      refine (appendAll_ends _ us hs _ converts empty).bind fun _ t appended => ?_
      exact (Narrated.gives_tell _ _).ends (begun.trans appended)

/-- **The properties of a plan are written, or a conversion fails**: each finds no member of its name,
as the properties before it have other names. -/
theorem applyAll_ends {source : Members} {below : RunsBelow (Json.obj source).depth} :
    ∀ (xs : List (PlannedProperty MappingPlan)) (s : Members),
      (xs.map (·.target.name)).Nodup → (∀ x ∈ xs, Json.find? s x.target.name = none) →
      (∀ x ∈ xs, ∀ v, Json.find? source x.source.name = some v → v ≠ .null →
        ∃ us, Carries x v us ∧ ∀ u ∈ us, l.ConvertsTo below x E u) →
      (l.applyAll p source below xs).Ends s (fun _ _ => True) E
  | [], s, _, _, _ => Narrated.ends_pure trivial
  | x :: rest, s, distinct, absent, converts => by
    rw [List.map_cons, List.nodup_cons] at distinct
    unfold applyAll
    have first : (l.applyFrom p source below x).Ends s (fun _ t => SameBut x.target.name s t) E := by
      unfold applyFrom
      split
      · exact (Narrated.gives_tell _ _).ends (SameBut.refl _ s)
      · exact (Narrated.gives_tell _ _).ends (SameBut.refl _ s)
      · rename_i v nonnull found
        obtain ⟨us, carries, each⟩ := converts x List.mem_cons_self v found nonnull
        exact apply_ends carries each (absent x List.mem_cons_self) _
    refine first.bind fun _ t kept => ?_
    refine applyAll_ends rest t distinct.2 (fun y hy => ?_) fun y hy =>
      converts y (List.mem_cons_of_mem x hy)
    have ne : y.target.name ≠ x.target.name := fun same =>
      distinct.1 (List.mem_map.mpr ⟨y, hy, same⟩)
    rw [kept _ ne]
    exact absent y (List.mem_cons_of_mem x hy)

theorem overTarget_ends {a : TypeName} {run : Running Members Unit}
    (h : run.Ends [] (fun _ _ => True) E) : (overTarget a run).Ends (.obj []) (fun _ _ => True) E := by
  unfold overTarget
  exact (Narrated.gives_get _).bind_ends (Narrated.ends_focus h)

end CompiledMapping

end BeanMapping
