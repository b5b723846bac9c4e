import BeanMapping.Proofs.NewTargets
import Mathlib.Data.List.Forall2
import Mathlib.Data.List.Perm.Basic

/-!
# Mirrored mappings

A plan mirrors another when it writes back what the other reads: their properties have the names of source
and target swapped, and the conversion of the one takes back what that of the other does (`Undoes`). Nested
methods refer to methods that mirror each other, possibly round in circles, so mirroring is a relation
between the methods of two mappings (`Mirrors`), in the way of a simulation.

A value goes there and back if it is of the form that the first method reads (`InForm`): an object with just
the names of its sources, nothing in it `null`, and what is handed to a nested method again of its form. The
form is inductive, as values are finite, and it is the induction on the form that closes the circles.

Results:
* **`Json.same_self`**: a value that repeats no name is the same as itself;
* `exists_filled`: a plan fills in one member for each of its properties;
* **`mirrored_round_trip`**: a mapping and then one that mirrors it give the source back.
-/

namespace BeanMapping

/-! ## Values that are the same -/

namespace Json

mutual

/-- Whether no object in a value has two members of one name. -/
def isUnrepeated : Json → Bool
  | .arr items => areUnrepeated items
  | .obj fields => decide (fields.map (·.1)).Nodup && areUnrepeatedFields fields
  | _ => true

/-- Whether no value of an array repeats a name within. -/
def areUnrepeated : List Json → Bool
  | [] => true
  | v :: rest => v.isUnrepeated && areUnrepeated rest

/-- Whether no value in an object repeats a name within, whatever names its members have. -/
def areUnrepeatedFields : List (String × Json) → Bool
  | [] => true
  | (_, v) :: rest => v.isUnrepeated && areUnrepeatedFields rest

end

variable {items vs ws : List Json} {fields fs gs : List (String × Json)} {name : String} {v w : Json}

theorem areUnrepeated_iff : areUnrepeated items = true ↔ ∀ v ∈ items, v.isUnrepeated = true := by
  induction items with
  | nil => simp [areUnrepeated]
  | cons v rest ih => rw [areUnrepeated, Bool.and_eq_true, ih, List.forall_mem_cons]

theorem areUnrepeatedFields_iff :
    areUnrepeatedFields fields = true ↔ ∀ f ∈ fields, f.2.isUnrepeated = true := by
  induction fields with
  | nil => simp [areUnrepeatedFields]
  | cons f rest ih => rw [areUnrepeatedFields, Bool.and_eq_true, ih, List.forall_mem_cons]

theorem isUnrepeated_obj_iff : (Json.obj fields).isUnrepeated = true ↔
    (fields.map (·.1)).Nodup ∧ ∀ f ∈ fields, f.2.isUnrepeated = true := by
  rw [isUnrepeated, Bool.and_eq_true, decide_eq_true_iff, areUnrepeatedFields_iff]

theorem mem_of_find? (h : find? fields name = some v) : (name, v) ∈ fields := by
  unfold find? at h
  obtain ⟨⟨n, w⟩, found, rfl⟩ := Option.map_eq_some_iff.mp h
  have key := List.find?_some found
  rw [beq_iff_eq] at key
  exact key ▸ List.mem_of_find?_eq_some found

/-- Where no name is repeated, each member is the one that is found for its name. -/
theorem find?_of_mem (nodup : (fields.map (·.1)).Nodup) (h : (name, v) ∈ fields) :
    find? fields name = some v := by
  induction fields with
  | nil => cases h
  | cons f rest ih =>
    rw [List.map_cons, List.nodup_cons] at nodup
    rw [find?_cons]
    rcases List.mem_cons.mp h with rfl | h
    · exact if_pos rfl
    · have other : f.1 ≠ name := fun same => nodup.1 (same ▸ List.mem_map_of_mem h)
      rw [if_neg other]
      exact ih nodup.2 h

theorem exists_find?_of_mem (h : name ∈ fields.map (·.1)) : ∃ v, find? fields name = some v := by
  obtain ⟨f, hf, named⟩ := List.mem_map.mp h
  have found : (fields.find? (·.1 == name)).isSome = true :=
    List.find?_isSome.mpr ⟨f, hf, beq_iff_eq.mpr named⟩
  obtain ⟨g, found⟩ := Option.isSome_iff_exists.mp found
  exact ⟨g.2, Option.map_eq_some_iff.mpr ⟨g, found, rfl⟩⟩

theorem sameItems_iff : sameItems vs ws = true ↔ List.Forall₂ (fun v w => v.same w = true) vs ws := by
  induction vs generalizing ws with
  | nil => cases ws <;> simp [sameItems]
  | cons v rest ih => cases ws <;> simp [sameItems, ih]

theorem sameFields_iff :
    sameFields fs gs = true ↔ ∀ f ∈ fs, ∃ w, find? gs f.1 = some w ∧ f.2.same w = true := by
  induction fs with
  | nil => simp [sameFields]
  | cons f rest ih =>
    rw [sameFields, Bool.and_eq_true, ih, List.forall_mem_cons]
    refine and_congr_left fun _ => ?_
    cases find? gs f.1 <;> simp

/-- **A value that repeats no name is the same as itself.** -/
theorem same_self : ∀ v : Json, v.isUnrepeated = true → v.same v = true
  | .null, _ => rfl
  | .bool b, _ => beq_self_eq_true b
  | .num (.int n), _ => beq_self_eq_true n
  | .num (.dec d), _ => by
    rw [same, Number.same, Decimal.same, beq_self_eq_true, Bool.true_or]
  | .str text, _ => beq_self_eq_true text
  | .arr items, h => by
    rw [same, sameItems_iff, List.forall₂_same]
    exact fun v hv => same_self v (areUnrepeated_iff.mp h v hv)
  | .obj fields, h => by
    obtain ⟨nodup, members⟩ := isUnrepeated_obj_iff.mp h
    rw [same, beq_self_eq_true, Bool.true_and, sameFields_iff]
    exact fun f hf => ⟨f.2, find?_of_mem nodup hf, same_self f.2 (members f hf)⟩
termination_by v => v.depth
decreasing_by
  · exact depth_lt_of_mem_arr hv
  · exact depth_lt_of_find? (find?_of_mem nodup hf)

/-- **Two objects with the same names, each once, are the same** if the members of each name are. -/
theorem same_of_members (nodup : (fs.map (·.1)).Nodup) (nodup' : (gs.map (·.1)).Nodup)
    (names : ∀ name, name ∈ fs.map (·.1) ↔ name ∈ gs.map (·.1))
    (members : ∀ name v, find? fs name = some v → ∃ w, find? gs name = some w ∧ v.same w = true) :
    (obj fs).same (obj gs) = true := by
  have alike := ((List.perm_ext_iff_of_nodup nodup nodup').mpr names).length_eq
  rw [List.length_map, List.length_map] at alike
  rw [same, alike, beq_self_eq_true, Bool.true_and, sameFields_iff]
  exact fun f hf => members f.1 f.2 (find?_of_mem nodup hf)

theorem map_fst_set_of_absent (absent : name ∉ fields.map (·.1)) (v : Json) :
    (set name v fields).map (·.1) = fields.map (·.1) ++ [name] := by
  induction fields with
  | nil => rfl
  | cons f rest ih =>
    rw [List.map_cons, List.mem_cons, not_or] at absent
    rw [set, if_neg fun same => absent.1 same.symm, List.map_cons, ih absent.2]
    rfl

end Json

namespace CompiledMapping

variable {c c' : CompiledMapping} {R : String → String → Prop} {q q' : MappingPlan}
  {x y : PlannedProperty MappingPlan} {k k' : Option (Conversion MappingPlan)} {u v : Json}
  {us : List Json} {method method' : String} {source s : Members}

/-! ## Plans that mirror each other -/

/-- Nothing converts a value, or a built-in conversion does, which leaves it as it is. -/
def PassesOn (k : Option (Conversion MappingPlan)) : Prop := k = none ∨ ∃ b, k = some (.builtin b)

/-- What a converter gives is never `null`, and another converter turns it back. -/
def TurnsBack (f g : Converter) (t t' : Option TypeName) : Prop :=
  ∀ v w, v.isUnrepeated = true → f v t = .ok w → w ≠ .null ∧ ∃ u, g w t' = .ok u ∧ v.same u = true

/-- **The second conversion takes back what the first does**, where the methods of `R` mirror each other. -/
inductive Undoes (c c' : CompiledMapping) (R : String → String → Prop) :
    Option (Conversion MappingPlan) → Option (Conversion MappingPlan) → Prop
  | passed {k k' : Option (Conversion MappingPlan)} (there : PassesOn k) (back : PassesOn k') :
      Undoes c c' R k k'
  | converter {path path' : String} {t t' : Option TypeName} {failures failures' : List TypeName}
      {f g : Converter} (there : c.converters.find? path = some f)
      (back : c'.converters.find? path' = some g) (turnsBack : TurnsBack f g t t') :
      Undoes c c' R (some (.converter path t failures)) (some (.converter path' t' failures'))
  | nested {n n' : NestedMapping MappingPlan} (related : R n.method n'.method) :
      Undoes c c' R (some (.nested n)) (some (.nested n'))

/-- A planned property writes back what another reads. -/
structure MirrorsProperty (c c' : CompiledMapping) (R : String → String → Prop)
    (x y : PlannedProperty MappingPlan) : Prop where
  source_eq : y.source.name = x.target.name
  target_eq : y.target.name = x.source.name
  isElementWise_eq : y.action.isElementWise = x.action.isElementWise
  undoes : Undoes c c' R x.conversion y.conversion

/-- A plan reads each name once and writes each name once. -/
structure Distinct (q : MappingPlan) : Prop where
  sources : (q.properties.map (·.source.name)).Nodup
  targets : (q.properties.map (·.target.name)).Nodup

/-- The properties of a plan are those of another, mirrored. -/
structure MirrorsPlan (c c' : CompiledMapping) (R : String → String → Prop) (q q' : MappingPlan) : Prop where
  forth : ∀ x ∈ q.properties, ∃ y ∈ q'.properties, MirrorsProperty c c' R x y
  back : ∀ y ∈ q'.properties, ∃ x ∈ q.properties, MirrorsProperty c c' R x y
  distinct : Distinct q
  distinct' : Distinct q'

/-- **Related methods of two mappings mirror each other**, where nested ones are again related. -/
def Mirrors (c c' : CompiledMapping) (R : String → String → Prop) : Prop :=
  ∀ method method', R method method' → ∃ q q', c.plans.find? method = some q ∧
    c'.plans.find? method' = some q' ∧ MirrorsPlan c c' R q q'

/-! ## Sources -/

/-- A value that a property converts, of an object. -/
def Carried (source : Members) (x : PlannedProperty MappingPlan) (u : Json) : Prop :=
  ∃ v us, Json.find? source x.source.name = some v ∧ Carries x v us ∧ u ∈ us

/-- **A value is of the form that a method reads**: an object with just the names of its sources, an array
where it works element by element, without `null`, and with what a converter takes. What is handed to a
nested method is of the form that this reads. -/
inductive InForm (c : CompiledMapping) : String → Json → Prop
  | intro {method : String} {q : MappingPlan} {fields : Members} (found : c.plans.find? method = some q)
      (names : ∀ name, name ∈ fields.map (·.1) ↔ name ∈ q.properties.map (·.source.name))
      (carries : ∀ x ∈ q.properties, ∀ v, Json.find? fields x.source.name = some v → ∃ us, Carries x v us)
      (nonnull : ∀ x ∈ q.properties, ∀ u, Carried fields x u → u ≠ .null)
      (converts : ∀ x ∈ q.properties, ∀ u, Carried fields x u → ∀ path t failures,
        x.conversion = some (.converter path t failures) → ∃ w, c.converted x.conversion u = .ok w)
      (nested : ∀ x ∈ q.properties, ∀ u, Carried fields x u → ∀ n, x.conversion = some (.nested n) →
        InForm c n.method u) :
      InForm c method (.obj fields)

/-! ## There and back -/

/-- A value is converted to one that is not `null`, of which the other conversion gives the value back. -/
def Returns (c c' : CompiledMapping) (k k' : Option (Conversion MappingPlan)) (u : Json) : Prop :=
  ∃ w, c.converted k u = .ok w ∧ w ≠ .null ∧ ∃ u', c'.converted k' w = .ok u' ∧ u.same u' = true

/-- What one method gives for a value, an object, another maps back. -/
def RoundTrips (c c' : CompiledMapping) (method method' : String) (v : Json) : Prop :=
  ∃ t y, c.mapped method v = .ok (.obj t) ∧ c'.mapped method' (.obj t) = .ok y ∧ v.same y = true

theorem PassesOn.converted_eq (h : PassesOn k) (c : CompiledMapping) (u : Json) :
    c.converted k u = .ok u := by
  rcases h with rfl | ⟨b, rfl⟩ <;> rfl

theorem converted_of_converter {path : String} {f : Converter} (found : c.converters.find? path = some f)
    (t : Option TypeName) (failures : List TypeName) (u : Json) :
    c.converted (some (.converter path t failures)) u = (f u t).mapError .raised := by
  simp only [converted, found]

/-- **A conversion that is undone gives a value back**, if nested methods do. -/
theorem Undoes.returns (h : Undoes c c' R k k') (unrepeated : u.isUnrepeated = true) (nonnull : u ≠ .null)
    (converts : ∀ path t failures, k = some (.converter path t failures) → ∃ w, c.converted k u = .ok w)
    (nested : ∀ n n' : NestedMapping MappingPlan, k = some (.nested n) → R n.method n'.method →
      RoundTrips c c' n.method n'.method u) : Returns c c' k k' u := by
  cases h with
  | passed there back =>
    exact ⟨u, there.converted_eq c u, nonnull, u, back.converted_eq c' u, Json.same_self u unrepeated⟩
  | @converter path path' t t' failures failures' f g there back turnsBack =>
    obtain ⟨w, gives⟩ := converts path t failures rfl
    have raised := gives
    rw [converted_of_converter there] at raised
    cases ran : f u t with
    | error e =>
      rw [ran] at raised
      cases raised
    | ok w' =>
      rw [ran] at raised
      obtain rfl : w' = w := Except.ok.inj raised
      obtain ⟨nonnull, u', back_eq, same⟩ := turnsBack u w' unrepeated ran
      refine ⟨w', gives, nonnull, u', ?_, same⟩
      rw [converted_of_converter back, back_eq]
      rfl
  | @nested n n' related =>
    obtain ⟨t, y, there, back, same⟩ := nested n n' rfl related
    exact ⟨.obj t, there, by simp, y, back, same⟩

/-- Values that return one by one return as the elements of a collection. -/
theorem exists_convertedAll (each : ∀ u ∈ us, Returns c c' k k' u) :
    ∃ ws us', c.convertedAll k us = .ok ws ∧ c'.convertedAll k' ws = .ok us' ∧
      Json.sameItems us us' = true := by
  induction us with
  | nil => exact ⟨[], [], rfl, rfl, rfl⟩
  | cons u rest ih =>
    obtain ⟨⟨w, there, -, u', back, same⟩, others⟩ := List.forall_mem_cons.mp each
    obtain ⟨ws, us', thereAll, backAll, sameAll⟩ := ih others
    unfold convertedAll at thereAll backAll ⊢
    refine ⟨w :: ws, u' :: us', ?_, ?_, ?_⟩
    · rw [List.mapM_cons, there, thereAll]
      rfl
    · rw [List.mapM_cons, back, backAll]
      rfl
    · rw [Json.sameItems, same, sameAll]
      rfl

/-- **What one property writes, its mirror image writes back.** -/
theorem MirrorsProperty.written_back (h : MirrorsProperty c c' R x y) (carries : Carries x v us)
    (each : ∀ u ∈ us, Returns c c' x.conversion y.conversion u) :
    ∃ w, c.written x v = .ok w ∧ w ≠ .null ∧ ∃ v', c'.written y w = .ok v' ∧ v.same v' = true := by
  have image := h.isElementWise_eq
  unfold Carries at carries
  cases elementWise : x.action.isElementWise with
  | true =>
    rw [if_pos elementWise] at carries
    obtain ⟨ws, us', there, back, same⟩ := exists_convertedAll each
    refine ⟨.arr ws, ?_, by simp, .arr us', ?_, ?_⟩
    · rw [carries, written_of_elements elementWise rfl, there]
      rfl
    · rw [written_of_elements (image.trans elementWise) rfl, back]
      rfl
    · rw [carries, Json.same, same]
  | false =>
    rw [if_neg (by simp [elementWise])] at carries
    subst carries
    obtain ⟨w, there, nonnull, v', back, same⟩ := each v (List.mem_singleton_self v)
    rw [← written_of_whole elementWise] at there
    rw [← written_of_whole (image.trans elementWise)] at back
    exact ⟨w, there, nonnull, v', back, same⟩

/-- **A plan fills in one member for each of its properties**, if every property has a value and writes
it. -/
theorem exists_filled {xs : List (PlannedProperty MappingPlan)} (distinct : (xs.map (·.target.name)).Nodup)
    (new : ∀ x ∈ xs, x.target.name ∉ s.map (·.1))
    (writes : ∀ x ∈ xs, ∃ v w, HasValue source x v ∧ c.written x v = .ok w) :
    ∃ t, c.filled source xs s = .ok t ∧ t.map (·.1) = s.map (·.1) ++ xs.map (·.target.name) ∧
      (∀ name, name ∉ xs.map (·.target.name) → Json.find? t name = Json.find? s name) ∧
      ∀ x ∈ xs, ∀ v w, HasValue source x v → c.written x v = .ok w →
        Json.find? t x.target.name = some w := by
  induction xs generalizing s with
  | nil => exact ⟨s, rfl, (List.append_nil _).symm, fun _ _ => rfl, fun x hx => by cases hx⟩
  | cons x rest ih =>
    rw [List.map_cons, List.nodup_cons] at distinct
    obtain ⟨⟨v, w, value, written⟩, others⟩ := List.forall_mem_cons.mp writes
    obtain ⟨fresh, newRest⟩ := List.forall_mem_cons.mp new
    have names := Json.map_fst_set_of_absent fresh w
    have newNext : ∀ y ∈ rest, y.target.name ∉ (Json.set x.target.name w s).map (·.1) := by
      intro y hy mem
      rw [names, List.mem_append, List.mem_singleton] at mem
      rcases mem with mem | same
      · exact newRest y hy mem
      · exact distinct.1 (same ▸ List.mem_map_of_mem hy)
    obtain ⟨t, filled_eq, names_eq, kept, written_eq⟩ := ih distinct.2 newNext others
    refine ⟨t, ?_, ?_, fun name absent => ?_, List.forall_mem_cons.mpr ⟨fun v' w' value' written' => ?_,
      written_eq⟩⟩
    · rw [filled_cons_of_hasValue value, written]
      exact filled_eq
    · rw [names_eq, names, List.append_assoc]
      rfl
    · rw [List.map_cons, List.mem_cons, not_or] at absent
      rw [kept name absent.2, Json.find?_set_of_ne w s absent.1]
    · obtain rfl := value.unique value'
      obtain rfl := Except.ok.inj (written.symm.trans written')
      rw [kept _ distinct.1, Json.find?_set_self]

/-- What an object holds for a property is no `null`, and what is carried from it repeats no name. -/
theorem ne_null_of_carries (carries : Carries x v us) (nonnull : ∀ u ∈ us, u ≠ .null) : v ≠ .null := by
  unfold Carries at carries
  split at carries
  · rw [carries]
    simp
  · subst carries
    exact nonnull v (List.mem_singleton_self v)

theorem isUnrepeated_of_carries (carries : Carries x v us) (unrepeated : v.isUnrepeated = true) :
    ∀ u ∈ us, u.isUnrepeated = true := by
  unfold Carries at carries
  split at carries
  · subst carries
    rwa [Json.isUnrepeated, Json.areUnrepeated_iff] at unrepeated
  · subst carries
    exact List.forall_mem_singleton.mpr unrepeated

/-- **The members that one plan writes, its mirror image writes back**, if each property does. -/
theorem MirrorsPlan.members_back (mirrors : MirrorsPlan c c' R q q')
    (names : ∀ name, name ∈ source.map (·.1) ↔ name ∈ q.properties.map (·.source.name))
    (nodup : (source.map (·.1)).Nodup)
    (each : ∀ x ∈ q.properties, ∀ y, MirrorsProperty c c' R x y → ∃ v w, HasValue source x v ∧
      c.written x v = .ok w ∧ w ≠ .null ∧ ∃ v', c'.written y w = .ok v' ∧ v.same v' = true) :
    ∃ t z, c.filled source q.properties [] = .ok t ∧ c'.filled t q'.properties [] = .ok z ∧
      (Json.obj source).same (.obj z) = true := by
  obtain ⟨t, there, -, -, written⟩ := exists_filled (s := []) mirrors.distinct.targets
    (fun _ _ => List.not_mem_nil) fun x hx => by
      obtain ⟨y, -, image⟩ := mirrors.forth x hx
      obtain ⟨v, w, value, gives, -⟩ := each x hx y image
      exact ⟨v, w, value, gives⟩
  have reads : ∀ x ∈ q.properties, ∀ y, MirrorsProperty c c' R x y → ∃ v w v', HasValue source x v ∧
      HasValue t y w ∧ c'.written y w = .ok v' ∧ v.same v' = true := by
    intro x hx y image
    obtain ⟨v, w, value, gives, nonnull, v', back, same⟩ := each x hx y image
    refine ⟨v, w, v', value, ⟨?_, nonnull⟩, back, same⟩
    rw [image.source_eq]
    exact written x hx v w value gives
  obtain ⟨z, back, names', -, written'⟩ := exists_filled (s := []) mirrors.distinct'.targets
    (fun _ _ => List.not_mem_nil) fun y hy => by
      obtain ⟨x, hx, image⟩ := mirrors.back y hy
      obtain ⟨v, w, v', -, value, gives, -⟩ := reads x hx y image
      exact ⟨w, v', value, gives⟩
  have names_iff : ∀ name, name ∈ q.properties.map (·.source.name) ↔ name ∈ z.map (·.1) := by
    intro name
    rw [names', List.map_nil, List.nil_append]
    constructor
    · intro mem
      obtain ⟨x, hx, rfl⟩ := List.mem_map.mp mem
      obtain ⟨y, hy, image⟩ := mirrors.forth x hx
      exact List.mem_map.mpr ⟨y, hy, image.target_eq⟩
    · intro mem
      obtain ⟨y, hy, rfl⟩ := List.mem_map.mp mem
      obtain ⟨x, hx, image⟩ := mirrors.back y hy
      exact List.mem_map.mpr ⟨x, hx, image.target_eq.symm⟩
  have nodup' : (z.map (·.1)).Nodup := by
    rw [names']
    exact mirrors.distinct'.targets
  refine ⟨t, z, there, back, Json.same_of_members nodup nodup' (fun name => (names name).trans
    (names_iff name)) fun name v held => ?_⟩
  obtain ⟨x, hx, rfl⟩ := List.mem_map.mp ((names name).mp (List.mem_map_of_mem (Json.mem_of_find? held)))
  obtain ⟨y, hy, image⟩ := mirrors.forth x hx
  obtain ⟨v', w, u, value, value', gives, same⟩ := reads x hx y image
  obtain rfl := Option.some.inj (held.symm.trans value.1)
  refine ⟨u, ?_, same⟩
  rw [← image.target_eq]
  exact written' y hy w u value' gives

/-- **A value of the form that a method reads goes there and back**, by related methods of mappings that
mirror each other: by induction on its form. -/
theorem InForm.roundTrips (mirrors : Mirrors c c' R) (form : InForm c method v) :
    ∀ method', R method method' → v.isUnrepeated = true → RoundTrips c c' method method' v := by
  induction form with
  | @intro method q fields found names carries nonnull converts nested ih =>
    intro method' related unrepeated
    obtain ⟨q₀, q', found₀, found', image⟩ := mirrors method method' related
    obtain rfl : q = q₀ := Option.some.inj (found.symm.trans found₀)
    obtain ⟨nodup, members⟩ := Json.isUnrepeated_obj_iff.mp unrepeated
    have each : ∀ x ∈ q.properties, ∀ y, MirrorsProperty c c' R x y → ∃ v w, HasValue fields x v ∧
        c.written x v = .ok w ∧ w ≠ .null ∧ ∃ v', c'.written y w = .ok v' ∧ v.same v' = true := by
      intro x hx y image
      obtain ⟨v, held⟩ := Json.exists_find?_of_mem ((names _).mpr (List.mem_map_of_mem hx))
      obtain ⟨us, carried⟩ := carries x hx v held
      have single : ∀ u ∈ us, Carried fields x u := fun u hu => ⟨v, us, held, carried, hu⟩
      have apart := isUnrepeated_of_carries carried (members _ (Json.mem_of_find? held))
      obtain ⟨w, there, nonnull', back⟩ := image.written_back carried fun u hu =>
        image.undoes.returns (apart u hu) (nonnull x hx u (single u hu)) (converts x hx u (single u hu))
          fun n n' asked related => ih x hx u (single u hu) n asked n'.method related (apart u hu)
      exact ⟨v, w, ⟨held, ne_null_of_carries carried fun u hu => nonnull x hx u (single u hu)⟩, there,
        nonnull', back⟩
    obtain ⟨t, z, there, back, same⟩ := image.members_back names nodup each
    refine ⟨t, .obj z, ?_, ?_, same⟩
    · rw [mapped_eq_filled found image.distinct.targets, there]
      rfl
    · rw [mapped_eq_filled found' image.distinct'.targets, back]
      rfl

theorem run_of_mapped {w : Json} (h : c.mapped c.method v = .ok w) :
    (c.map v).result = .ok () ∧ (c.map v).state = w := by
  have given : (c.map v).result.map (fun _ => (c.map v).state) = .ok w := h
  cases ran : (c.map v).result with
  | error e =>
    rw [ran] at given
    cases given
  | ok _ =>
    rw [ran] at given
    exact ⟨rfl, Except.ok.inj given⟩

/-- **Mirrored mappings round-trip.** Two compiled mappings mirror each other, their own methods included. An
object of the form that the first reads, which repeats no name, is mapped by the first; the second maps what
comes out, and gives the object back, but for the order of members. -/
theorem mirrored_round_trip (mirrors : Mirrors c c' R) (related : R c.method c'.method)
    (form : InForm c c.method v) (unrepeated : v.isUnrepeated = true) :
    (c.map v).result = .ok () ∧ (c'.map (c.map v).state).result = .ok () ∧
      v.same (c'.map (c.map v).state).state = true := by
  obtain ⟨t, y, there, back, same⟩ := form.roundTrips mirrors c'.method related unrepeated
  obtain ⟨done, left⟩ := run_of_mapped there
  obtain ⟨done', left'⟩ := run_of_mapped back
  rw [left, left']
  exact ⟨done, done', same⟩

/-! ### Persons on cards -/

/-- A property that goes from one name to another. -/
def passing (source target : String) (action : PropertyAction)
    (conversion : Option (Conversion MappingPlan)) : PlannedProperty MappingPlan :=
  ⟨⟨source, ⟨"Value"⟩, none, {}⟩, ⟨target, ⟨"Value"⟩, none, {}⟩, action, conversion⟩

/-- What is alive is not gone, and what is no truth value is neither. -/
def negated : Converter
  | .bool b, _ => .ok (.bool !b)
  | _, _ => .error ⟨⟨"NoTruth"⟩, "neither true nor false"⟩

/-- The properties of persons on cards, each with its mirror image. The peers on a card are cards. -/
def cardPairs : List (PlannedProperty MappingPlan × PlannedProperty MappingPlan) :=
  let negation := some (.converter "negated" none [])
  let toCard := some (.nested ⟨"to_card", ⟨"Person"⟩, ⟨"Card"⟩, [], none⟩)
  let toPerson := some (.nested ⟨"to_person", ⟨"Card"⟩, ⟨"Person"⟩, [], none⟩)
  [(passing "name" "title" .assign none, passing "title" "name" .convertAssign (some (.builtin .boxing))),
    (passing "alive" "gone" .convertAssign negation, passing "gone" "alive" .convertAssign negation),
    (passing "friends" "peers" (.mergeAdd .adder) toCard, passing "peers" "friends" .replaceSet toPerson),
    (passing "notes" "remarks" (.mergeAdd .getter) none, passing "remarks" "notes" (.mergeAdd .adder) none)]

/-- The plan for cards. -/
def cardPlan : MappingPlan := ⟨"to_card", ⟨"Person"⟩, ⟨"Card"⟩, false, [], cardPairs.map Prod.fst⟩

/-- The plan for persons, in another order. -/
def personPlan : MappingPlan :=
  ⟨"to_person", ⟨"Card"⟩, ⟨"Person"⟩, false, [], (cardPairs.map Prod.snd).reverse⟩

/-- Maps persons to cards. -/
def toCard : CompiledMapping := ⟨"to_card", .ofFirsts [cardPlan], .ofList [("negated", negated)]⟩

/-- Maps cards to persons. -/
def toPerson : CompiledMapping := ⟨"to_person", .ofFirsts [personPlan], .ofList [("negated", negated)]⟩

/-- A person. -/
def personOf (name : String) (alive : Bool) (friends notes : List Json) : Json :=
  .obj [("name", .str name), ("friends", .arr friends), ("notes", .arr notes), ("alive", .bool alive)]

theorem cardPairs_mirror : ∀ pair ∈ cardPairs,
    MirrorsProperty toCard toPerson (fun m m' => m = "to_card" ∧ m' = "to_person") pair.1 pair.2 := by
  have turnsBack : TurnsBack negated negated none none := by
    intro v w _ gives
    cases v with
    | bool b =>
      obtain rfl := Except.ok.inj gives
      exact ⟨by simp, .bool b, by simp [negated], beq_self_eq_true b⟩
    | _ => cases gives
  simp only [cardPairs, List.forall_mem_cons]
  refine ⟨⟨rfl, rfl, rfl, .passed (.inl rfl) (.inr ⟨_, rfl⟩)⟩, ⟨rfl, rfl, rfl, .converter rfl rfl turnsBack⟩,
    ⟨rfl, rfl, rfl, .nested ⟨rfl, rfl⟩⟩, ⟨rfl, rfl, rfl, .passed (.inl rfl) (.inl rfl)⟩, ?_⟩
  exact fun pair mem => by cases mem

theorem mirrors_cards : Mirrors toCard toPerson fun m m' => m = "to_card" ∧ m' = "to_person" := by
  rintro _ _ ⟨rfl, rfl⟩
  refine ⟨cardPlan, personPlan, rfl, rfl, ⟨fun x hx => ?_, fun y hy => ?_,
    ⟨by decide +kernel, by decide +kernel⟩, ⟨by decide +kernel, by decide +kernel⟩⟩⟩
  · obtain ⟨pair, mem, rfl⟩ := List.mem_map.mp hx
    exact ⟨pair.2, List.mem_reverse.mpr (List.mem_map_of_mem mem), cardPairs_mirror pair mem⟩
  · obtain ⟨pair, mem, rfl⟩ := List.mem_map.mp (List.mem_reverse.mp hy)
    exact ⟨pair.1, List.mem_map_of_mem mem, cardPairs_mirror pair mem⟩

/-- A person is of the form that is mapped to cards, if the friends are. -/
theorem personOf_inForm {friends notes : List Json} (name : String) (alive : Bool)
    (noted : ∀ u ∈ notes, u ≠ .null) (befriended : ∀ u ∈ friends, InForm toCard "to_card" u) :
    InForm toCard "to_card" (personOf name alive friends notes) := by
  have objects : ∀ u ∈ friends, u ≠ .null := fun u hu => by
    cases befriended u hu
    simp
  refine .intro (q := cardPlan) rfl ?_ ?_ ?_ ?_ ?_ <;>
    simp only [cardPlan, cardPairs, passing, List.map_cons, List.map_nil, List.forall_mem_cons]
  · intro name
    simp only [List.mem_cons]
    tauto
  · simp [Json.find?_cons, Carries, PropertyAction.isElementWise]
  · simpa [Json.find?_cons, Carried, Carries, PropertyAction.isElementWise] using ⟨objects, noted⟩
  · simpa [Json.find?_cons, Carried, Carries, PropertyAction.isElementWise] using
      fun _ _ _ _ _ _ => ⟨_, rfl⟩
  · simpa [Json.find?_cons, Carried, Carries, PropertyAction.isElementWise] using befriended

/-- Ada has a friend, who is gone. -/
def ada : Json := personOf "Ada" true [personOf "Bob" false [] []] [.str "keen"]

/-- Ada goes onto a card and comes back. -/
theorem mirrored_round_trip_of_ada :
    (Mirrors toCard toPerson fun m m' => m = "to_card" ∧ m' = "to_person") ∧
    InForm toCard toCard.method ada ∧ ada.isUnrepeated = true ∧
    ((toCard.map ada).result = .ok () ∧ (toPerson.map (toCard.map ada).state).result = .ok () ∧
      ada.same (toPerson.map (toCard.map ada).state).state = true) := by
  have bob : InForm toCard "to_card" (personOf "Bob" false [] []) :=
    personOf_inForm _ _ (fun u hu => by cases hu) fun u hu => by cases hu
  have form : InForm toCard toCard.method ada :=
    personOf_inForm _ _ (by simp) (List.forall_mem_singleton.mpr bob)
  have unrepeated : ada.isUnrepeated = true := by decide +kernel
  exact ⟨mirrors_cards, form, unrepeated, mirrored_round_trip mirrors_cards ⟨rfl, rfl⟩ form unrepeated⟩

end CompiledMapping

end BeanMapping
