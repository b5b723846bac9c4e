import BeanMapping.Proofs.MethodNames
import BeanMapping.Proofs.ShapeViews
import BeanMapping.Proofs.Writing

/-!
# Runs into existing targets

A run into a target that exists writes each planned property for which the source has a value, and
nothing else. What a property does to its own member (`WritesValue`) is what it has done there when the
whole run ends, for the other properties have other names (`KeepsMembers`).

A mapping runs the plan that its table has under the name of the root. This is the plan of the root
unless a derived method has that name; then the plan of the derived method is run in its place.

Results:
* **`applyAll_keeps`**: what the properties of a plan leave of a target, however the run ends;
* **`map_into_keeps_target`**: what a compiled root leaves of a target;
* `map_into_runs_other`: a root with the name of a method that is derived for types of another module.
-/

namespace BeanMapping

namespace CompiledMapping

open Narrated

variable {c : CompiledMapping} {plan q : MappingPlan} {x : PlannedProperty MappingPlan} {v : Json}
  {r : Except ExecutionError Unit} {source s t u : Members} {name : String}

/-! ## One property -/

/-- The items of an array; another value has none. -/
def itemsOf : Json → List Json
  | .arr items => items
  | _ => []

/-- **The array that was there is followed by results of the first elements**, in their order; by those of
all elements where the run succeeds. -/
def Appended (c : CompiledMapping) (x : PlannedProperty MappingPlan) (v : Json)
    (r : Except ExecutionError Unit) (xs : List Json) (after : Members) : Prop :=
  ∃ ws, Json.find? after x.target.name = some (.arr (xs ++ ws)) ∧
    ws.map .ok <+: (itemsOf v).map (c.converted x.conversion) ∧
    (r = .ok () → ∃ items, v = .arr items ∧ ws.map .ok = items.map (c.converted x.conversion))

/-- **The member is replaced by the value that is written, or is as it was**; the latter only where the
run fails. -/
def Replaced (c : CompiledMapping) (x : PlannedProperty MappingPlan) (v : Json)
    (r : Except ExecutionError Unit) (before after : Members) : Prop :=
  (Json.find? after x.target.name = Json.find? before x.target.name ∧ r ≠ .ok ()) ∨
    ∃ w, c.written x v = .ok w ∧ Json.find? after x.target.name = some w

/-- What a run that ends in `r` does to the member of a property for which the source has a value. -/
structure WritesValue (c : CompiledMapping) (x : PlannedProperty MappingPlan) (v : Json)
    (r : Except ExecutionError Unit) (before after : Members) : Prop where
  appended : x.action.appends = true → ∀ xs,
    Json.find? before x.target.name = some (.arr xs) → c.Appended x v r xs after
  replaced : x.action.appends = false → c.Replaced x v r before after

/-- A run that fails before a property leaves its member as it was. -/
theorem WritesValue.of_untouched (failed : r ≠ .ok ())
    (same : Json.find? t x.target.name = Json.find? s x.target.name) : c.WritesValue x v r s t := by
  refine ⟨fun _ xs held => ?_, fun _ => Or.inl ⟨same, failed⟩⟩
  refine ⟨[], ?_, List.nil_prefix, fun done => absurd done failed⟩
  rw [same, held, List.append_nil]

/-- What was written stays when the run goes on with other members. -/
theorem WritesValue.later (h : c.WritesValue x v (.ok ()) s t)
    (same : Json.find? u x.target.name = Json.find? t x.target.name) : c.WritesValue x v r s u := by
  refine ⟨fun appends xs held => ?_, fun replaces => ?_⟩
  · obtain ⟨ws, found, isPrefix, all⟩ := h.appended appends xs held
    exact ⟨ws, same.trans found, isPrefix, fun _ => all rfl⟩
  · rcases h.replaced replaces with ⟨-, failed⟩ | ⟨w, written, found⟩
    · exact absurd rfl failed
    · exact Or.inr ⟨w, written, same.trans found⟩

/-- What is written does not depend on other members. -/
theorem WritesValue.after (h : c.WritesValue x v r t u)
    (same : Json.find? t x.target.name = Json.find? s x.target.name) : c.WritesValue x v r s u := by
  refine ⟨fun appends xs held => h.appended appends xs (same.trans held), fun replaces => ?_⟩
  exact (h.replaced replaces).imp_left fun untouched => ⟨untouched.1.trans same, untouched.2⟩

theorem opened_of_array {xs : List Json} (held : Json.find? s name = some (.arr xs)) :
    opened name s = s := by
  unfold opened
  rw [held]

/-- **A property writes its value**, however it ends. -/
theorem apply_writes (c : CompiledMapping) (plan : MappingPlan) (x : PlannedProperty MappingPlan)
    {depth : Nat} (h : v.depth < depth) (s : Members) :
    ∃ r t, (c.apply (c.below depth) plan x v h).EndsIn s r t ∧ SameBut x.target.name s t ∧
      c.WritesValue x v r s t := by
  have kept : SameBut x.target.name s ((c.apply (c.below depth) plan x v h).run s).state :=
    sameBut_apply h s (SameBut.refl _ s)
  refine ⟨_, _, ⟨rfl, rfl⟩, kept, fun appends xs held => ?_, fun replaces => ?_⟩
  · have same := opened_of_array held
    rcases apply_appends c plan h appends (same ▸ held) with
      ⟨items, found, result, state⟩ | ⟨e, found, result, state⟩
    · obtain ⟨isPrefix, all⟩ := c.convertedUntil_prefix x.conversion items
      have array : v = .arr items := eq_arr_of_elementsOf found
      rw [result, state]
      refine ⟨(c.convertedUntil x.conversion items).1, Json.find?_set_self _ _ _, ?_, fun done => ?_⟩
      · rw [array]
        exact isPrefix
      · exact ⟨items, array, all done⟩
    · rw [result, state, same]
      exact ⟨[], by rw [held, List.append_nil], List.nil_prefix, fun done => by cases done⟩
  · rcases apply_replaces c plan h replaces s with ⟨w, written, result, state⟩ | ⟨e, -, result, state⟩
    · rw [state]
      exact Or.inr ⟨w, written, Json.find?_set_self _ _ _⟩
    · rw [result, state]
      exact Or.inl ⟨rfl, fun done => by cases done⟩

/-! ## All properties -/

/-- **What a run of properties that ends in `r` leaves of the members of a target.** -/
structure KeepsMembers (c : CompiledMapping) (xs : List (PlannedProperty MappingPlan))
    (source : Members) (r : Except ExecutionError Unit) (before after : Members) : Prop where
  /-- Only the properties for which the source has a value are written. -/
  frame : ∀ name, (∀ x ∈ xs, x.target.name = name → ∀ v, ¬ HasValue source x v) →
    Json.find? after name = Json.find? before name
  writes : ∀ x ∈ xs, ∀ v, HasValue source x v → c.WritesValue x v r before after

/-- **The properties of a plan keep the members of a target**, as they have different names: by induction
on the properties, of which the first fails or the rest goes on where it ends. -/
theorem applyAll_keeps (c : CompiledMapping) (plan : MappingPlan) :
    ∀ (xs : List (PlannedProperty MappingPlan)) (s : Members), (xs.map (·.target.name)).Nodup →
      ∃ r t, (c.applyAll plan source (c.below _) xs).EndsIn s r t ∧ c.KeepsMembers xs source r s t
  | [], s, _ => by
    refine ⟨_, _, endsIn_pure () s, fun _ _ => rfl, fun x mem => ?_⟩
    exact absurd mem List.not_mem_nil
  | x :: rest, s, distinct => by
    rw [List.map_cons, List.nodup_cons] at distinct
    have apart : ∀ y ∈ rest, y.target.name ≠ x.target.name := fun y hy same =>
      distinct.1 (List.mem_map.mpr ⟨y, hy, same⟩)
    unfold applyAll
    rcases exists_hasValue_or source x with ⟨v, value⟩ | absent
    · obtain ⟨hd, first_eq⟩ : ∃ hd, c.applyFrom plan source (c.below _) x =
          c.apply (c.below _) plan x v hd := value.applyFrom_eq
      obtain ⟨r, t, first, kept, writes⟩ := c.apply_writes plan x hd s
      rw [← first_eq] at first
      cases r with
      | error e =>
        refine ⟨_, _, first.bind_error _, fun name other => ?_, fun y hy w hw => ?_⟩
        · refine kept name fun same => ?_
          exact other x List.mem_cons_self same.symm v value
        · rcases List.mem_cons.mp hy with rfl | hy
          · exact value.unique hw ▸ writes
          · exact .of_untouched (fun done => by cases done) (kept _ (apart y hy))
      | ok _ =>
        obtain ⟨r, u, others, keeps⟩ := applyAll_keeps c plan rest t distinct.2
        have untouched : Json.find? u x.target.name = Json.find? t x.target.name :=
          keeps.frame _ fun y hy same => absurd same (apart y hy)
        refine ⟨r, u, first.bind others, fun name other => ?_, fun y hy w hw => ?_⟩
        · rw [keeps.frame name fun y hy => other y (List.mem_cons_of_mem x hy)]
          refine kept name fun same => ?_
          exact other x List.mem_cons_self same.symm v value
        · rcases List.mem_cons.mp hy with rfl | hy
          · exact (value.unique hw ▸ writes).later untouched
          · exact (keeps.writes y hy w hw).after (kept _ (apart y hy))
    · have first : (c.applyFrom plan source (c.below _) x).EndsIn s (.ok ()) s := by
        rw [applyFrom_of_absent absent]
        exact endsIn_tell _ s
      obtain ⟨r, u, others, keeps⟩ := applyAll_keeps c plan rest s distinct.2
      refine ⟨r, u, first.bind others, fun name other => ?_, fun y hy w hw => ?_⟩
      · exact keeps.frame name fun y hy => other y (List.mem_cons_of_mem x hy)
      · rcases List.mem_cons.mp hy with rfl | hy
        · exact absurd hw (absent w)
        · exact keeps.writes y hy w hw

/-! ## Targets -/

/-- **What a run of a plan leaves of a target.** -/
structure KeepsTarget (c : CompiledMapping) (q : MappingPlan) (source target : Json) : Prop where
  written : ∀ fields members, source = .obj fields → targetMembers? target = some members →
    ∃ after, (c.mapInto source target).state = .obj after ∧
      c.KeepsMembers q.properties fields (c.mapInto source target).result members after
  refused : ((∀ fields, source ≠ .obj fields) ∨ targetMembers? target = none) →
    (∃ e, (c.mapInto source target).result = .error e) ∧ (c.mapInto source target).state = target

/-- **A mapping keeps its target as the plan that it runs prescribes.** -/
theorem mapInto_keeps_target (found : c.plans.find? c.method = some q)
    (distinct : (q.properties.map (·.target.name)).Nodup) (source target : Json) :
    c.KeepsTarget q source target := by
  constructor
  · rintro fields members rfl held
    obtain ⟨r, t, ends, keeps⟩ := c.applyAll_keeps q q.properties members distinct
    have whole := overTarget_endsIn (a := q.targetType) held ends
    rw [← run_eq_of_found found] at whole
    obtain ⟨result, state⟩ := whole
    refine ⟨t, state, ?_⟩
    unfold mapInto
    rw [result]
    exact keeps
  · intro unfit
    have refused : ∃ e, (c.run c.method source).EndsIn target (.error e) target := by
      by_cases object : ∃ fields, source = .obj fields
      · obtain ⟨fields, rfl⟩ := object
        rw [run_eq_of_found found]
        exact overTarget_refuses (unfit.resolve_left fun other => other fields rfl)
      · have plain : ∀ fields, source ≠ .obj fields := fun fields same => object ⟨fields, same⟩
        exact ⟨_, run_endsIn_of_plain found plain target⟩
    obtain ⟨e, result, state⟩ := refused
    exact ⟨⟨e, result⟩, state⟩

end CompiledMapping

/-! ## Roots -/

namespace Planner.PlannedTree

open MappingPlan (embedded)

variable {p : Planner} {root : MappingMethod} {plan : MappingPlan}

/-- **The table has the plan of the root under its name exactly when no derived method has this name.** -/
theorem root_found_iff (h : p.PlannedTree root plan) :
    (PlanTable.ofPlan plan).find? plan.method = some plan ↔
      ∀ a ∈ plan.derivedPairs, derivedName a.1 a.2 ≠ plan.method := by
  have table : (PlanTable.ofPlan plan).find? plan.method =
      ((embedded plan.properties).find? fun q => q.method == plan.method).or (some plan) := by
    rw [PlanTable.find?_ofPlan, MappingPlan.postorder_eq_embedded, List.find?_append]
    simp
  rw [table]
  constructor
  · intro found a ha same
    obtain ⟨q, hq, rfl⟩ := List.mem_map.mp ha
    cases shadow : (embedded plan.properties).find? fun q => q.method == plan.method with
    | none =>
      have other := List.find?_eq_none.mp shadow q hq
      rw [h.method_eq hq, same] at other
      exact other (beq_self_eq_true _)
    | some r =>
      rw [shadow] at found
      obtain rfl := Option.some.inj found
      exact h.pair_ne (List.mem_of_find?_eq_some shadow) rfl
  · intro apart
    have free : (embedded plan.properties).find? (fun q => q.method == plan.method) = none := by
      rw [List.find?_eq_none]
      intro q hq same
      rw [beq_iff_eq, h.method_eq hq] at same
      exact apart _ (List.mem_map_of_mem hq) same
    rw [free]
    rfl

end Planner.PlannedTree

namespace Generator

open CompiledMapping (compile)

variable {g : Generator} {declared : List MappingMethod} {m : MappingMethod} {shapes : ShapeCache}
  {v : VerifiedPlan} {c : CompiledMapping} {converters : ConverterTable} {σ : Type} {s : σ}

/-- **What a compiled root leaves of a target**, whatever the source and the target are and however the run
ends: what the plan that is run prescribes. This is the plan of the root exactly when no method of the tree
is derived with the name of the root, and else that of a derived method. -/
theorem map_into_keeps_target (introspected : shapes.Introspected)
    (planned : ((g.plan declared m).run shapes).result = .ok v)
    (compiled : ((compile converters m v).run s).result = .ok c) :
    ∃ q ∈ v.plan.nodes, c.plans.find? c.method = some q ∧
      (q = v.plan ↔ ∀ a ∈ v.plan.derivedPairs, Planner.derivedName a.1 a.2 ≠ m.name) ∧
      ∀ source target, c.KeepsTarget q source target := by
  obtain ⟨w, gives, -⟩ := plan_gives (Narrated.gives_of_result planned)
  have tree := (accepted_of_gives (Narrated.gives_of_result planned)).planned
  have sound : ShapeView.Sound ((g.planner declared m).view ⟨shapes, []⟩) := introspected.sound _ _
  have distinct := Planner.distinct_targets_of_gives sound rfl gives
  have name_eq : v.plan.method = m.name := by
    obtain ⟨xs, root⟩ := tree.root_eq
    rw [root]
    rfl
  have found_iff := tree.root_found_iff
  obtain ⟨q, hq, found⟩ := PlanTable.exists_find?_ofPlan (MappingPlan.mem_nodes_self v.plan)
  rw [found, name_eq, Option.some.injEq] at found_iff
  obtain rfl := CompiledMapping.compile_gives (Narrated.gives_of_result compiled)
  refine ⟨q, hq, name_eq ▸ found, found_iff, fun source target => ?_⟩
  exact CompiledMapping.mapInto_keeps_target (name_eq ▸ found) (distinct q hq) source target

/-! ### Pets of a shop with a mother in a zoo -/

/-- Pets of a shop have a label, tags and a mother, which is a pet of a zoo and has a name. -/
def shop : Generator where
  types := .ofList [
    ⟨⟨"shop::Pet"⟩, .bean, [], [.getter "getLabel" ⟨"String"⟩, .getter "getTags" ⟨"Vec<String>"⟩,
      .getter "getMother" ⟨"zoo::Pet"⟩]⟩,
    ⟨⟨"shop::PetDto"⟩, .bean, [], [.writer "setLabel" ⟨"String"⟩, .writer "addTag" ⟨"String"⟩,
      .writer "setMother" ⟨"zoo::PetDto"⟩]⟩,
    ⟨⟨"zoo::Pet"⟩, .bean, [], [.getter "getName" ⟨"String"⟩]⟩,
    ⟨⟨"zoo::PetDto"⟩, .bean, [], [.writer "setName" ⟨"String"⟩]⟩]
  config := .default
  book := .empty
  valid := GeneratorConfig.fault?_default

/-- Updates a pet of the shop. -/
def updateShopPet (name : String) : MappingMethod where
  name := name
  sourceType := ⟨"shop::Pet"⟩
  targetType := ⟨"shop::PetDto"⟩
  updatesTarget := true

/-- What the generator makes of the update of a pet. -/
def shopPlanned (name : String) : Except Report VerifiedPlan :=
  ((shop.plan [] (updateShopPet name)).run .empty).result

/-- What is compiled for the update of a pet. -/
def shopCompiled (name : String) (v : VerifiedPlan) : Except Report CompiledMapping :=
  ((compile .empty (updateShopPet name) v).run ()).result

/-- Whether no method is derived with the name. -/
def isFree (p : MappingPlan) (name : String) : Bool :=
  p.derivedPairs.all fun a => Planner.derivedName a.1 a.2 != name

/-- A pet is updated by the plan of the root if the name of the root is its own. -/
theorem map_into_keeps_shop_pet : ∃ v c, shopPlanned "update_pet" = .ok v ∧
    shopCompiled "update_pet" v = .ok c ∧ v.plan.properties.length = 3 ∧
    c.plans.find? c.method = some v.plan ∧ ∀ source target, c.KeepsTarget v.plan source target := by
  obtain ⟨v, planned, evaluated⟩ := Narrated.exists_ok_of_any
    (show (shopPlanned "update_pet").toOption.any (fun v => v.plan.properties.length == 3 &&
      (isFree v.plan "update_pet" && (shopCompiled "update_pet" v).isOk)) = true by decide +kernel)
  simp only [Bool.and_eq_true, beq_iff_eq] at evaluated
  obtain ⟨three, free, compiles⟩ := evaluated
  obtain ⟨c, compiled⟩ := Narrated.isOk_eq_true_iff.mp compiles
  refine ⟨v, c, planned, compiled, three, ?_⟩
  unfold shopPlanned at planned
  unfold shopCompiled at compiled
  obtain ⟨q, -, found, own_iff, keeps⟩ :=
    map_into_keeps_target ShapeCache.introspected_empty planned compiled
  have own : q = v.plan := own_iff.mpr fun a ha => bne_iff_ne.mp (List.all_eq_true.mp free a ha)
  exact ⟨own ▸ found, own ▸ keeps⟩

/-- A labelled pet of the shop, with a mother. -/
def labelledPet : Members := [("label", .str "Rex"), ("mother", .obj [("name", .str "Ada")])]

/-- Whether a property passes the label on as it is. -/
def passesLabel (x : PlannedProperty MappingPlan) : Bool :=
  x.source.name == "label" && x.target.name == "label" && x.action == .assign && x.conversion.isNone

/-- Whether the run succeeds and the pet has the label still. -/
def leavesLabel (n : Narration ExecutionError Step Json Unit) (label : String) : Bool :=
  n.result.isOk && match n.state with
    | .obj fields => match Json.find? fields "label" with
      | some (.str text) => text == label
      | _ => false
    | _ => false

theorem label_of_leavesLabel {n : Narration ExecutionError Step Json Unit} {label : String}
    {fields : Members} (h : leavesLabel n label = true) (state : n.state = .obj fields) :
    n.result = .ok () ∧ Json.find? fields "label" = some (.str label) := by
  unfold leavesLabel at h
  rw [Bool.and_eq_true, state] at h
  obtain ⟨done, held⟩ := h
  obtain ⟨⟨⟩, done⟩ := Narrated.isOk_eq_true_iff.mp done
  refine ⟨done, ?_⟩
  dsimp only at held
  split at held
  · rename_i text found
    rw [found, beq_iff_eq.mp held]
  · cases held

/-- **A root with the name that is derived for pets of a zoo does not write its target.** The plan for these
is run in its place, and the label stays although the run succeeds. -/
theorem map_into_runs_other : ∃ v c, shopPlanned "map_pet_to_pet_dto" = .ok v ∧
    shopCompiled "map_pet_to_pet_dto" v = .ok c ∧
    ¬ c.KeepsTarget v.plan (.obj labelledPet) (.obj [("label", .str "old")]) := by
  obtain ⟨v, planned, evaluated⟩ := Narrated.exists_ok_of_any
    (show (shopPlanned "map_pet_to_pet_dto").toOption.any (fun v =>
      v.plan.properties.any passesLabel &&
        (shopCompiled "map_pet_to_pet_dto" v).toOption.any fun c =>
          leavesLabel (c.mapInto (.obj labelledPet) (.obj [("label", .str "old")])) "old") = true by
      decide +kernel)
  rw [Bool.and_eq_true, List.any_eq_true] at evaluated
  obtain ⟨⟨x, hx, passes⟩, evaluated⟩ := evaluated
  obtain ⟨c, compiled, stays⟩ := Narrated.exists_ok_of_any evaluated
  refine ⟨v, c, planned, compiled, fun keeps => ?_⟩
  obtain ⟨after, state, members⟩ := keeps.written labelledPet _ rfl rfl
  obtain ⟨done, held⟩ := label_of_leavesLabel stays state
  unfold passesLabel at passes
  simp only [Bool.and_eq_true, beq_iff_eq, Option.isNone_iff_eq_none] at passes
  obtain ⟨⟨⟨source_eq, target_eq⟩, action_eq⟩, conversion_eq⟩ := passes
  have value : CompiledMapping.HasValue labelledPet x (.str "Rex") := by
    unfold CompiledMapping.HasValue
    rw [source_eq]
    exact ⟨rfl, by simp⟩
  have replaces : x.action.appends = false := by rw [action_eq]; rfl
  rcases (members.writes x hx _ value).replaced replaces with ⟨-, failed⟩ | ⟨w, written, found⟩
  · exact failed done
  · have whole : x.action.isElementWise = false := by rw [action_eq]; rfl
    rw [CompiledMapping.written_of_whole whole, conversion_eq] at written
    obtain rfl : Json.str "Rex" = w := Except.ok.inj written
    rw [target_eq, held] at found
    exact absurd (Option.some.inj found) (by simp)

end Generator

end BeanMapping
