import BeanMapping.Proofs.Batch
import BeanMapping.Proofs.SharedMethods

/-!
# What rejected emissions leave behind

A derived method counts as rendered before its body is, and its name stays when the emission is rejected
afterwards. A later method of the batch that needs it then calls a function that no output defines.

Names are never taken back (`Grows`), so a rendering leaves the names as they were only where it does
not come to a derived method that is new (`names_unchanged_iff`). In a batch a name is entered by one
attempt, and the callee of a call is defined exactly when that attempt succeeds or a root has its name
(`defined_iff`).

Results:
* **`rejections_leave_traces_iff`**: exactly which renderings leave the names as they were, and which
  callees of a batch are defined;
* `callee_undefined_after_rejection`: a child that is rejected after the method for its pet is entered,
  and an owner whose function calls that method.
-/

namespace BeanMapping

/-! ## Names that are remembered -/

namespace Narrated

variable {ε ω α β : Type} {names : List String}

/-- The computation takes back no name. -/
def Grows (x : Narrated ε ω (List String) α) : Prop := ∀ names, names ⊆ (x.run names).state

theorem grows_pure (a : α) : (pure a : Narrated ε ω (List String) α).Grows :=
  fun names => List.Subset.refl names

theorem grows_ofResult (r : Except ε α) : (ofResult r : Narrated ε ω (List String) α).Grows := by
  intro names
  cases r <;> exact List.Subset.refl names

/-- What a computation leaves is not taken back by what follows. -/
theorem state_subset_bind {x : Narrated ε ω (List String) α}
    {f : α → Narrated ε ω (List String) β} (h : ∀ a, (f a).Grows) :
    (x.run names).state ⊆ ((x >>= f).run names).state := by
  cases hx : (x.run names).result with
  | error e =>
    rw [run_bind_error hx]
    exact List.Subset.refl _
  | ok a =>
    rw [run_bind_ok hx]
    exact h a _

theorem grows_bind {x : Narrated ε ω (List String) α} {f : α → Narrated ε ω (List String) β}
    (hx : x.Grows) (hf : ∀ a, (f a).Grows) : (x >>= f).Grows :=
  fun names => List.Subset.trans (hx names) (state_subset_bind hf)

theorem grows_mapM {f : α → Narrated ε ω (List String) β} {l : List α} (h : ∀ a ∈ l, (f a).Grows) :
    (l.mapM f).Grows := by
  induction l with
  | nil => exact grows_pure []
  | cons a l ih =>
    rw [List.mapM_cons]
    have rest := ih fun b hb => h b (List.mem_cons_of_mem a hb)
    exact grows_bind (h a List.mem_cons_self) fun _ => grows_bind rest fun _ => grows_pure _

/-- What leaves the state alone after a computation leaves it as the computation does. -/
theorem state_bind {σ : Type} {x : Narrated ε ω σ α} {f : α → Narrated ε ω σ β} {s : σ}
    (h : ∀ a t, ((f a).run t).state = t) : ((x >>= f).run s).state = (x.run s).state := by
  cases hx : (x.run s).result with
  | error e => rw [run_bind_error hx]
  | ok a =>
    rw [run_bind_ok hx]
    exact h a _

end Narrated

namespace Code

namespace Rendering

variable {v : VerifiedPlan} {c p : MappingPlan} {cs ds : List MappingPlan}
  {names names' : RenderedNames}

/-- A derived method that is rendered is not rendered again. -/
theorem treeFunctions_run_of_mem (mem : c.method ∈ names) :
    (treeFunctions v c).run names = ⟨.ok [], names, []⟩ := by
  unfold treeFunctions
  rw [Narrated.run_bind_ok (a := names) rfl, if_pos (List.contains_iff_mem.mpr mem)]
  rfl

/-- The functions of a derived method that is new: those that it embeds, and its own. -/
def newFunctions (v : VerifiedPlan) (c : MappingPlan) : Generation RenderedNames (List Function) := do
  let inner ← nestedFunctions v c
  let own ← Narrated.ofResult (function v c)
  return inner ++ [own]

/-- A derived method that is new is entered before its functions are rendered. -/
theorem treeFunctions_state_of_free (free : c.method ∉ names) :
    ((treeFunctions v c).run names).state = ((newFunctions v c).run (c.method :: names)).state := by
  unfold treeFunctions
  rw [Narrated.run_bind_ok (a := names) rfl, if_neg fun h => free (List.contains_iff_mem.mp h)]
  rfl

theorem grows_newFunctions (h : (nestedFunctions v c).Grows) : (newFunctions v c).Grows :=
  Narrated.grows_bind h fun _ =>
    Narrated.grows_bind (Narrated.grows_ofResult _) fun _ => Narrated.grows_pure _

theorem grows_treeFunctions (h : (nestedFunctions v c).Grows) : (treeFunctions v c).Grows := by
  intro names
  by_cases mem : c.method ∈ names
  · rw [treeFunctions_run_of_mem mem]
    exact List.Subset.refl names
  · rw [treeFunctions_state_of_free mem]
    exact List.Subset.trans (List.subset_cons_self _ names) (grows_newFunctions h _)

/-- **Rendering takes back no name.** -/
theorem grows_nestedFunctions (v : VerifiedPlan) (p : MappingPlan) : (nestedFunctions v p).Grows := by
  induction p using MappingPlan.inductionOn with
  | step p ih =>
    rw [nestedFunctions_eq, map_eq_pure_bind]
    exact Narrated.grows_bind (Narrated.grows_mapM fun c hc => grows_treeFunctions (ih c hc))
      fun _ => Narrated.grows_pure _

theorem mem_state_of_free (free : c.method ∉ names) :
    c.method ∈ ((treeFunctions v c).run names).state := by
  rw [treeFunctions_state_of_free free]
  exact grows_newFunctions (grows_nestedFunctions v c) _ List.mem_cons_self

/-- Rendering trees leaves the names as they were exactly when the derived methods at their roots are
rendered already. -/
theorem mapM_names_unchanged_iff :
    (∀ name, name ∈ ((cs.mapM (treeFunctions v)).run names).state ↔ name ∈ names) ↔
      ∀ c ∈ cs, c.method ∈ names := by
  induction cs with
  | nil => exact iff_of_true (fun _ => Iff.rfl) fun c hc => absurd hc List.not_mem_nil
  | cons c cs ih =>
    rw [List.mapM_cons, List.forall_mem_cons]
    by_cases mem : c.method ∈ names
    · rw [Narrated.run_bind_ok (congrArg Narration.result (treeFunctions_run_of_mem mem)),
        treeFunctions_run_of_mem mem, Narrated.state_bind fun _ _ => rfl, ih]
      exact (and_iff_right mem).symm
    · -- the name of `c` is entered, and what follows takes back no name
      refine iff_of_false (fun unchanged => mem ((unchanged c.method).mp ?_)) fun all => mem all.1
      have rest : (cs.mapM (treeFunctions v)).Grows :=
        Narrated.grows_mapM fun c _ => grows_treeFunctions (grows_nestedFunctions v c)
      refine Narrated.state_subset_bind (fun fs => ?_) (mem_state_of_free mem)
      exact Narrated.grows_bind rest fun _ => Narrated.grows_pure _

theorem nestedFunctions_names_unchanged_iff :
    (∀ name, name ∈ ((nestedFunctions v p).run names).state ↔ name ∈ names) ↔
      ∀ c ∈ p.nested, c.method ∈ names := by
  rw [nestedFunctions_eq, map_eq_pure_bind, Narrated.state_bind fun _ _ => rfl]
  exact mapM_names_unchanged_iff

theorem render_state_of_no_root (m : MappingMethod) {r : Report}
    (none : function v v.plan = .error r) : ((render m v).run names).state = names := by
  unfold render
  rw [none, Narrated.run_bind_error (e := r) rfl]
  rfl

/-- The derived methods are rendered after the root, and whether the code is readable in the end changes
no name. -/
theorem render_state_of_root (m : MappingMethod) {f : Function} (root : function v v.plan = .ok f) :
    ((render m v).run names).state = ((nestedFunctions v v.plan).run names).state := by
  unfold render
  rw [root, Narrated.run_bind_ok (a := f) rfl]
  refine Narrated.state_bind fun nested t => ?_
  dsimp only
  split <;> rfl

/-- **A rendering leaves the names as they were exactly when it does not come to a derived method that
is new**: the function of the root is not rendered, or each derived method that the root calls first was
rendered before. -/
theorem names_unchanged_iff (m : MappingMethod) (v : VerifiedPlan) (names : RenderedNames) :
    (∀ name, name ∈ ((render m v).run names).state ↔ name ∈ names) ↔
      (∀ f, function v v.plan ≠ .ok f) ∨ ∀ c ∈ v.plan.nested, c.method ∈ names := by
  cases root : function v v.plan with
  | error r =>
    rw [render_state_of_no_root m root]
    exact iff_of_true (fun _ => Iff.rfl) (Or.inl fun f h => by cases h)
  | ok f =>
    rw [render_state_of_root m root, nestedFunctions_names_unchanged_iff]
    exact (or_iff_right fun none => none f rfl).symm

theorem grows_render (m : MappingMethod) (v : VerifiedPlan) : (render m v).Grows := by
  intro names
  cases root : function v v.plan with
  | error r =>
    rw [render_state_of_no_root m root]
    exact List.Subset.refl names
  | ok f =>
    rw [render_state_of_root m root]
    exact grows_nestedFunctions v v.plan names

/-- **What is rendered calls only derived methods of which the names are remembered**, as far as it holds
their plans. -/
theorem Renders.remembers (h : Renders names cs ds names') :
    (∀ c ∈ cs, c.method ∈ names') ∧ ∀ d ∈ ds, ∀ c ∈ d.nested, c.method ∈ names' := by
  induction h with
  | nil => exact ⟨fun c hc => absurd hc List.not_mem_nil, fun d hd => absurd hd List.not_mem_nil⟩
  | seen mem rest ih =>
    exact ⟨List.forall_mem_cons.mpr ⟨rest.names_iff.mpr (Or.inl mem), ih.1⟩, ih.2⟩
  | @fresh _ inner _ c _ below ds _ nested rest ihNested ihRest =>
    have kept : ∀ {name}, name ∈ inner → name ∈ _ := fun mem => rest.names_iff.mpr (Or.inl mem)
    have own : c.method ∈ inner := nested.names_iff.mpr (Or.inl List.mem_cons_self)
    refine ⟨List.forall_mem_cons.mpr ⟨kept own, ihRest.1⟩, ?_⟩
    rw [List.forall_mem_append, List.forall_mem_cons]
    exact ⟨fun d hd e he => kept (ihNested.2 d hd e he), fun e he => kept (ihNested.1 e he),
      ihRest.2⟩

end Rendering

end Code

/-! ## Batches -/

namespace Code

open Rendering (render)

/-- The emission of an attempt that succeeds. -/
def emission? (a : Attempt RenderedNames GeneratedCode) : Option Emission :=
  match a.planned, a.outcome with
  | .ok v, .ok code => some ⟨a.method, v, a.before, code⟩
  | _, _ => none

/-- The emissions of the attempts that succeed. -/
def emissions (as : List (Attempt RenderedNames GeneratedCode)) : List Emission :=
  as.filterMap emission?

/-- **The callees of derived methods are defined**: each derived method that some function calls is what
some function was rendered for. -/
def CalleesDefined (es : List Emission) : Prop :=
  ∀ e ∈ es, ∀ x n d, e.Calls x n d → ∃ e₀ d₀ f, Defines es d.method e₀ d₀ f

variable {g : Generator} {declared ms : List MappingMethod} {w : Workshop RenderedNames}
  {a : Attempt RenderedNames GeneratedCode} {e : Emission} {d : MappingPlan} {name : String}

/-- What is true of an attempt of a run: it is for a method that is not planned, and leaves the names as
they were, or for one that is planned and rendered. -/
theorem attempt_cases (ha : a ∈ g.attempts render declared ms w) :
    (∃ r, a.planned = .error r ∧ a.outcome = .error r ∧ a.after = a.before) ∨
      ∃ v shapes, a.planned = .ok v ∧ ((g.plan declared a.method).run shapes).result = .ok v ∧
        a.outcome = ((render a.method v).run a.before).result ∧
        a.after = ((render a.method v).run a.before).state := by
  obtain ⟨u, m, rfl⟩ := Generator.exists_attempt ha
  cases planned : ((g.plan declared m).run u.shapes).result with
  | error r =>
    exact Or.inl ⟨r, planned, Generator.generate_of_unplanned planned⟩
  | ok v =>
    exact Or.inr ⟨v, u.shapes, planned, planned, Generator.generate_of_planned planned⟩

/-- An attempt takes back no name. -/
theorem before_subset_after (ha : a ∈ g.attempts render declared ms w) : a.before ⊆ a.after := by
  rcases attempt_cases ha with ⟨r, -, -, after⟩ | ⟨v, shapes, -, -, -, after⟩
  · rw [after]
    exact List.Subset.refl _
  · rw [after]
    exact Rendering.grows_render a.method v a.before

/-- **An attempt that succeeds has an emission**, which is rendered from the names before the attempt to
those after it. -/
theorem exists_emission {code : GeneratedCode} (ha : a ∈ g.attempts render declared ms w)
    (ok : a.outcome = .ok code) : ∃ e, emission? a = some e ∧ e.code = code ∧ Emitted g e ∧
      e.before = a.before ∧ (render e.method e.verified).Gives e.before e.code a.after := by
  rcases attempt_cases ha with ⟨r, -, rejected, -⟩ | ⟨v, shapes, planned, accepted, outcome, after⟩
  · exact absurd (ok.symm.trans rejected) (by simp)
  · have rendered : (render a.method v).Gives a.before code a.after :=
      ⟨outcome.symm.trans ok, after.symm⟩
    refine ⟨⟨a.method, v, a.before, code⟩, ?_, rfl, emitted_of_render accepted rendered, rfl, rendered⟩
    unfold emission?
    rw [planned, ok]

/-- The emission of an attempt is of one that succeeds. -/
theorem exists_code_of_emission? (h : emission? a = some e) : ∃ code, a.outcome = .ok code := by
  unfold emission? at h
  split at h
  · exact ⟨_, ‹_›⟩
  · cases h

theorem mem_emissions_iff {as : List (Attempt RenderedNames GeneratedCode)} :
    e ∈ emissions as ↔ ∃ a ∈ as, emission? a = some e :=
  List.mem_filterMap

/-- What is true of an attempt and its emission. -/
theorem emitted_of_emission? (ha : a ∈ g.attempts render declared ms w) (h : emission? a = some e) :
    Emitted g e ∧ e.before = a.before ∧ (render e.method e.verified).Gives e.before e.code a.after := by
  obtain ⟨code, ok⟩ := exists_code_of_emission? h
  obtain ⟨e', h', -, emitted⟩ := exists_emission ha ok
  obtain rfl := Option.some.inj (h.symm.trans h')
  exact emitted

/-- The names that an attempt enters are those of the derived methods that are rendered with it, if it
succeeds. -/
theorem enters_iff (ha : a ∈ g.attempts render declared ms w) (h : emission? a = some e) :
    a.Enters name ↔ ∃ d, e.Renders d ∧ d.method = name := by
  obtain ⟨-, before, rendered⟩ := emitted_of_emission? ha h
  obtain ⟨ds, hds, -⟩ := Rendering.functions_of_render rendered
  unfold Attempt.Enters
  rw [hds.names_iff, ← before]
  constructor
  · rintro ⟨mem | ⟨d, hd, method_eq⟩, free⟩
    · exact absurd mem free
    · exact ⟨d, (Emission.renders_iff hds).mpr hd, method_eq⟩
  · rintro ⟨d, renders, rfl⟩
    have hd := (Emission.renders_iff hds).mp renders
    exact ⟨Or.inr ⟨d, hd, rfl⟩, hds.free d hd⟩

/-- **A function is rendered for a name exactly when an attempt that succeeds enters it, or a root has
it.** -/
theorem defined_iff : (∃ e d f, Defines (emissions (g.attempts render declared ms w)) name e d f) ↔
    (∃ a ∈ g.attempts render declared ms w, (∃ code, a.outcome = .ok code) ∧ a.Enters name) ∨
      ∃ e ∈ emissions (g.attempts render declared ms w), e.verified.plan.method = name := by
  have defines : ∀ {e d}, e ∈ emissions (g.attempts render declared ms w) → e.Includes d →
      d.method = name → ∃ f, Defines (emissions (g.attempts render declared ms w)) name e d f := by
    intro e d he included method_eq
    obtain ⟨a, ha, h⟩ := mem_emissions_iff.mp he
    obtain ⟨f, -, function_eq⟩ := (emitted_of_emission? ha h).1.exists_function included
    exact ⟨f, he, included, method_eq, function_eq⟩
  constructor
  · rintro ⟨e, d, f, he, rfl | renders, method_eq, -⟩
    · exact Or.inr ⟨e, he, method_eq⟩
    · obtain ⟨a, ha, h⟩ := mem_emissions_iff.mp he
      exact Or.inl ⟨a, ha, exists_code_of_emission? h, (enters_iff ha h).mpr ⟨d, renders, method_eq⟩⟩
  · rintro (⟨a, ha, ⟨code, ok⟩, enters⟩ | ⟨e, he, method_eq⟩)
    · obtain ⟨e, h, -⟩ := exists_emission ha ok
      obtain ⟨d, renders, method_eq⟩ := (enters_iff ha h).mp enters
      have he := mem_emissions_iff.mpr ⟨a, ha, h⟩
      exact ⟨e, d, defines he (Or.inr renders) method_eq⟩
    · exact ⟨e, e.verified.plan, defines he (Or.inl rfl) method_eq⟩

/-- Through a new emitter, some attempt enters the name of each derived method that is called by the
reference that holds its plan. -/
theorem exists_enters_of_calls {shapes : ShapeCache} {x : PlannedProperty MappingPlan}
    {n : NestedMapping MappingPlan} (he : e ∈ emissions (g.attempts render declared ms ⟨shapes, []⟩))
    (call : e.Calls x n d) (holds : n.plan = some d) :
    ∃ a ∈ g.attempts render declared ms ⟨shapes, []⟩, a.Enters d.method := by
  obtain ⟨a, ha, h⟩ := mem_emissions_iff.mp he
  obtain ⟨-, -, rendered⟩ := emitted_of_emission? ha h
  obtain ⟨ds, hds, -⟩ := Rendering.functions_of_render rendered
  obtain ⟨q, included, hx⟩ := call.caller
  have nested : d ∈ q.nested :=
    MappingPlan.mem_nested_iff.mpr ⟨n, MappingPlan.mem_references_iff.mpr ⟨x, hx, call.reference⟩, holds⟩
  have remembered : d.method ∈ a.after := by
    rcases included with rfl | renders
    · exact hds.remembers.1 d nested
    · exact hds.remembers.2 q ((Emission.renders_iff hds).mp renders) d nested
  have chained := g.chained_attempts render declared ms ⟨shapes, []⟩
  rcases chained.mem_or_enters a ha remembered with start | enters
  · exact absurd start List.not_mem_nil
  · exact enters

/-- The output of a batch is the code of its emissions. -/
theorem generated_eq : Batch.generated
    ((g.attempts render declared ms w).map fun a => (a.method, a.outcome)) =
      (emissions (g.attempts render declared ms w)).map Emission.code := by
  unfold Batch.generated emissions
  rw [List.filterMap_map, List.map_filterMap]
  refine List.filterMap_congr fun a ha => ?_
  show a.outcome.toOption = (emission? a).map Emission.code
  cases outcome : a.outcome with
  | error r =>
    cases h : emission? a with
    | none => rfl
    | some e =>
      obtain ⟨code, ok⟩ := exists_code_of_emission? h
      exact absurd (outcome.symm.trans ok) (by simp)
  | ok code =>
    obtain ⟨e, h, rfl, -⟩ := exists_emission ha outcome
    rw [h]
    rfl

/-- **What rejected emissions leave behind.** A rendering leaves the names as they were exactly when the
function of the root is not rendered or each derived method that the root calls first was rendered
before. The output of a batch is the code of the emissions that succeed; the callee of a call in it is
defined exactly when an attempt that succeeds enters its name or a root has it. Where the call is by the
reference that holds the plan of the callee, that is unless a rejected attempt enters its name and no
root has it. -/
theorem rejections_leave_traces_iff (g : Generator) (methods : List MappingMethod)
    (shapes : ShapeCache) {as : List (Attempt RenderedNames GeneratedCode)}
    (run : g.attempts render methods methods ⟨shapes, []⟩ = as) :
    (∀ m v names, (∀ name, name ∈ ((render m v).run names).state ↔ name ∈ names) ↔
      (∀ f, Rendering.function v v.plan ≠ .ok f) ∨ ∀ c ∈ v.plan.nested, c.method ∈ names) ∧
    (∃ batch, ((g.generateAll render methods).run ⟨shapes, []⟩).result = .ok batch ∧
      batch.generated = (emissions as).map Emission.code) ∧
    ∀ e ∈ emissions as, ∀ x n d, e.Calls x n d →
      ((∃ e₀ d₀ f, Defines (emissions as) d.method e₀ d₀ f) ↔
        (∃ a ∈ as, (∃ code, a.outcome = .ok code) ∧ a.Enters d.method) ∨
          ∃ e₀ ∈ emissions as, e₀.verified.plan.method = d.method) ∧
      (n.plan = some d → ((∃ e₀ d₀ f, Defines (emissions as) d.method e₀ d₀ f) ↔
        (∀ a ∈ as, (∃ r, a.outcome = .error r) → ¬ a.Enters d.method) ∨
          ∃ e₀ ∈ emissions as, e₀.verified.plan.method = d.method)) := by
  subst run
  refine ⟨Rendering.names_unchanged_iff, ⟨_, Generator.generateAll_result methods ⟨shapes, []⟩,
    generated_eq⟩, fun e he x n d call => ⟨defined_iff, fun holds => ?_⟩⟩
  rw [defined_iff]
  refine or_congr_left ⟨?_, fun none => ?_⟩
  · -- one attempt enters the name, so a rejected one does not where one that succeeds does
    rintro ⟨a, ha, ⟨code, ok⟩, enters⟩ b hb ⟨r, rejected⟩ enters'
    have chained := g.chained_attempts render methods methods ⟨shapes, []⟩
    obtain rfl := chained.enters_unique (fun a ha => before_subset_after ha) a ha b hb enters enters'
    exact absurd (ok.symm.trans rejected) (by simp)
  · obtain ⟨a, ha, enters⟩ := exists_enters_of_calls he call holds
    cases outcome : a.outcome with
    | error r => exact absurd enters (none a ha ⟨r, outcome⟩)
    | ok code => exact ⟨a, ha, ⟨code, outcome⟩, enters⟩

/-! ### A child and an owner with a pet -/

/-- Owners with a pet, and children with a pet and a toy, of which the getter is named by a word of the
language. -/
def families : Generator where
  types := .ofList [
    ⟨⟨"Pet"⟩, .bean, [], [.getter "getName" ⟨"String"⟩]⟩,
    ⟨⟨"PetDto"⟩, .bean, [], [.writer "setName" ⟨"String"⟩]⟩,
    ⟨⟨"Toy"⟩, .bean, [], [.getter "type" ⟨"String"⟩]⟩,
    ⟨⟨"ToyDto"⟩, .bean, [], [.writer "setType" ⟨"String"⟩]⟩,
    ⟨⟨"Child"⟩, .bean, [], [.getter "getPet" ⟨"Pet"⟩, .getter "getToy" ⟨"Toy"⟩]⟩,
    ⟨⟨"ChildDto"⟩, .bean, [], [.writer "setPet" ⟨"PetDto"⟩, .writer "setToy" ⟨"ToyDto"⟩]⟩,
    ⟨⟨"Owner"⟩, .bean, [], [.getter "getPet" ⟨"Pet"⟩]⟩,
    ⟨⟨"OwnerDto"⟩, .bean, [], [.writer "setPet" ⟨"PetDto"⟩]⟩]
  config := .default
  book := .empty
  valid := GeneratorConfig.fault?_default

/-- Maps a child. -/
def mapChild : MappingMethod where
  name := "child_to_dto"
  sourceType := ⟨"Child"⟩
  targetType := ⟨"ChildDto"⟩

/-- The attempts for a batch of families, through a new emitter. -/
def familyAttempts (methods : List MappingMethod) : List (Attempt RenderedNames GeneratedCode) :=
  families.attempts render methods methods ⟨.empty, []⟩

/-- The name of the method that maps a pet. -/
def mapPet : String := "map_pet_to_pet_dto"

/-- A function of a batch of families calls the method that maps a pet. -/
theorem exists_calls_of_any {methods : List MappingMethod}
    (h : (emissions (familyAttempts methods)).any callsMapPet = true) :
    ∃ e ∈ emissions (familyAttempts methods), ∃ x n d, e.Calls x n d ∧ d.method = mapPet := by
  obtain ⟨e, he, calls⟩ := List.any_eq_true.mp h
  obtain ⟨a, ha, emitted⟩ := mem_emissions_iff.mp he
  exact ⟨e, he, exists_calls_of_callsMapPet (emitted_of_emission? ha emitted).1 calls⟩

/-- The owner is mapped first, and the method for its pet is rendered with it. -/
theorem callee_defined_before_rejection :
    (∃ a ∈ familyAttempts [copyOwner, mapChild], ∃ r, a.outcome = .error r) ∧
      ∃ e ∈ emissions (familyAttempts [copyOwner, mapChild]), ∃ x n d, e.Calls x n d ∧
        ∃ e₀ d₀ f, Defines (emissions (familyAttempts [copyOwner, mapChild])) d.method e₀ d₀ f := by
  have evaluated : ((emissions (familyAttempts [copyOwner, mapChild])).any callsMapPet &&
      (familyAttempts [copyOwner, mapChild]).any (fun a => !a.outcome.isOk) &&
      (familyAttempts [copyOwner, mapChild]).any fun a =>
        a.outcome.isOk && decide (a.Enters mapPet)) = true := by decide +kernel
  rw [Bool.and_eq_true, Bool.and_eq_true] at evaluated
  obtain ⟨⟨calls, rejected⟩, entered⟩ := evaluated
  obtain ⟨a, ha, rejected⟩ := List.any_eq_true.mp rejected
  obtain ⟨b, hb, entered⟩ := List.any_eq_true.mp entered
  rw [Bool.not_eq_true', Narrated.isOk_eq_false_iff] at rejected
  rw [Bool.and_eq_true, Narrated.isOk_eq_true_iff, decide_eq_true_iff] at entered
  obtain ⟨e, he, x, n, d, call, method_eq⟩ := exists_calls_of_any calls
  obtain ⟨-, -, callees⟩ := rejections_leave_traces_iff families [copyOwner, mapChild] .empty rfl
  have defined := (callees e he x n d call).1.mpr (Or.inl ⟨b, hb, method_eq ▸ entered⟩)
  exact ⟨⟨a, ha, rejected⟩, e, he, x, n, d, call, defined⟩

/-- **A rejected emission leaves a trace**: the child is mapped first, and rejected after the method for
its pet is entered; the owner calls that method, and no function is rendered for it. -/
theorem callee_undefined_after_rejection :
    (∃ m v names r, ((render m v).run names).result = .error r ∧
      ∃ name, name ∈ ((render m v).run names).state ∧ name ∉ names) ∧
    ¬ CalleesDefined (emissions (familyAttempts [mapChild, copyOwner])) := by
  have evaluated : ((emissions (familyAttempts [mapChild, copyOwner])).any callsMapPet &&
      (familyAttempts [mapChild, copyOwner]).any (fun a =>
        !a.outcome.isOk && decide (a.Enters mapPet)) &&
      ((familyAttempts [mapChild, copyOwner]).all (fun a =>
        !a.outcome.isOk || !decide (a.Enters mapPet)) &&
      (emissions (familyAttempts [mapChild, copyOwner])).all fun e =>
        e.verified.plan.method != mapPet)) = true := by decide +kernel
  rw [Bool.and_eq_true, Bool.and_eq_true, Bool.and_eq_true] at evaluated
  obtain ⟨⟨calls, entered⟩, unentered, roots⟩ := evaluated
  constructor
  · obtain ⟨a, ha, entered⟩ := List.any_eq_true.mp entered
    rw [Bool.and_eq_true, Bool.not_eq_true', Narrated.isOk_eq_false_iff, decide_eq_true_iff] at entered
    obtain ⟨⟨r, rejected⟩, after, before⟩ := entered
    rcases attempt_cases ha with ⟨_, -, -, same⟩ | ⟨v, _, -, -, outcome, state⟩
    · exact absurd (same ▸ after) before
    · exact ⟨a.method, v, a.before, r, outcome ▸ rejected, mapPet, state ▸ after, before⟩
  · intro all
    obtain ⟨e, he, x, n, d, call, method_eq⟩ := exists_calls_of_any calls
    have defined := all e he x n d call
    rw [method_eq] at defined
    rcases defined_iff.mp defined with ⟨a, ha, ok, enters⟩ | ⟨e₀, he₀, named⟩
    · have none := List.all_eq_true.mp unentered a ha
      rw [Narrated.isOk_eq_true_iff.mpr ok, decide_eq_true enters] at none
      exact Bool.false_ne_true none
    · have other := List.all_eq_true.mp roots e₀ he₀
      rw [named] at other
      exact absurd other (by decide)

end Code

end BeanMapping
