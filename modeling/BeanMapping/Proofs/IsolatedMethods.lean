import BeanMapping.Compiled
import BeanMapping.Proofs.Batch
import BeanMapping.Proofs.NestingDepth
import BeanMapping.Proofs.SeenShapes

/-!
# Methods of a batch are isolated

The methods of a batch go over one cache of shapes, which may have been filled before, by whatever
generators with the same types and the same singular forms (`FilledFor`), for methods that were accepted or
rejected half-way. Such a cache is faithful, so it shows what the empty one shows; and a generator that plans
a method leaves what is seen as it was. An emitter that forgets emits each method as if it were the first.
So each method comes to what it comes to alone.

Results:
* **`FilledFor.faithful`**: what generators fill is faithful;
* **`attempts_of_forgetful`**: the attempts of a run come to what the methods come to alone, by induction on
  the methods;
* **`batch_is_isolated`**: the outcomes of a batch that is compiled are those of its methods alone.
-/

namespace BeanMapping

namespace Generator

open Narrated CompiledMapping

variable {g : Generator} {declared ms : List MappingMethod} {m : MappingMethod} {ε α : Type}
  {emit : Emitter ε α} {shapes : ShapeCache} {w : Workshop ε}

/-! ## Filled caches -/

/-- **A cache that generators have filled**, all of them with the same types and the same singular forms:
with planning, generating or a batch, whatever it came to. -/
inductive FilledFor (types : Registry) (overrides : NameMap String) : ShapeCache → Prop
  | empty : FilledFor types overrides .empty
  | plan {g : Generator} (types_eq : g.types = types) (overrides_eq : g.config.singularOverrides = overrides)
      (declared : List MappingMethod) (m : MappingMethod) {shapes : ShapeCache}
      (filled : FilledFor types overrides shapes) :
      FilledFor types overrides ((g.plan declared m).run shapes).state
  | generate {g : Generator} (types_eq : g.types = types)
      (overrides_eq : g.config.singularOverrides = overrides) {ε α : Type} (emit : Emitter ε α)
      (declared : List MappingMethod) (m : MappingMethod) {w : Workshop ε}
      (filled : FilledFor types overrides w.shapes) :
      FilledFor types overrides ((g.generate emit declared m).run w).state.shapes
  | batch {g : Generator} (types_eq : g.types = types)
      (overrides_eq : g.config.singularOverrides = overrides) {ε α : Type} (emit : Emitter ε α)
      (methods : List MappingMethod) {w : Workshop ε} (filled : FilledFor types overrides w.shapes) :
      FilledFor types overrides ((g.generateAll emit methods).run w).state.shapes

/-- **What generators fill is faithful.** -/
theorem FilledFor.faithful {types : Registry} {overrides : NameMap String}
    (h : FilledFor types overrides shapes) : shapes.Faithful types ⟨overrides⟩ := by
  induction h with
  | empty => exact ShapeCache.faithful_empty
  | plan types_eq overrides_eq declared m _ ih =>
    subst types_eq overrides_eq
    exact keeps_plan (Planner.keepsCaches_faithful _) _ ih
  | generate types_eq overrides_eq emit declared m _ ih =>
    subst types_eq overrides_eq
    exact keeps_generate (Planner.keepsCaches_faithful _) _ ih
  | batch types_eq overrides_eq emit methods _ ih =>
    subst types_eq overrides_eq
    exact keeps_generateAll (fun _ => Planner.keepsCaches_faithful _) _ ih

/-- A faithful cache shows what the empty one shows. -/
theorem view_of_faithful (h : g.Faithful shapes) : g.view shapes = g.view .empty := by
  funext t
  exact h.introspect_eq.trans g.faithful_empty.introspect_eq.symm

/-! ## Alone -/

/-- What a method comes to alone: over no shapes, with an emitter that remembers `e`. -/
def alone (g : Generator) (emit : Emitter ε α) (e : ε) (declared : List MappingMethod)
    (m : MappingMethod) : Except Report α :=
  ((g.generate emit declared m).run ⟨.empty, e⟩).result

/-- **The emitter forgets**: what it comes to does not depend on what it remembers. -/
def Forgetful (emit : Emitter ε α) : Prop :=
  ∀ m v e e', ((emit m v).run e).result = ((emit m v).run e').result

/-- Compiling forgets. -/
theorem forgetful_compile (converters : ConverterTable) :
    Forgetful (compile converters : Emitter ε CompiledMapping) := by
  intro m v e e'
  unfold compile
  dsimp only
  split
  · rfl
  · rfl

/-- What a method comes to depends on what the cache shows, and on nothing that an emitter forgets. -/
theorem generate_result_eq_alone (forgetful : Forgetful emit)
    (view : g.view w.shapes = g.view .empty) (e : ε) :
    ((g.generate emit declared m).run w).result = g.alone emit e declared m := by
  have planned : ((g.plan declared m).run w.shapes).result = ((g.plan declared m).run .empty).result :=
    plan_result_eq_of_view view
  unfold alone
  cases fresh : ((g.plan declared m).run .empty).result with
  | error r =>
    rw [(generate_of_unplanned (w := ⟨.empty, e⟩) fresh).1,
      (generate_of_unplanned (planned.trans fresh)).1]
  | ok v =>
    rw [(generate_of_planned (w := ⟨.empty, e⟩) fresh).1, (generate_of_planned (planned.trans fresh)).1]
    exact forgetful m v _ _

/-- **The attempts of a run come to what the methods come to alone**: by induction on the methods, over a
cache that goes on showing the same. -/
theorem attempts_of_forgetful (declared : List MappingMethod) (forgetful : Forgetful emit) (e : ε) :
    ∀ (ms : List MappingMethod) (w : Workshop ε), g.view w.shapes = g.view .empty →
      ((g.attempts emit declared ms w).map fun a => (a.method, a.outcome)) =
        ms.map fun m => (m, g.alone emit e declared m)
  | [], _, _ => rfl
  | m :: rest, w, view => by
    have left : g.view ((g.generate emit declared m).run w).state.shapes = g.view .empty :=
      keeps_generate (I := fun shapes => g.view shapes = g.view .empty)
        (fun _ _ seen => (Introspection.introspect_cacheAfter _ _ _ _).trans seen) w view
    have others := attempts_of_forgetful declared forgetful e rest _ left
    have first : (g.attempt emit declared w m).outcome = g.alone emit e declared m :=
      generate_result_eq_alone forgetful view e
    unfold attempts
    rw [List.map_cons, List.map_cons, others, first]
    rfl

/-! ## Batches -/

/-- The entry of a method among the failures, if it was rejected. -/
def rejection? (m : MappingMethod) : Except Report α → Option (String × Report)
  | .ok _ => none
  | .error r => some (m.name, r)

theorem generated_map (outcome : MappingMethod → Except Report α) (ms : List MappingMethod) :
    Batch.generated (ms.map fun m => (m, outcome m)) = ms.filterMap fun m => (outcome m).toOption :=
  List.filterMap_map

theorem failures_map (outcome : MappingMethod → Except Report α) (ms : List MappingMethod) :
    Batch.failures (ms.map fun m => (m, outcome m)) = ms.filterMap fun m => rejection? m (outcome m) := by
  unfold Batch.failures
  rw [List.filterMap_map]
  refine List.filterMap_congr fun m _ => ?_
  rw [Function.comp_apply]
  cases outcome m with
  | ok a => rfl
  | error r => rfl

/-- Each outcome is generated or a failure. -/
theorem length_generated_add_failures (batch : Batch α) :
    batch.generated.length + batch.failures.length = batch.length := by
  unfold Batch.generated Batch.failures
  induction batch with
  | nil => rfl
  | cons o rest ih =>
    rcases o with ⟨m, r | a⟩ <;>
      simp only [List.filterMap_cons, Except.toOption, List.length_cons] at ih ⊢ <;> omega

/-- **Methods of a batch do not influence each other.** Over a cache that was filled by generators with the
same types and the same singular forms, a batch that is compiled lists for each of its methods what the
method comes to alone, with the same methods declared: over no shapes, and with a new emitter. What was
generated and what failed hold each of these outcomes once, in the order of the methods. -/
theorem batch_is_isolated {σ : Type} {w : Workshop σ}
    (filled : FilledFor g.types g.config.singularOverrides w.shapes) (converters : ConverterTable) (new : σ)
    (ms : List MappingMethod) :
    ∃ batch, ((g.generateAll (compile converters) ms).run w).result = .ok batch ∧
      batch = (ms.map fun m => (m, g.alone (compile converters) new ms m)) ∧
      batch.generated = (ms.filterMap fun m => (g.alone (compile converters) new ms m).toOption) ∧
      batch.failures = (ms.filterMap fun m => rejection? m (g.alone (compile converters) new ms m)) ∧
      batch.generated.length + batch.failures.length = ms.length := by
  have outcomes := attempts_of_forgetful ms (forgetful_compile converters) new ms w
    (view_of_faithful filled.faithful)
  refine ⟨_, (generateAll_result ms w).trans (congrArg Except.ok outcomes), rfl, generated_map _ ms,
    failures_map _ ms, ?_⟩
  rw [length_generated_add_failures, List.length_map]

/-! ### Shelves -/

/-- A generator for shelves by which no method may be nested. -/
def bareShelves : Generator where
  types := shelves.types
  config := { shelves.config with maxNestingDepth := 1 }
  book := .empty
  valid := rfl

/-- Maps an item. -/
def mapItem : MappingMethod where
  name := "item_to_dto"
  sourceType := ⟨"Item"⟩
  targetType := ⟨"ItemDto"⟩

/-- Maps a shelf into something that is not known. -/
def loseShelf : MappingMethod where
  name := "shelf_to_nowhere"
  sourceType := ⟨"Shelf"⟩
  targetType := ⟨"Nowhere"⟩

/-- What is left when a shelf may not be planned, as its boxes cannot be nested. -/
def leftShapes : Narration Report Event ShapeCache VerifiedPlan := (bareShelves.plan [] mapShelf).run .empty

/-- What a method for shelves comes to alone. -/
def shelfAlone (m : MappingMethod) : Except Report CompiledMapping :=
  shelves.alone (compile .empty) () [mapShelf, loseShelf, mapItem] m

/-- The shapes of a rejected method, and a rejected method between two others, make no difference. -/
theorem batch_is_isolated_on_shelves :
    leftShapes.result.isOk = false ∧ leftShapes.state.size = 2 ∧
    ∃ batch, ((shelves.generateAll (compile .empty) [mapShelf, loseShelf, mapItem]).run
        (⟨leftShapes.state, ()⟩ : Workshop Unit)).result = .ok batch ∧
      batch = [mapShelf, loseShelf, mapItem].map (fun m => (m, shelfAlone m)) ∧
      batch.map (fun o => (o.1.name, o.2.isOk)) =
        [("shelf_to_dto", true), ("shelf_to_nowhere", false), ("item_to_dto", true)] := by
  have filled : FilledFor shelves.types shelves.config.singularOverrides leftShapes.state :=
    .plan (g := bareShelves) rfl rfl [] mapShelf .empty
  obtain ⟨batch, result, outcomes, -⟩ := batch_is_isolated (g := shelves)
    (w := (⟨leftShapes.state, ()⟩ : Workshop Unit)) filled .empty () [mapShelf, loseShelf, mapItem]
  refine ⟨by decide +kernel, by decide +kernel, batch, result, outcomes, ?_⟩
  rw [outcomes]
  decide +kernel

end Generator

end BeanMapping
