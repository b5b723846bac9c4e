import BeanMapping.Proofs.Accepted
import BeanMapping.Proofs.IntrospectedShapes

/-!
# Faithful caches

A cache of shapes is faithful when it holds for each of its types what introspection without a cache
gives. Over a faithful cache, introspection is introspection without one.

A planner changes its cache by introspection alone. So what introspection keeps of a cache
(`Planner.KeepsCaches`), every computation of a generator keeps, be it rejected or not; and the caches of a
generator that began with the empty one are faithful.

Results:
* **`ShapeCache.Faithful.introspect_eq`**: introspection over a faithful cache;
* **`Generator.keeps_plan`**, **`Generator.keeps_generateEach`**: planning and generating keep of a cache
  what introspection keeps;
* **`Generator.faithful_plan`**, **`Generator.faithful_generateEach`**: they keep a cache faithful.
-/

namespace BeanMapping

/-! ## Faithful caches -/

namespace ShapeCache

open Introspection

/-- **A cache is faithful**: it holds for each of its types what introspection gives. -/
def Faithful (r : Registry) (i : Inflector) (c : ShapeCache) : Prop :=
  ∀ t s, c.find? t = some s → shapeOf r i t = .ok s

variable {r : Registry} {i : Inflector} {c : ShapeCache} {t : TypeName}

theorem faithful_empty : Faithful r i .empty := fun _ _ h => by cases h

/-- **Over a faithful cache introspection gives what it gives without one.** -/
theorem Faithful.introspect_eq (h : Faithful r i c) : introspect r i c t = shapeOf r i t := by
  unfold introspect
  split
  · rename_i s found
    exact (h t s found).symm
  · rfl

theorem Faithful.cacheAfter (h : Faithful r i c) : Faithful r i (cacheAfter r i c t) := by
  unfold Introspection.cacheAfter
  rw [h.introspect_eq]
  split
  · rename_i s shape
    intro u v found
    rw [Keyed.find?_insertIfAbsent, Option.or_eq_some_iff] at found
    rcases found with found | ⟨-, found⟩
    · exact h u v found
    · split at found
      · rename_i same
        obtain rfl := Option.some.inj found
        rw [← same, typeName_of_shapeOf shape]
        exact shape
      · cases found
  · exact h

end ShapeCache

/-! ## Planning -/

namespace Planner

open Narrated

variable {p : Planner} {m : MappingMethod} {frames : List Frame} {deeper : Nat}
  {nested : TypeName → TypeName → Plans (Option (NestedMapping MappingPlan))} {supply : Supplier}

/-- The introspection of a type keeps the property of caches. -/
def KeepsCaches (p : Planner) (I : ShapeCache → Prop) : Prop :=
  ∀ c t, I c → I (Introspection.cacheAfter p.types p.inflector c t)

/-- The shapes that a planner keeps are those that introspection gives. -/
def Faithful (p : Planner) (s : PlanState) : Prop := s.shapes.Faithful p.types p.inflector

theorem keepsCaches_faithful (p : Planner) :
    p.KeepsCaches (ShapeCache.Faithful p.types p.inflector) := fun _ _ h => h.cacheAfter

section Caches

variable {I : ShapeCache → Prop} (keeps : p.KeepsCaches I)
include keeps

theorem keeps_introspect (t : TypeName) : (p.introspect t).Keeps fun s => I s.shapes := by
  unfold introspect
  refine keeps_bind keeps_get fun s => ?_
  refine keeps_bind (keeps_tell _) fun _ => ?_
  exact keeps_bind (keeps_modify fun s h => keeps s.shapes t h) fun _ => keeps_ofExcept _

theorem keeps_introspectTarget (t : TypeName) :
    (p.introspectTarget t).Keeps fun s => I s.shapes := by
  unfold introspectTarget
  exact keeps_bind (keeps_introspect keeps t) fun shape => keeps_ofExcept _

omit keeps in
theorem keeps_correlate (source target : BeanShape) (o : PropertyOptions) :
    (p.correlate source target o).Keeps fun s => I s.shapes := by
  unfold correlate
  exact keeps_bind (keeps_tell _) fun _ => keeps_ofExcept _

omit keeps in
theorem keeps_follow (h : ∀ source target, (nested source target).Keeps fun s => I s.shapes)
    (property : String) (source target : TypeName) (route : Route) :
    (Resolution.follow nested property source target route).Keeps fun s => I s.shapes := by
  unfold Resolution.follow
  split
  · exact keeps_pure _
  · exact keeps_pure _
  · exact keeps_pure _
  · exact keeps_pure _
  · refine keeps_bind (h source target) fun answer => ?_
    cases answer with
    | some n => exact keeps_bind (keeps_tell _) fun _ => keeps_pure _
    | none => exact keeps_reject _

omit keeps in
theorem keeps_planPair (h : ∀ source target, (nested source target).Keeps fun s => I s.shapes)
    (pair : CorrelatedProperty) : (p.planPair nested m pair).Keeps fun s => I s.shapes := by
  unfold planPair
  refine keeps_bind (keeps_tell _) fun _ => ?_
  split
  · exact keeps_pure _
  · refine keeps_bind (keeps_within ?_) fun conversion => ?_
    · unfold Resolution.resolve
      refine keeps_bind (keeps_ofExcept _) fun target => ?_
      exact keeps_bind (keeps_tell _) fun _ => keeps_follow h _ _ _ _
    · exact keeps_bind (keeps_tell _) fun _ => keeps_pure _

omit keeps in
theorem keeps_planPairs (h : ∀ source target, (nested source target).Keeps fun s => I s.shapes) :
    ∀ pairs : List CorrelatedProperty, (p.planPairs nested m pairs).Keeps fun s => I s.shapes
  | [] => keeps_pure _
  | pair :: rest => by
    unfold planPairs
    refine keeps_bind (keeps_planPair h pair) fun first => ?_
    exact keeps_bind (keeps_planPairs h rest) fun others => keeps_pure _

omit keeps in
/-- Of the searches for a mapping only the derivation of one changes the shapes. -/
theorem keeps_nestedMapping (h : ∀ frames m, (supply frames m).Keeps fun s => I s.shapes)
    (source target : TypeName) :
    (p.nestedMapping supply frames source target).Keeps fun s => I s.shapes := by
  unfold nestedMapping
  split
  · exact keeps_pure _
  · split
    · exact keeps_pure _
    · split
      · exact keeps_bind (keeps_tell _) fun _ => keeps_pure _
      · refine keeps_bind keeps_get fun s => ?_
        split
        · exact keeps_bind (keeps_tell _) fun _ => keeps_pure _
        · refine keeps_bind (h _ _) fun answer => ?_
          cases answer with
          | none => exact keeps_pure _
          | some plan => exact keeps_bind (keeps_modify fun s h => h) fun _ => keeps_pure _

theorem keeps_planWith (h : ∀ frames m, (supply frames m).Keeps fun s => I s.shapes) :
    (p.planWith supply frames m).Keeps fun s => I s.shapes := by
  unfold planWith
  refine keeps_bind (keeps_introspect keeps _) fun source => ?_
  refine keeps_bind (keeps_introspectTarget keeps _) fun target => ?_
  refine keeps_bind (keeps_correlate source target _) fun pairs => ?_
  refine keeps_bind (keeps_planPairs (keeps_nestedMapping h) pairs) fun properties => ?_
  exact keeps_bind (keeps_tell _) fun _ => keeps_pure _

/-- Derived plans are planned over the same shapes: by induction on how much deeper methods may be
nested. -/
theorem keeps_derive : ∀ (deeper : Nat) (frames : List Frame) (m : MappingMethod),
    (p.derive deeper frames m).Keeps fun s => I s.shapes
  | 0, _, _ => by
    unfold derive
    exact keeps_bind (keeps_tell _) fun _ => keeps_pure _
  | deeper + 1, frames, m => by
    unfold derive
    exact keeps_within (keeps_map _ (keeps_planWith keeps (keeps_derive deeper)))

theorem keeps_planRoot (root : MappingMethod) : (p.planRoot root).Keeps fun s => I s.shapes :=
  keeps_planWith keeps (keeps_derive keeps _)

end Caches

end Planner

/-! ## Generators -/

namespace Generator

open Narrated

variable {g : Generator} {declared : List MappingMethod} {m : MappingMethod} {shapes : ShapeCache}
  {ε α : Type} {emit : Emitter ε α}

/-- The shapes of a generator are those that introspection gives. -/
def Faithful (g : Generator) (shapes : ShapeCache) : Prop :=
  shapes.Faithful g.types ⟨g.config.singularOverrides⟩

/-- A generator begins with a faithful cache. -/
theorem faithful_empty (g : Generator) : g.Faithful .empty := ShapeCache.faithful_empty

/-- Planning a method keeps of the cache what introspection keeps, be the method accepted or rejected. -/
theorem keeps_plan {I : ShapeCache → Prop} (keeps : (g.planner declared m).KeepsCaches I) :
    (g.plan declared m).Keeps I := by
  unfold plan
  refine keeps_bind (keeps_within ?_) fun p => ?_
  · exact keeps_focus (Planner.keeps_planRoot keeps m) (fun s h => h) (fun t s h _ => h)
  · unfold Contract.verify
    refine keeps_bind (keeps_within (keeps_apart _ _)) fun _ => ?_
    exact keeps_bind (keeps_tell _) fun _ => keeps_pure _

/-- Generating a method keeps of the cache what planning it keeps: emission leaves the shapes alone. -/
theorem keeps_generate {I : ShapeCache → Prop} (keeps : (g.planner declared m).KeepsCaches I) :
    (g.generate emit declared m).Keeps fun w => I w.shapes := by
  unfold generate
  refine keeps_bind (keeps_focus (keeps_plan keeps) (fun w h => h) fun t w h _ => h) fun v => ?_
  exact keeps_focus (J := fun _ => True) (fun _ _ => trivial) (fun _ _ => trivial) fun t w _ h => h

/-- Generating methods keeps of the cache what introspection keeps, whichever of them are rejected. -/
theorem keeps_generateEach {I : ShapeCache → Prop}
    (keeps : ∀ m, (g.planner declared m).KeepsCaches I) (methods : List MappingMethod) :
    (g.generateEach emit declared methods).Keeps fun w => I w.shapes := by
  induction methods with
  | nil => exact keeps_pure _
  | cons m rest ih =>
    unfold generateEach
    refine keeps_bind (keeps_attempt (keeps_generate (keeps m))) fun outcome => ?_
    exact keeps_bind (keeps_tell _) fun _ => keeps_bind ih fun others => keeps_pure _

/-- A batch keeps of the cache what introspection keeps. -/
theorem keeps_generateAll {I : ShapeCache → Prop} {methods : List MappingMethod}
    (keeps : ∀ m, (g.planner methods m).KeepsCaches I) :
    (g.generateAll emit methods).Keeps fun w => I w.shapes := by
  unfold generateAll
  exact keeps_bind (keeps_generateEach keeps methods) fun batch =>
    keeps_bind (keeps_tell _) fun _ => keeps_pure _

/-- **Planning a method keeps the cache faithful**, be the method accepted or rejected. -/
theorem faithful_plan : (g.plan declared m).Keeps g.Faithful :=
  keeps_plan (Planner.keepsCaches_faithful _)

/-- **Generating methods keeps the cache faithful**, whichever of them are rejected. -/
theorem faithful_generateEach (methods : List MappingMethod) :
    (g.generateEach emit declared methods).Keeps fun w => g.Faithful w.shapes :=
  keeps_generateEach (fun _ => Planner.keepsCaches_faithful _) methods

end Generator

end BeanMapping
