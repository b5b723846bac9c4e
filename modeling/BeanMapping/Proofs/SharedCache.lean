import BeanMapping.Proofs.FaithfulCaches

/-!
# A shared cache makes no difference

Introspectors with the same types and the same singular forms may share a cache of shapes. They are asked
one after the other, each for the shape of a type that is to be read or to be written to (`Inquiry`). Each
answers over what the cache holds when it is asked (`Visit`), and leaves there the shape that it had to
build, also if the type turns out not to be writable.

The cache only grows (`find?_cacheAfter_of_some`), and it stays faithful. A visit stands between the
inquiries before it, which filled its cache, and those after it (`split_of_mem_visits`).

Results:
* **`find?_filledBy_iff`**: what is in the cache in the end was there in the beginning or was built on a
  visit;
* **`cache_is_transparent`**: over a cache that was empty in the beginning, every inquiry is answered as over
  the empty cache, and what is in the cache stays there.
-/

namespace BeanMapping

open Introspection

/-- One who is asked for shapes: what is known about types, and about singular forms. -/
structure Introspector where
  types : Registry
  inflector : Inflector

/-- A question for the shape of a type. -/
structure Inquiry where
  introspector : Introspector
  typeName : TypeName
  /-- Whether the type is to be written to. -/
  writes : Bool

/-- An inquiry, and the cache over which it is made. -/
structure Visit where
  inquiry : Inquiry
  before : ShapeCache

namespace Inquiry

/-- The shape that can be built for the type, whatever is in a cache. -/
def shape (q : Inquiry) : Except Fault BeanShape :=
  shapeOf q.introspector.types q.introspector.inflector q.typeName

/-- The answer over a cache. -/
def answer (q : Inquiry) (c : ShapeCache) : Except Fault BeanShape :=
  if q.writes then introspectTarget q.introspector.types q.introspector.inflector c q.typeName
  else introspect q.introspector.types q.introspector.inflector c q.typeName

/-- The cache that the inquiry leaves. -/
def leaves (q : Inquiry) (c : ShapeCache) : ShapeCache :=
  cacheAfter q.introspector.types q.introspector.inflector c q.typeName

/-- The introspector has these types and these overrides. -/
def Shares (types : Registry) (overrides : NameMap String) (q : Inquiry) : Prop :=
  q.introspector.types = types ∧ q.introspector.inflector.overrides = overrides

end Inquiry

namespace Visit

/-- The answer of the visit. -/
def answer (v : Visit) : Except Fault BeanShape := v.inquiry.answer v.before

/-- The visit builds a shape: none is there for its type, and one can be built. -/
def Builds (v : Visit) : Prop :=
  v.before.find? v.inquiry.typeName = none ∧ ∃ s, v.inquiry.shape = .ok s

end Visit

namespace ShapeCache

/-- The cache after inquiries in turn. -/
def filledBy (c : ShapeCache) (qs : List Inquiry) : ShapeCache :=
  qs.foldl (fun c q => q.leaves c) c

/-- The visits of inquiries in turn. -/
def visits : ShapeCache → List Inquiry → List Visit
  | _, [] => []
  | c, q :: rest => ⟨q, c⟩ :: visits (q.leaves c) rest

variable {types : Registry} {overrides : NameMap String} {r : Registry} {i : Inflector}
  {c : ShapeCache} {t u : TypeName} {s : BeanShape} {q : Inquiry} {qs : List Inquiry} {v : Visit}

/-! ## One inquiry -/

/-- What is in a cache stays there. -/
theorem find?_cacheAfter_of_some (h : c.find? u = some s) : (cacheAfter r i c t).find? u = some s := by
  unfold cacheAfter
  split
  · rw [Keyed.find?_insertIfAbsent, h]
    rfl
  · exact h

/-- A faithful cache gains the shape of the type, if there is one. -/
theorem Faithful.find?_cacheAfter (h : Faithful r i c) (t u : TypeName) :
    (Introspection.cacheAfter r i c t).find? u =
      (c.find? u).or (if t = u then (shapeOf r i t).toOption else none) := by
  unfold Introspection.cacheAfter
  rw [h.introspect_eq]
  cases shape : shapeOf r i t with
  | error fault => simp [Except.toOption]
  | ok s => simp [Keyed.find?_insertIfAbsent, typeName_of_shapeOf shape, Except.toOption]

/-- Introspectors with the same types and overrides are alike. -/
theorem introspector_eq (shares : q.Shares types overrides) : q.introspector = ⟨types, ⟨overrides⟩⟩ := by
  obtain ⟨⟨_, ⟨_⟩⟩, _, _⟩ := q
  obtain ⟨rfl, rfl⟩ := shares
  rfl

theorem Faithful.leaves (h : Faithful types ⟨overrides⟩ c) (shares : q.Shares types overrides) :
    Faithful types ⟨overrides⟩ (q.leaves c) := by
  unfold Inquiry.leaves
  rw [introspector_eq shares]
  exact h.cacheAfter

/-- **Over a faithful cache an inquiry is answered as over the empty one.** -/
theorem Faithful.answer_eq (h : Faithful types ⟨overrides⟩ c) (shares : q.Shares types overrides) :
    q.answer c = q.answer .empty := by
  unfold Inquiry.answer introspectTarget
  rw [introspector_eq shares, h.introspect_eq, faithful_empty.introspect_eq]

/-- An inquiry is answered by the shape that can be built, if by any. -/
theorem Faithful.shape_of_answer (h : Faithful types ⟨overrides⟩ c) (shares : q.Shares types overrides)
    (answered : q.answer c = .ok s) : q.shape = .ok s := by
  unfold Inquiry.answer introspectTarget at answered
  unfold Inquiry.shape
  rw [introspector_eq shares] at answered ⊢
  rw [h.introspect_eq] at answered
  split at answered
  · cases built : shapeOf types ⟨overrides⟩ q.typeName with
    | error fault =>
      rw [built] at answered
      cases answered
    | ok s' =>
      rw [built] at answered
      change writable? q.typeName s' = .ok s at answered
      unfold writable? at answered
      split at answered
      · exact answered
      · cases answered
  · exact answered

/-- The shape that can be built is in the cache that an inquiry leaves. -/
theorem Faithful.find?_leaves (h : Faithful types ⟨overrides⟩ c) (shares : q.Shares types overrides)
    (shape : q.shape = .ok s) : (q.leaves c).find? q.typeName = some s := by
  unfold Inquiry.leaves
  unfold Inquiry.shape at shape
  rw [introspector_eq shares] at shape ⊢
  rw [h.find?_cacheAfter, if_pos rfl, shape]
  cases held : c.find? q.typeName with
  | none => rfl
  | some s' =>
    have same : (Except.ok s' : Except Fault BeanShape) = .ok s := (h _ _ held).symm.trans shape
    rw [Except.ok.inj same]
    rfl

/-! ## Inquiries in turn -/

/-- What is in a cache stays there, through all inquiries. -/
theorem find?_filledBy_of_some (h : c.find? t = some s) (qs : List Inquiry) :
    (c.filledBy qs).find? t = some s := by
  induction qs generalizing c with
  | nil => exact h
  | cons q rest ih => exact ih (find?_cacheAfter_of_some h)

theorem Faithful.filledBy (h : Faithful types ⟨overrides⟩ c) (shared : ∀ q ∈ qs, q.Shares types overrides) :
    Faithful types ⟨overrides⟩ (c.filledBy qs) := by
  induction qs generalizing c with
  | nil => exact h
  | cons q rest ih =>
    obtain ⟨first, others⟩ := List.forall_mem_cons.mp shared
    exact ih (h.leaves first) others

/-- **A visit is over what the inquiries before it have left**, and those after it go on from what it
leaves. -/
theorem split_of_mem_visits (mem : v ∈ c.visits qs) :
    ∃ earlier later, qs = earlier ++ v.inquiry :: later ∧ v.before = c.filledBy earlier ∧
      c.filledBy qs = (v.inquiry.leaves v.before).filledBy later := by
  induction qs generalizing c with
  | nil => cases mem
  | cons q rest ih =>
    rcases List.mem_cons.mp mem with rfl | mem
    · exact ⟨[], rest, rfl, rfl, rfl⟩
    · obtain ⟨earlier, later, rfl, before_eq, filled_eq⟩ := ih mem
      exact ⟨q :: earlier, later, rfl, before_eq, filled_eq⟩

/-- **What is in the cache in the end** was there in the beginning, or was built on a visit: by induction
on the inquiries, from any faithful cache. -/
theorem Faithful.find?_filledBy_iff (h : Faithful types ⟨overrides⟩ c)
    (shared : ∀ q ∈ qs, q.Shares types overrides) :
    (∃ s, (c.filledBy qs).find? t = some s) ↔
      (∃ s, c.find? t = some s) ∨ ∃ v ∈ c.visits qs, v.inquiry.typeName = t ∧ v.Builds := by
  induction qs generalizing c with
  | nil => simp [ShapeCache.filledBy, visits]
  | cons q rest ih =>
    obtain ⟨first, others⟩ := List.forall_mem_cons.mp shared
    have gained : (∃ s, (q.leaves c).find? t = some s) ↔
        (∃ s, c.find? t = some s) ∨ q.typeName = t ∧ Visit.Builds ⟨q, c⟩ := by
      unfold Visit.Builds Inquiry.leaves Inquiry.shape
      rw [introspector_eq first, h.find?_cacheAfter]
      cases held : c.find? t with
      | some s => simp
      | none =>
        by_cases own : q.typeName = t
        · subst own
          cases shapeOf types ⟨overrides⟩ q.typeName <;> simp [Except.toOption, held]
        · simp [own]
    have step : c.filledBy (q :: rest) = (q.leaves c).filledBy rest := rfl
    rw [step, ih (h.leaves first) others, gained, visits, List.exists_mem_cons_iff, or_assoc]

/-- **A shared cache is transparent.** Introspectors with the same types and the same overrides are asked
in turn over a cache that is empty in the beginning. Every answer, be it a shape or a fault, is the one over
the empty cache, and a shape that is answered is the one that the cache keeps. What is in the cache stays the
same to the end. In the end the cache holds the types for which a shape was built on some visit, and no
others. -/
theorem cache_is_transparent (shared : ∀ q ∈ qs, q.Shares types overrides) :
    (∀ v ∈ visits .empty qs, v.answer = v.inquiry.answer .empty ∧
      (∀ s, v.answer = .ok s → (filledBy .empty qs).find? v.inquiry.typeName = some s) ∧
      ∀ t s, v.before.find? t = some s → (filledBy .empty qs).find? t = some s) ∧
    ∀ t, (∃ s, (filledBy .empty qs).find? t = some s) ↔
      ∃ v ∈ visits .empty qs, v.inquiry.typeName = t ∧ v.Builds := by
  refine ⟨fun v mem => ?_, fun t => ?_⟩
  · obtain ⟨earlier, later, rfl, before_eq, filled_eq⟩ := split_of_mem_visits mem
    obtain ⟨before, others⟩ := List.forall_mem_append.mp shared
    have shares := (List.forall_mem_cons.mp others).1
    have faithful : Faithful types ⟨overrides⟩ v.before := by
      rw [before_eq]
      exact faithful_empty.filledBy before
    rw [filled_eq]
    refine ⟨faithful.answer_eq shares, fun s answered => ?_, fun t s held => ?_⟩
    · have shape := faithful.shape_of_answer shares answered
      exact find?_filledBy_of_some (faithful.find?_leaves shares shape) later
    · exact find?_filledBy_of_some (find?_cacheAfter_of_some held) later
  · rw [faithful_empty.find?_filledBy_iff shared]
    exact or_iff_right fun ⟨s, held⟩ => by cases held

/-! ### Pets and a diary that cannot be written -/

/-- Pets with a name, and a diary that can only be read. -/
def petTypes : Registry :=
  .ofList [⟨⟨"Pet"⟩, .bean, [], [.getter "getName" ⟨"String"⟩, .writer "setName" ⟨"String"⟩]⟩,
    ⟨⟨"Diary"⟩, .bean, [], [.getter "getPages" ⟨"i64"⟩]⟩]

/-- Two introspectors of pets are asked in turn: for what can be read, for a diary to write to, for a vector
that has no description, for a type that is not known, and for the first two types again. -/
def petInquiries : List Inquiry :=
  let first : Introspector := ⟨petTypes, ⟨.empty⟩⟩
  let second : Introspector := ⟨petTypes, ⟨.ofList []⟩⟩
  [⟨first, ⟨"Pet"⟩, false⟩, ⟨second, ⟨"Diary"⟩, true⟩, ⟨first, ⟨"Vec<Pet>"⟩, true⟩,
    ⟨second, ⟨"Nowhere"⟩, false⟩, ⟨first, ⟨"Diary"⟩, false⟩, ⟨second, ⟨"Pet"⟩, true⟩]

/-- The diary is refused as a target, but its shape was built and is there when it is asked for again. -/
theorem cache_is_transparent_for_pets :
    (∀ q ∈ petInquiries, q.Shares petTypes .empty) ∧
    (visits .empty petInquiries).map (fun v => v.answer.isOk) = [true, false, true, false, true, true] ∧
    (filledBy .empty petInquiries).items.map (·.typeName.text) = ["Pet", "Diary", "Vec<Pet>"] ∧
    (∀ v ∈ visits .empty petInquiries, v.answer = v.inquiry.answer .empty) ∧
    ∃ v ∈ visits .empty petInquiries, v.inquiry.typeName = ⟨"Diary"⟩ ∧ v.Builds := by
  have shared : ∀ q ∈ petInquiries, q.Shares petTypes .empty := by
    simp [petInquiries, Inquiry.Shares, NameMap.ofList]
  obtain ⟨alike, kept⟩ := cache_is_transparent shared
  refine ⟨shared, by decide +kernel, by decide +kernel, fun v mem => (alike v mem).1, (kept _).mp ?_⟩
  exact Option.isSome_iff_exists.mp (by decide +kernel)

end ShapeCache

end BeanMapping
