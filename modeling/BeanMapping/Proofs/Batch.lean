import BeanMapping.Generator
import BeanMapping.Proofs.Outcome

/-!
# Batches

The methods of a batch go through one emitter in turn. An `Attempt` is what happens for one of them: what
planning comes to, the outcome, and what the emitter remembers before and after.

Each attempt begins where the one before ended (`Chained`). Where the emitter remembers names and no
attempt takes one back, the names of a batch are accounted for by its attempts.

Results:
* **`generateAll_result`**: a batch lists the outcomes of its attempts;
* `generate_of_unplanned`, `generate_of_planned`: a method that is not planned leaves the emitter alone,
  and one that is planned is emitted;
* `Chained.mem_or_enters`, **`Chained.enters_unique`**: a name that is remembered was so at the start or
  is entered by an attempt, and by one only.
-/

namespace BeanMapping

/-- The attempt to generate a method of a batch. -/
structure Attempt (ε α : Type) where
  method : MappingMethod
  planned : Except Report VerifiedPlan
  before : ε
  outcome : Except Report α
  after : ε

namespace Generator

variable {ε α : Type} {g : Generator} {emit : Emitter ε α} {declared ms : List MappingMethod}
  {m : MappingMethod} {w : Workshop ε} {a : Attempt ε α}

/-- The attempt to generate a method. -/
def attempt (g : Generator) (emit : Emitter ε α) (declared : List MappingMethod) (w : Workshop ε)
    (m : MappingMethod) : Attempt ε α where
  method := m
  planned := ((g.plan declared m).run w.shapes).result
  before := w.emitter
  outcome := ((g.generate emit declared m).run w).result
  after := ((g.generate emit declared m).run w).state.emitter

/-- The attempts for methods in turn. -/
def attempts (g : Generator) (emit : Emitter ε α) (declared : List MappingMethod) :
    List MappingMethod → Workshop ε → List (Attempt ε α)
  | [], _ => []
  | m :: rest, w => g.attempt emit declared w m ::
      g.attempts emit declared rest ((g.generate emit declared m).run w).state

/-- Generating methods one after the other gives the outcomes of the attempts. -/
theorem generateEach_gives (ms : List MappingMethod) (w : Workshop ε) :
    ∃ t, (g.generateEach emit declared ms).Gives w
      ((g.attempts emit declared ms w).map fun a => (a.method, a.outcome)) t := by
  induction ms generalizing w with
  | nil => exact ⟨w, Narrated.gives_pure_iff.mpr ⟨rfl, rfl⟩⟩
  | cons m rest ih =>
    obtain ⟨t, others⟩ := ih ((g.generate emit declared m).run w).state
    refine ⟨t, ?_⟩
    unfold generateEach
    simp only [Narrated.gives_bind_iff, Narrated.gives_attempt_iff, Narrated.gives_tell_iff,
      Narrated.gives_pure_iff]
    exact ⟨_, _, ⟨rfl, rfl⟩, (), _, rfl, _, t, others, rfl, rfl⟩

/-- **A batch lists the outcomes of its attempts.** -/
theorem generateAll_result (ms : List MappingMethod) (w : Workshop ε) :
    ((g.generateAll emit ms).run w).result =
      .ok ((g.attempts emit ms ms w).map fun a => (a.method, a.outcome)) := by
  obtain ⟨t, each⟩ : ∃ t, (g.generateEach emit ms ms).Gives w
      ((g.attempts emit ms ms w).map fun a => (a.method, a.outcome)) t := generateEach_gives ms w
  have all : (g.generateAll emit ms).Gives w
      ((g.attempts emit ms ms w).map fun a => (a.method, a.outcome)) t := by
    unfold generateAll
    simp only [Narrated.gives_bind_iff, Narrated.gives_tell_iff, Narrated.gives_pure_iff]
    exact ⟨_, t, each, (), t, rfl, rfl, rfl⟩
  exact all.1

/-- **A method that is not planned is rejected, and leaves the emitter alone.** -/
theorem generate_of_unplanned {r : Report}
    (unplanned : ((g.plan declared m).run w.shapes).result = .error r) :
    ((g.generate emit declared m).run w).result = .error r ∧
      ((g.generate emit declared m).run w).state.emitter = w.emitter := by
  have focused : ((Narrated.focus Workshop.shapes (fun shapes w => { w with shapes })
      (g.plan declared m)).run w).result = .error r := unplanned
  unfold generate
  rw [Narrated.run_bind_error focused]
  exact ⟨rfl, rfl⟩

/-- **A method that is planned is emitted.** -/
theorem generate_of_planned {v : VerifiedPlan}
    (planned : ((g.plan declared m).run w.shapes).result = .ok v) :
    ((g.generate emit declared m).run w).result = ((emit m v).run w.emitter).result ∧
      ((g.generate emit declared m).run w).state.emitter = ((emit m v).run w.emitter).state := by
  have focused : ((Narrated.focus Workshop.shapes (fun shapes w => { w with shapes })
      (g.plan declared m)).run w).result = .ok v := planned
  unfold generate
  rw [Narrated.run_bind_ok focused]
  exact ⟨rfl, rfl⟩

/-- An attempt of a run is that for a method, from some state of the work. -/
theorem exists_attempt (ha : a ∈ g.attempts emit declared ms w) :
    ∃ u m, a = g.attempt emit declared u m := by
  induction ms generalizing w with
  | nil => exact absurd ha List.not_mem_nil
  | cons m rest ih =>
    rcases List.mem_cons.mp ha with rfl | ha
    · exact ⟨w, m, rfl⟩
    · exact ih ha

end Generator

/-! ## Chains -/

namespace Attempt

/-- Each attempt begins with what the emitter remembers at the end of the one before. -/
def Chained {ε α : Type} : ε → List (Attempt ε α) → Prop
  | _, [] => True
  | s, a :: as => a.before = s ∧ Chained a.after as

end Attempt

/-- **The attempts of a run are chained.** -/
theorem Generator.chained_attempts {ε α : Type} (g : Generator) (emit : Emitter ε α)
    (declared ms : List MappingMethod) (w : Workshop ε) :
    Attempt.Chained w.emitter (g.attempts emit declared ms w) := by
  induction ms generalizing w with
  | nil => exact trivial
  | cons m rest ih => exact ⟨rfl, ih _⟩

/-! ## Names -/

namespace Attempt

variable {α : Type} {a b : Attempt (List String) α} {as : List (Attempt (List String) α)}
  {names : List String} {name : String}

/-- An attempt enters a name: it is remembered after the attempt and was not before. -/
def Enters (a : Attempt (List String) α) (name : String) : Prop :=
  name ∈ a.after ∧ name ∉ a.before

instance (a : Attempt (List String) α) (name : String) : Decidable (a.Enters name) :=
  inferInstanceAs (Decidable (name ∈ a.after ∧ name ∉ a.before))

/-- What is remembered was remembered at the start, or is entered by some attempt. -/
theorem Chained.mem_or_enters (chained : Chained names as) :
    ∀ a ∈ as, name ∈ a.after → name ∈ names ∨ ∃ b ∈ as, b.Enters name := by
  induction as generalizing names with
  | nil => exact fun a ha => absurd ha List.not_mem_nil
  | cons c as ih =>
    obtain ⟨rfl, chained⟩ := chained
    have head : name ∈ c.after → name ∈ c.before ∨ ∃ b ∈ c :: as, b.Enters name := by
      intro mem
      by_cases before : name ∈ c.before
      · exact Or.inl before
      · exact Or.inr ⟨c, List.mem_cons_self, mem, before⟩
    intro a ha mem
    rcases List.mem_cons.mp ha with rfl | ha
    · exact head mem
    · rcases ih chained a ha mem with start | ⟨b, hb, enters⟩
      · exact head start
      · exact Or.inr ⟨b, List.mem_cons_of_mem _ hb, enters⟩

/-- Where no attempt takes back a name, all are remembered that were at the start. -/
theorem Chained.start_subset (chained : Chained names as)
    (grow : ∀ a ∈ as, a.before ⊆ a.after) : ∀ a ∈ as, names ⊆ a.before := by
  induction as generalizing names with
  | nil => exact fun a ha => absurd ha List.not_mem_nil
  | cons c as ih =>
    obtain ⟨rfl, chained⟩ := chained
    rw [List.forall_mem_cons] at grow ⊢
    exact ⟨List.Subset.refl _, fun a ha => List.Subset.trans grow.1 (ih chained grow.2 a ha)⟩

/-- **Where no attempt takes back a name, a name is entered by one attempt.** -/
theorem Chained.enters_unique (chained : Chained names as) (grow : ∀ a ∈ as, a.before ⊆ a.after) :
    ∀ a ∈ as, ∀ b ∈ as, a.Enters name → b.Enters name → a = b := by
  induction as generalizing names with
  | nil => exact fun a ha => absurd ha List.not_mem_nil
  | cons c as ih =>
    obtain ⟨-, chained⟩ := chained
    rw [List.forall_mem_cons] at grow
    -- what an attempt enters is remembered when the later ones begin
    have apart : ∀ b ∈ as, c.Enters name → ¬ b.Enters name :=
      fun b hb first later => later.2 (chained.start_subset grow.2 b hb first.1)
    intro a ha b hb first later
    rcases List.mem_cons.mp ha with rfl | ha' <;> rcases List.mem_cons.mp hb with rfl | hb'
    · rfl
    · exact absurd later (apart b hb' first)
    · exact absurd first (apart a ha' later)
    · exact ih chained grow.2 a ha' b hb' first later

end Attempt

end BeanMapping
