import BeanMapping.Compiled.Run
import BeanMapping.Proofs.MethodNames

/-!
# Linking is conservative

A mapping is embedded in another that has its converters and binds each name that it binds to the same
plan. A run of the larger mapping then takes the same steps as long as the smaller one finds the methods
that it calls, whatever else the larger one binds: no name is bound anew, at whatever depth it is called.

A computation agrees with another unless this fails in some way (`Narrated.AgreesUnless`): the same
result, the same state and the same steps. The lemmas go through the functions of a run, from one
conversion to a method, each for any two ways to run nested methods that agree. The run itself follows by
induction on the depth of the source.

Results:
* **`Embeds.run_agrees`**: a run of the larger mapping agrees with that of the smaller one, unless the
  smaller one does not know a method;
* **`linking_is_conservative`**: so does a run of a linked mapping.
-/

namespace BeanMapping

/-! ## Agreement of computations -/

namespace Narrated

variable {ε ω σ τ α β : Type} {P : ε → Prop}

/-- Where the second computation does not fail with an error of `P`, the first comes to the same. -/
def AgreesUnless (P : ε → Prop) (y x : Narrated ε ω σ α) : Prop :=
  ∀ s, (∀ e, x.Fails s e → ¬ P e) → y.run s = x.run s

theorem agreesUnless_refl (x : Narrated ε ω σ α) : AgreesUnless P x x := fun _ _ => rfl

/-- What fails with an error of `P` agrees with everything. -/
theorem agreesUnless_reject {e : ε} (h : P e) (y : Narrated ε ω σ α) :
    AgreesUnless P y (reject e) :=
  fun s known => absurd h (known e (fails_reject e s))

/-- **Binds agree whose parts agree**: the second parts begin in the same state. -/
theorem agreesUnless_bind {x y : Narrated ε ω σ α} {f g : α → Narrated ε ω σ β}
    (first : AgreesUnless P y x) (second : ∀ a, AgreesUnless P (g a) (f a)) :
    AgreesUnless P (y >>= g) (x >>= f) := by
  intro s known
  have same : y.run s = x.run s := first s fun e he => known e (he.bind f)
  rcases x.gives_or_fails s with ⟨a, t, ha⟩ | ⟨e, he⟩
  · obtain ⟨hr, rfl⟩ := ha
    have same' : (g a).run (x.run s).state = (f a).run (x.run s).state :=
      second a _ fun e he => known e (Gives.bind_fails ⟨hr, rfl⟩ he)
    rw [run_bind_ok hr, run_bind_ok (by rw [same]; exact hr), same, same']
  · have hr : (x.run s).result = .error e := he
    rw [run_bind_error hr, run_bind_error (by rw [same]; exact hr), same]

theorem agreesUnless_focus {part : σ → τ} {put : τ → σ → σ} {x y : Narrated ε ω τ α}
    (h : AgreesUnless P y x) : AgreesUnless P (focus part put y) (focus part put x) := by
  intro s known
  have same : y.run (part s) = x.run (part s) := h (part s) known
  unfold focus
  simp only [same]

theorem agreesUnless_apart {t : τ} {x y : Narrated ε ω τ Unit} (h : AgreesUnless P y x) :
    AgreesUnless P (apart t y : Narrated ε ω σ τ) (apart t x) := by
  intro s known
  have same : y.run t = x.run t := h t fun e he => known e (he.apart s)
  unfold apart
  simp only [same]

end Narrated

namespace CompiledMapping

/-- A mapping has the converters of another and binds what it binds. -/
structure Embeds (a l : CompiledMapping) : Prop where
  converters_eq : l.converters = a.converters
  binds : ∀ name p, a.plans.find? name = some p → l.plans.find? name = some p

/-- A mapping is embedded in what is linked with it. -/
theorem embeds_linkedWith (a b : CompiledMapping) : a.Embeds (a.linkedWith b) := by
  refine ⟨rfl, fun name p found => ?_⟩
  rw [find?_linkedWith, found, Option.some_or]

/-- A method is not known. -/
def IsUnknown (e : ExecutionError) : Prop := ∃ method, e = .unknownMethod method

/-- Two ways to run nested methods agree, unless the second does not know a method. -/
def BelowAgrees {depth : Nat} (below' below : RunsBelow depth) : Prop :=
  ∀ method v h, Narrated.AgreesUnless IsUnknown (below' method v h) (below method v h)

variable {a l : CompiledMapping} {depth : Nat} {below' below : RunsBelow depth}
  {plan : MappingPlan} {x : PlannedProperty MappingPlan}

namespace Embeds

open Narrated

theorem convert_agrees {σ : Type} (embeds : a.Embeds l) (agree : BelowAgrees below' below)
    (conversion : Option (Conversion MappingPlan)) (v : Json) (h : v.depth < depth) :
    AgreesUnless IsUnknown (l.convert below' conversion v h : Running σ Json)
      (a.convert below conversion v h) := by
  unfold convert
  split
  · exact agreesUnless_refl _
  · exact agreesUnless_refl _
  · unfold callConverter
    rw [embeds.converters_eq]
    exact agreesUnless_refl _
  · exact agreesUnless_apart (agree _ v h)

theorem convertAll_agrees {σ : Type} (embeds : a.Embeds l) (agree : BelowAgrees below' below)
    (conversion : Option (Conversion MappingPlan)) :
    ∀ (items : List Json) (h : ∀ v ∈ items, v.depth < depth),
      AgreesUnless IsUnknown (l.convertAll below' conversion items h : Running σ (List Json))
        (a.convertAll below conversion items h)
  | [], _ => agreesUnless_refl _
  | v :: rest, h => by
    unfold convertAll
    refine agreesUnless_bind (embeds.convert_agrees agree conversion v _) fun first => ?_
    exact agreesUnless_bind (embeds.convertAll_agrees agree conversion rest _) fun _ =>
      agreesUnless_refl _

theorem appendAll_agrees (embeds : a.Embeds l) (agree : BelowAgrees below' below)
    (signal : List Step) :
    ∀ (items : List Json) (h : ∀ v ∈ items, v.depth < depth),
      AgreesUnless IsUnknown (l.appendAll below' x signal items h)
        (a.appendAll below x signal items h)
  | [], _ => agreesUnless_refl _
  | v :: rest, h => by
    unfold appendAll
    refine agreesUnless_bind (embeds.convert_agrees agree x.conversion v _) fun w => ?_
    refine agreesUnless_bind (agreesUnless_refl _) fun _ => ?_
    refine agreesUnless_bind (agreesUnless_refl _) fun _ => ?_
    exact embeds.appendAll_agrees agree signal rest _

/-- Each action converts by the same conversions, between steps that call no method. -/
theorem apply_agrees (embeds : a.Embeds l) (agree : BelowAgrees below' below) (v : Json)
    (h : v.depth < depth) :
    AgreesUnless IsUnknown (l.apply below' plan x v h) (a.apply below plan x v h) := by
  unfold apply
  cases x.action with
  | assign | convertAssign =>
    exact agreesUnless_bind (embeds.convert_agrees agree x.conversion v h) fun w =>
      agreesUnless_refl _
  | replaceSet =>
    refine agreesUnless_bind (agreesUnless_refl _) fun items => ?_
    exact agreesUnless_bind (embeds.convertAll_agrees agree x.conversion items.1 items.2) fun ws =>
      agreesUnless_refl _
  | mergeAdd via =>
    cases via with
    | adder =>
      refine agreesUnless_bind (agreesUnless_refl _) fun _ => ?_
      refine agreesUnless_bind (agreesUnless_refl _) fun items => ?_
      exact embeds.appendAll_agrees agree _ items.1 items.2
    | getter =>
      refine agreesUnless_bind (agreesUnless_refl _) fun _ => ?_
      refine agreesUnless_bind (agreesUnless_refl _) fun items => ?_
      exact agreesUnless_bind (embeds.appendAll_agrees agree _ items.1 items.2) fun _ =>
        agreesUnless_refl _

theorem applyAll_agrees (embeds : a.Embeds l) {source : Members}
    {below' below : RunsBelow (Json.obj source).depth} (agree : BelowAgrees below' below) :
    ∀ xs : List (PlannedProperty MappingPlan),
      AgreesUnless IsUnknown (l.applyAll plan source below' xs) (a.applyAll plan source below xs)
  | [] => agreesUnless_refl _
  | x :: rest => by
    unfold applyAll
    refine agreesUnless_bind ?_ fun _ => embeds.applyAll_agrees agree rest
    unfold applyFrom
    split
    · exact agreesUnless_refl _
    · exact agreesUnless_refl _
    · exact embeds.apply_agrees agree _ _

theorem overTarget_agrees {t : TypeName} {x y : Running Members Unit}
    (h : AgreesUnless IsUnknown y x) : AgreesUnless IsUnknown (overTarget t y) (overTarget t x) := by
  unfold overTarget
  refine agreesUnless_bind (agreesUnless_refl _) fun target => ?_
  cases target with
  | obj fields => exact agreesUnless_focus h
  | null => exact agreesUnless_focus h
  | _ => exact agreesUnless_refl _

/-- A method that the smaller mapping binds is the same plan in the larger one; one that it does not
bind it does not know. -/
theorem runWith_agrees (embeds : a.Embeds l) (method : String) {source : Json}
    {below' below : RunsBelow source.depth} (agree : BelowAgrees below' below) :
    AgreesUnless IsUnknown (l.runWith method source below') (a.runWith method source below) := by
  unfold runWith
  cases found : a.plans.find? method with
  | none => exact agreesUnless_reject ⟨method, rfl⟩ _
  | some plan =>
    rw [embeds.binds method plan found]
    cases source with
    | obj fields => exact overTarget_agrees (embeds.applyAll_agrees agree plan.properties)
    | _ => exact agreesUnless_refl _

/-- **A run of the larger mapping agrees with that of the smaller one**, unless the smaller one does not
know a method: by induction on the depth of the source. -/
theorem run_agrees (embeds : a.Embeds l) (method : String) (source : Json) :
    AgreesUnless IsUnknown (l.run method source) (a.run method source) := by
  rw [run_eq l, run_eq a]
  exact embeds.runWith_agrees method fun method v _ => embeds.run_agrees method v
termination_by source.depth

end Embeds

/-! ## Linked mappings -/

/-- **Linking is conservative.** Where the run of a mapping does not end because a method is not known,
the run of what is linked with it comes to the same: the same result, the same target, also where it was
left by an error, and the same steps, of which the calls are a part. -/
theorem linking_is_conservative (a b : CompiledMapping) (source : Json) :
    ((∀ method, (a.map source).result ≠ .error (.unknownMethod method)) →
      (a.linkedWith b).map source = a.map source) ∧
    ∀ target, (∀ method, (a.mapInto source target).result ≠ .error (.unknownMethod method)) →
      (a.linkedWith b).mapInto source target = a.mapInto source target := by
  have agrees : Narrated.AgreesUnless IsUnknown ((a.linkedWith b).run a.method source)
      (a.run a.method source) := (embeds_linkedWith a b).run_agrees a.method source
  have conserves : ∀ target,
      (∀ method, (a.mapInto source target).result ≠ .error (.unknownMethod method)) →
        (a.linkedWith b).mapInto source target = a.mapInto source target := by
    intro target known
    refine agrees target fun e failed unknown => ?_
    obtain ⟨method, rfl⟩ := unknown
    exact known method failed
  exact ⟨conserves (.obj []), conserves⟩

/-! ### Kennels beside owners -/

/-- What the generator makes of the mapping of something with pets. -/
def petsCompiled (name : String) (source : TypeName) : Except Report CompiledMapping :=
  ((Generator.pets.generate (compile .empty) [] (Generator.mapPets name source)).run
    ⟨.empty, ()⟩).result

/-- A kennel with a dog. -/
def kennelWithDog : Json := .obj [("dog", .obj [("tag", .str "K9")])]

/-- The dog of a kennel is mapped by a derived method. An owner has a derived method of the same name
for cats; a kennel that is linked with an owner still maps its dog. -/
theorem linking_is_conservative_for_kennel : ∃ kennel owner,
    petsCompiled "kennel_to_dto" ⟨"Kennel"⟩ = .ok kennel ∧
    petsCompiled "owner_to_dto" ⟨"Owner"⟩ = .ok owner ∧
    (∃ p ∈ kennel.plans.items, ∃ q ∈ owner.plans.items, p.method = q.method ∧ p.pair ≠ q.pair) ∧
    (kennel.map kennelWithDog).result = .ok () ∧
    (kennel.linkedWith owner).map kennelWithDog = kennel.map kennelWithDog ∧
    (kennel.linkedWith owner).mapInto kennelWithDog .null = kennel.mapInto kennelWithDog .null := by
  obtain ⟨kennel, kennel_eq, evaluated⟩ := Narrated.exists_ok_of_any
    (show (petsCompiled "kennel_to_dto" ⟨"Kennel"⟩).toOption.any (fun kennel =>
      (petsCompiled "owner_to_dto" ⟨"Owner"⟩).toOption.any fun owner =>
        decide ((∃ p ∈ kennel.plans.items, ∃ q ∈ owner.plans.items,
            p.method = q.method ∧ p.pair ≠ q.pair) ∧
          (kennel.map kennelWithDog).result = .ok () ∧
          (kennel.mapInto kennelWithDog .null).result = .ok ())) = true by decide +kernel)
  obtain ⟨owner, owner_eq, evaluated⟩ := Narrated.exists_ok_of_any evaluated
  obtain ⟨other, mapped, mappedInto⟩ := of_decide_eq_true evaluated
  obtain ⟨map_eq, mapInto_eq⟩ := linking_is_conservative kennel owner kennelWithDog
  refine ⟨kennel, owner, kennel_eq, owner_eq, other, mapped, map_eq fun method => ?_,
    mapInto_eq .null fun method => ?_⟩
  · rw [mapped]
    exact fun failed => by cases failed
  · rw [mappedInto]
    exact fun failed => by cases failed

end CompiledMapping

end BeanMapping
