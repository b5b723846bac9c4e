import BeanMapping.Contract
import BeanMapping.Proofs.Ancestry
import BeanMapping.Proofs.Outcome
import BeanMapping.Proofs.PlanTree

/-!
# The verifier is exact

What a plan tree has to account for is the list of its `obligations`: one for each failure of each
call of each property, each plan before those that it embeds. A walk through the tree meets them in
this order, and ends at the first that is not met.

A computation `Settles` a list of obligations: either all are met and it has gathered what it should,
or it fails with the fault of the first that is not met. Sequences settle the lists one after the
other (`settles_seq`, `settles_forM`), so the walk settles the obligations of its tree by induction
on the tree (`settles_walk`).

Results:
* **`isUnchecked_iff`**, **`isCovered_iff`**: the two tests of the verifier, in terms of the supertypes
  that a failure leads to; both are kept by whatever may be used as the failure;
* **`verify_exact`**: a plan tree is accepted exactly when each of its plans honours its declarations,
  the checked failures of an accepted tree are the ones that it names, and a rejection is about the
  first obligation that is not met.
-/

namespace BeanMapping

namespace MappingPlan

/-- The plan names a failure: it declares it, or calls something that does. -/
def Names (p : MappingPlan) (failure : TypeName) : Prop :=
  failure ∈ p.declaredFailures ∨
    ∃ q ∈ p.properties, ∃ i ∈ q.invocations, failure ∈ i.failures

end MappingPlan

namespace Contract

variable {types : Registry} {f g : TypeName} {declared : List TypeName}

/-! ## Unchecked and covered failures -/

/-- A failure need not be declared: it, or one of its ancestors, is described as unchecked. -/
def Unchecked (types : Registry) (failure : TypeName) : Prop :=
  ∃ u d, types.Leads failure u ∧ types.describe u = some d ∧ d.kind = .failure true

/-- Declared failures cover a failure: it, or one of its ancestors, is declared. -/
def Covered (types : Registry) (failure : TypeName) (declared : List TypeName) : Prop :=
  ∃ d ∈ declared, d = failure ∨ types.Ancestor failure d

theorem describedUnchecked_iff :
    describedUnchecked types f = true ↔ ∃ d, types.describe f = some d ∧ d.kind = .failure true := by
  unfold describedUnchecked
  rw [Option.any_eq_true]
  simp only [beq_iff_eq]

theorem isUnchecked_iff : isUnchecked types f = true ↔ Unchecked types f := by
  unfold isUnchecked Unchecked
  rw [List.any_eq_true]
  constructor
  · rintro ⟨u, hu, hd⟩
    obtain ⟨d, hd, hk⟩ := describedUnchecked_iff.mp hd
    refine ⟨u, d, Registry.leads_iff.mpr ?_, hd, hk⟩
    exact (List.mem_cons.mp hu).imp_right Registry.mem_ancestors_iff.mp
  · rintro ⟨u, d, hu, hd, hk⟩
    refine ⟨u, List.mem_cons.mpr ?_, describedUnchecked_iff.mpr ⟨d, hd, hk⟩⟩
    exact (Registry.leads_iff.mp hu).imp_right Registry.mem_ancestors_iff.mpr

theorem isCovered_iff : isCovered types f declared = true ↔ Covered types f declared := by
  unfold isCovered Covered
  simp only [List.any_eq_true, Registry.isAssignable_iff, Registry.leads_iff]

/-- What may be used as an unchecked failure is unchecked. -/
theorem Unchecked.of_leads (h : types.Leads f g) (hg : Unchecked types g) : Unchecked types f := by
  obtain ⟨u, d, hu, hd, hk⟩ := hg
  exact ⟨u, d, h.trans hu, hd, hk⟩

theorem covered_iff_leads : Covered types f declared ↔ ∃ d ∈ declared, types.Leads f d := by
  unfold Covered
  simp only [Registry.leads_iff]

/-- What may be used as a covered failure is covered. -/
theorem Covered.of_leads (h : types.Leads f g) (hg : Covered types g declared) :
    Covered types f declared := by
  obtain ⟨d, hd, hgd⟩ := covered_iff_leads.mp hg
  exact covered_iff_leads.mpr ⟨d, hd, h.trans hgd⟩

/-! ## Obligations -/

/-- A failure that something called for a property of a plan may raise, with the failures that the
plan declares. -/
structure Obligation where
  method : String
  property : String
  invoked : String
  failure : TypeName
  declared : List TypeName
deriving DecidableEq, Repr

/-- The failure is unchecked or covered. -/
def Obligation.Met (types : Registry) (o : Obligation) : Prop :=
  Unchecked types o.failure ∨ Covered types o.failure o.declared

/-- The fault of an obligation that is not met. -/
def Obligation.fault (o : Obligation) : Fault :=
  .undeclaredFailure o.method o.property o.invoked o.failure

/-- The obligations of one call for a property of a plan. -/
def callObligations (p : MappingPlan) (property : String) (i : Invocation) : List Obligation :=
  i.failures.map fun f => ⟨p.method, property, i.invoked, f, p.declaredFailures⟩

/-- The obligations of a plan, without those of the plans that it embeds. -/
def ownObligations (p : MappingPlan) : List Obligation :=
  p.properties.flatMap fun q => q.invocations.flatMap (callObligations p q.target.name)

/-- The obligations of a plan tree. -/
def obligations (p : MappingPlan) : List Obligation :=
  p.nodes.flatMap ownObligations

/-- **A plan honours its declarations**: each failure of each call of each of its properties is
unchecked or covered by the failures that the plan declares. -/
def Honours (types : Registry) (p : MappingPlan) : Prop :=
  ∀ q ∈ p.properties, ∀ i ∈ q.invocations, ∀ f ∈ i.failures,
    Unchecked types f ∨ Covered types f p.declaredFailures

/-- The obligation is the first of the list that is not met. -/
def FirstUnmet (types : Registry) (os : List Obligation) (o : Obligation) : Prop :=
  ∃ before after, os = before ++ o :: after ∧ (∀ x ∈ before, x.Met types) ∧ ¬ o.Met types

theorem forall_ownObligations_iff {p : MappingPlan} :
    (∀ o ∈ ownObligations p, o.Met types) ↔ Honours types p := by
  unfold ownObligations callObligations Honours
  simp only [List.forall_mem_flatMap, List.forall_mem_map]
  exact Iff.rfl

theorem forall_obligations_iff {p : MappingPlan} :
    (∀ o ∈ obligations p, o.Met types) ↔ ∀ q ∈ p.nodes, Honours types q := by
  unfold obligations
  simp only [List.forall_mem_flatMap, forall_ownObligations_iff]

theorem obligations_eq (p : MappingPlan) :
    obligations p = ownObligations p ++ p.nested.flatMap obligations := by
  unfold obligations
  rw [MappingPlan.nodes_eq, List.flatMap_cons, List.flatMap_assoc]

theorem FirstUnmet.append_left {os : List Obligation} {o : Obligation} (h : FirstUnmet types os o)
    (others : List Obligation) : FirstUnmet types (os ++ others) o := by
  obtain ⟨before, after, rfl, hb, ho⟩ := h
  exact ⟨before, after ++ others, by rw [List.append_assoc, List.cons_append], hb, ho⟩

theorem FirstUnmet.append_right {os : List Obligation} {o : Obligation} (h : FirstUnmet types os o)
    {first : List Obligation} (met : ∀ x ∈ first, x.Met types) :
    FirstUnmet types (first ++ os) o := by
  obtain ⟨before, after, rfl, hb, ho⟩ := h
  refine ⟨first ++ before, after, by rw [List.append_assoc], fun x hx => ?_, ho⟩
  exact (List.mem_append.mp hx).elim (met x) (hb x)

theorem FirstUnmet.not_forall_met {os : List Obligation} {o : Obligation}
    (h : FirstUnmet types os o) : ¬ ∀ x ∈ os, x.Met types := by
  obtain ⟨before, after, rfl, -, ho⟩ := h
  exact fun met => ho (met o (List.mem_append_right before List.mem_cons_self))

/-! ## Settling -/

/-- **A computation settles obligations**: either all are met and it adds what it should gather to
its state, or it fails with the fault of the first that is not met. -/
def Settles (types : Registry) (x : Walk Unit) (os : List Obligation) (gathered : TypeName → Prop) :
    Prop :=
  ∀ s, ((∀ o ∈ os, o.Met types) ∧ ∃ t, x.Gives s () t ∧ ∀ f, f ∈ t ↔ gathered f ∨ f ∈ s) ∨
    ∃ o, FirstUnmet types os o ∧ x.Fails s (.of o.fault)

variable {x y : Walk Unit} {os os' : List Obligation} {gathered gathered' : TypeName → Prop}

theorem Settles.congr (h : Settles types x os gathered) (same : ∀ f, gathered f ↔ gathered' f) :
    Settles types x os gathered' := by
  intro s
  rcases h s with ⟨met, t, ht, hm⟩ | h
  · exact Or.inl ⟨met, t, ht, fun f => (hm f).trans (or_congr_left (same f))⟩
  · exact Or.inr h

theorem settles_pure : Settles types (pure ()) [] fun _ => False := by
  intro s
  refine Or.inl ⟨by simp, s, Narrated.gives_pure_iff.mpr ⟨rfl, rfl⟩, fun f => ?_⟩
  rw [false_or]

theorem settles_modify (added : List TypeName) :
    Settles types (Narrated.modify (added ++ ·)) [] (· ∈ added) := by
  intro s
  exact Or.inl ⟨by simp, added ++ s, Narrated.gives_modify_iff.mpr rfl, fun f => List.mem_append⟩

/-- Two computations in sequence settle two lists in sequence. -/
theorem settles_seq (hx : Settles types x os gathered) (hy : Settles types y os' gathered') :
    Settles types (x >>= fun _ => y) (os ++ os') fun f => gathered f ∨ gathered' f := by
  intro s
  rcases hx s with ⟨met, t, ht, hm⟩ | ⟨o, ho, hf⟩
  · rcases hy t with ⟨met', u, hu, hm'⟩ | ⟨o, ho, hf⟩
    · refine Or.inl ⟨fun o h => (List.mem_append.mp h).elim (met o) (met' o), u,
        Narrated.gives_bind_iff.mpr ⟨(), t, ht, hu⟩, fun f => ?_⟩
      rw [hm', hm, or_assoc, or_left_comm]
    · exact Or.inr ⟨o, ho.append_right met, ht.bind_fails hf⟩
  · exact Or.inr ⟨o, ho.append_left os', hf.bind _⟩

/-- A computation for each item of a list settles the lists of the items in turn. -/
theorem settles_forM {α : Type} {step : α → Walk Unit} {own : α → List Obligation}
    {gathers : α → TypeName → Prop} :
    ∀ {l : List α}, (∀ a ∈ l, Settles types (step a) (own a) (gathers a)) →
      Settles types (l.forM step) (l.flatMap own) fun f => ∃ a ∈ l, gathers a f
  | [], _ => settles_pure.congr fun f => by simp
  | a :: rest, h => by
    rw [List.flatMap_cons]
    refine (settles_seq (h a List.mem_cons_self)
      (settles_forM fun b hb => h b (List.mem_cons_of_mem a hb))).congr fun f => ?_
    simp only [List.mem_cons, exists_eq_or_imp]

/-- Accounting for a failure settles its obligation. -/
theorem settles_account (p : MappingPlan) (property invoked : String) (f : TypeName) :
    Settles types (account types p property invoked f)
      [⟨p.method, property, invoked, f, p.declaredFailures⟩]
      fun g => ¬ Unchecked types g ∧ g = f := by
  intro s
  unfold account
  by_cases hu : isUnchecked types f = true
  · rw [if_pos hu]
    have hu := isUnchecked_iff.mp hu
    refine Or.inl ⟨?_, s, Narrated.gives_tell_iff.mpr rfl, fun g => ?_⟩
    · rintro o (_ | ⟨_, ⟨⟩⟩)
      exact Or.inl hu
    · refine (or_iff_right ?_).symm
      rintro ⟨hg, rfl⟩
      exact hg hu
  · rw [if_neg hu]
    have hu : ¬ Unchecked types f := fun h => hu (isUnchecked_iff.mpr h)
    have hm : (Narrated.modify (f :: ·) : Walk Unit).Gives s () (f :: s) :=
      Narrated.gives_modify_iff.mpr rfl
    by_cases hc : isCovered types f p.declaredFailures = true
    · rw [if_pos hc]
      refine Or.inl ⟨?_, f :: s, ?_, fun g => ?_⟩
      · rintro o (_ | ⟨_, ⟨⟩⟩)
        exact Or.inr (isCovered_iff.mp hc)
      · exact Narrated.gives_bind_iff.mpr ⟨(), _, hm, Narrated.gives_pure_iff.mpr ⟨rfl, rfl⟩⟩
      · rw [List.mem_cons]
        refine or_congr_left (Iff.symm (and_iff_right_of_imp ?_))
        rintro rfl
        exact hu
    · rw [if_neg hc]
      refine Or.inr ⟨_, ⟨[], [], rfl, by simp, ?_⟩, hm.bind_fails (Narrated.fails_reject _ _)⟩
      exact not_or.mpr ⟨hu, fun h => hc (isCovered_iff.mpr h)⟩

/-- Accounting for a call settles the obligations of its failures. -/
theorem settles_call (p : MappingPlan) (property : String) (i : Invocation) :
    Settles types (i.failures.forM (account types p property i.invoked))
      (callObligations p property i) fun g => ¬ Unchecked types g ∧ g ∈ i.failures := by
  unfold callObligations
  rw [List.map_eq_flatMap]
  refine (settles_forM fun f _ => settles_account p property i.invoked f).congr fun g => ?_
  constructor
  · rintro ⟨f, hf, hu, rfl⟩
    exact ⟨hu, hf⟩
  · rintro ⟨hu, hf⟩
    exact ⟨g, hf, hu, rfl⟩

/-- Accounting for a property settles the obligations of what is called for it. -/
theorem settles_accountProperty (p : MappingPlan) (q : PlannedProperty MappingPlan) :
    Settles types (accountProperty types p q)
      (q.invocations.flatMap (callObligations p q.target.name))
      fun g => ¬ Unchecked types g ∧ ∃ i ∈ q.invocations, g ∈ i.failures := by
  unfold accountProperty
  refine (settles_forM fun i _ => settles_call p q.target.name i).congr fun g => ?_
  simp only [exists_and_left, and_left_comm]

theorem walk_eq (p : MappingPlan) : walk types p = (do
    Narrated.modify ((p.declaredFailures.filter fun f => !isUnchecked types f) ++ ·)
    p.properties.forM (accountProperty types p)
    p.nested.forM (walk types)) := by
  have hnested : (p.nested.attach.forM fun q => walk types q.1) = p.nested.forM (walk types) := by
    conv => rhs; rw [← List.attach_map_subtype_val p.nested]
    exact List.forM_map.symm
  rw [walk, hnested]

/-- **The walk settles the obligations of its tree.** -/
theorem settles_walk (p : MappingPlan) : Settles types (walk types p) (obligations p)
    fun f => ¬ Unchecked types f ∧ ∃ q ∈ p.nodes, q.Names f := by
  induction p using MappingPlan.inductionOn with
  | step p ih =>
    rw [walk_eq, obligations_eq, ← List.nil_append (ownObligations p ++ _)]
    refine (settles_seq (settles_modify _) (settles_seq
      (settles_forM fun q _ => settles_accountProperty p q) (settles_forM ih))).congr fun f => ?_
    rw [MappingPlan.exists_mem_nodes_iff]
    unfold MappingPlan.Names
    by_cases hu : Unchecked types f
    · simp [hu, isUnchecked_iff]
    · simp [hu, ← Bool.not_eq_true, isUnchecked_iff, or_assoc]

/-! ## The verifier -/

/-- What a verified plan says of the tree that was accepted. -/
structure Verified (types : Registry) (p : MappingPlan) (v : VerifiedPlan) : Prop where
  /-- It holds the tree as it was. -/
  plan_eq : v.plan = p
  /-- Each plan of the tree honours its declarations. -/
  honours : ∀ q ∈ p.nodes, Honours types q
  /-- The checked failures are those that the tree names. -/
  isChecked_iff : ∀ f, v.isChecked f = true ↔ ¬ Unchecked types f ∧ ∃ q ∈ p.nodes, q.Names f

/-- The verifier accepts, or rejects for the first obligation that is not met. -/
theorem verify_cases {σ : Type} (types : Registry) (method : String) (p : MappingPlan) (s : σ) :
    (∃ v, (verify types method p).Gives s v s ∧ Verified types p v) ∨
      ∃ o, FirstUnmet types (obligations p) o ∧
        (verify types method p).Fails s
          ((Report.of o.fault).attach ("Mapping method: " ++ method)) := by
  have settled : Settles types (walk types p) (obligations p) _ := settles_walk p
  unfold verify
  rcases settled [] with ⟨met, t, ht, hm⟩ | ⟨o, ho, hf⟩
  · refine Or.inl ⟨⟨p, t⟩, Narrated.gives_bind_iff.mpr ⟨t, s, ?_, ?_⟩, rfl, ?_, fun f => ?_⟩
    · exact Narrated.gives_within_iff.mpr (Narrated.gives_apart_iff.mpr ⟨ht, rfl⟩)
    · exact Narrated.gives_bind_iff.mpr
        ⟨(), s, Narrated.gives_tell_iff.mpr rfl, Narrated.gives_pure_iff.mpr ⟨rfl, rfl⟩⟩
    · exact forall_obligations_iff.mp met
    · unfold VerifiedPlan.isChecked
      rw [List.contains_iff_mem, hm, or_iff_left List.not_mem_nil]
  · exact Or.inr ⟨o, ho, ((hf.apart s).within _).bind _⟩

/-- What was accepted is verified. -/
theorem verified_of_gives {σ : Type} {method : String} {p : MappingPlan} {v : VerifiedPlan}
    {s t : σ} (h : (verify types method p).Gives s v t) : Verified types p v := by
  rcases verify_cases types method p s with ⟨w, hw, hv⟩ | ⟨o, -, hf⟩
  · rwa [(h.unique hw).1]
  · exact absurd h hf.not_gives

/-- **The verifier is exact.** It accepts a plan tree exactly when each plan of the tree honours its
declarations. What it accepts it gives back as it is, with exactly the checked failures that some plan
of the tree names. What it rejects it reports by the first obligation, in the order of the walk, that
is not met. -/
theorem verify_exact {σ : Type} (types : Registry) (method : String) (p : MappingPlan) (s : σ) :
    ((∃ v, ((verify types method p).run s).result = .ok v) ↔ ∀ q ∈ p.nodes, Honours types q) ∧
    (∀ v, ((verify types method p).run s).result = .ok v →
      v.plan = p ∧
        ∀ f, v.isChecked f = true ↔ ¬ Unchecked types f ∧ ∃ q ∈ p.nodes, q.Names f) ∧
    (∀ r, ((verify types method p).run s).result = .error r →
      ∃ o, FirstUnmet types (obligations p) o ∧
        r = (Report.of (.undeclaredFailure o.method o.property o.invoked o.failure)).attach
          ("Mapping method: " ++ method)) := by
  refine ⟨⟨?_, fun honours => ?_⟩, fun v hv => ?_, fun r hr => ?_⟩
  · rintro ⟨v, hv⟩
    exact (verified_of_gives (Narrated.gives_of_result hv)).honours
  · rcases verify_cases types method p s with ⟨v, hv, -⟩ | ⟨o, ho, -⟩
    · exact ⟨v, hv.1⟩
    · exact absurd (forall_obligations_iff.mpr honours) ho.not_forall_met
  · have verified := verified_of_gives (Narrated.gives_of_result hv)
    exact ⟨verified.plan_eq, verified.isChecked_iff⟩
  · rcases verify_cases types method p s with ⟨v, hv, -⟩ | ⟨o, ho, hf⟩
    · exact absurd hv (Narrated.Fails.not_gives hr)
    · exact ⟨o, ho, Narrated.Fails.unique hr hf⟩

end Contract

end BeanMapping
