import BeanMapping.Correlation
import BeanMapping.Proofs.IntrospectedShapes
import Mathlib.Data.List.Sigma

/-!
# Correlated properties

A claim takes a target property that no claim before it has taken, so no target property is claimed
twice (`Distinct`), whichever pass comes first. The pairs of a correlation are read off the claims, in
the order of the source.

Result:
* **`sides_of_correlate`**: the pairs are between properties of the source that can be read, each at
  most once and in their order, and properties of the target, each at most once.
-/

namespace BeanMapping

/-! ## Loops -/

section Loops

variable {α β ε : Type} {step : β → α → Except ε β}

theorem foldlM_cons_eq_ok_iff {a : α} {l : List α} {b b' : β} :
    (a :: l).foldlM step b = .ok b' ↔ ∃ c, step b a = .ok c ∧ l.foldlM step c = .ok b' := by
  rw [List.foldlM_cons]
  cases step b a with
  | error e => exact iff_of_false (fun h => by cases h) fun ⟨_, h, _⟩ => by cases h
  | ok c => exact ⟨fun h => ⟨c, rfl, h⟩, fun ⟨_, first, h⟩ => Except.ok.inj first ▸ h⟩

/-- A loop that may fail keeps what each of its steps keeps. -/
theorem foldlM_keeps {I : β → Prop} :
    ∀ (l : List α) (b b' : β), (∀ a ∈ l, ∀ b b', I b → step b a = .ok b' → I b') → I b →
      l.foldlM step b = .ok b' → I b'
  | [], b, b', _, h, done => by
    rw [List.foldlM_nil] at done
    exact Except.ok.inj done ▸ h
  | a :: l, b, b', keeps, h, done => by
    obtain ⟨keepsFirst, keepsRest⟩ := List.forall_mem_cons.mp keeps
    obtain ⟨c, first, done⟩ := foldlM_cons_eq_ok_iff.mp done
    exact foldlM_keeps l c b' keepsRest (keepsFirst b c h first) done

/-- A loop that may fail achieves for each item what the step of the item achieves and all others keep. -/
theorem foldlM_achieves {P : α → β → Prop} :
    ∀ (l : List α) (b b' : β), (∀ a ∈ l, ∀ b b', step b a = .ok b' → P a b') →
      (∀ a, ∀ x ∈ l, ∀ b b', P a b → step b x = .ok b' → P a b') →
      l.foldlM step b = .ok b' → ∀ a ∈ l, P a b'
  | [], _, _, _, _, _ => fun _ mem => absurd mem List.not_mem_nil
  | a :: l, b, b', achieves, keeps, done => by
    obtain ⟨achievesFirst, achievesRest⟩ := List.forall_mem_cons.mp achieves
    have keepsRest : ∀ a, ∀ x ∈ l, ∀ b b', P a b → step b x = .ok b' → P a b' :=
      fun a x mem => keeps a x (List.mem_cons_of_mem _ mem)
    obtain ⟨c, first, done⟩ := foldlM_cons_eq_ok_iff.mp done
    exact List.forall_mem_cons.mpr ⟨foldlM_keeps l c b' (keepsRest a) (achievesFirst b c first) done,
      foldlM_achieves l c b' achievesRest keepsRest done⟩

theorem foldlM_cons_eq_error_iff {a : α} {l : List α} {b : β} {e : ε} :
    (a :: l).foldlM step b = .error e ↔
      step b a = .error e ∨ ∃ c, step b a = .ok c ∧ l.foldlM step c = .error e := by
  rw [List.foldlM_cons]
  cases step b a with
  | error e' => exact ⟨Or.inl, fun h => h.elim id fun ⟨_, h, _⟩ => by cases h⟩
  | ok c =>
    exact ⟨fun h => Or.inr ⟨c, rfl, h⟩, fun h => h.elim (fun h => by cases h)
      fun ⟨_, first, h⟩ => Except.ok.inj first ▸ h⟩

/-- A loop that fails has done all its steps before the one that fails. -/
theorem foldlM_eq_error {e : ε} :
    ∀ (l : List α) (b : β), l.foldlM step b = .error e →
      ∃ before a after c, l = before ++ a :: after ∧ before.foldlM step b = .ok c ∧ step c a = .error e
  | [], _, failed => by cases failed
  | a :: l, b, failed => by
    rcases foldlM_cons_eq_error_iff.mp failed with first | ⟨c, first, rest⟩
    · exact ⟨[], a, l, b, rfl, rfl, first⟩
    · obtain ⟨before, a', after, c', rfl, ran, failed⟩ := foldlM_eq_error l c rest
      exact ⟨a :: before, a', after, c', rfl, foldlM_cons_eq_ok_iff.mpr ⟨c, first, ran⟩, failed⟩

end Loops

namespace Correlation

variable {i : Inflector} {targets : List Property} {claims claims' : List Claim} {source : Property}
  {name : String} {place : Nat} {kind : MatchKind}

/-! ## Claims -/

/-- No target property is claimed twice. -/
def Distinct (claims : List Claim) : Prop := (claims.map (·.target)).Nodup

theorem isClaimed_iff : isClaimed claims place = true ↔ place ∈ claims.map (·.target) := by
  unfold isClaimed
  rw [List.any_eq_true, List.mem_map]
  simp only [beq_iff_eq]

theorem isClaimed_eq_false_iff : isClaimed claims place = false ↔ place ∉ claims.map (·.target) := by
  rw [← Bool.not_eq_true, isClaimed_iff]

theorem free_of_exactMatch? (h : exactMatch? targets claims name = some place) :
    isClaimed claims place = false := by
  unfold exactMatch? at h
  obtain ⟨t, found, rfl⟩ := Option.map_eq_some_iff.mp h
  have test := List.find?_some found
  rw [Bool.and_eq_true, Bool.not_eq_true'] at test
  exact test.1

theorem free_of_mem_scored {score : Nat × Nat} (h : score ∈ scored i targets claims source) :
    isClaimed claims score.2 = false := by
  unfold scored at h
  obtain ⟨⟨t, place⟩, -, made⟩ := List.mem_filterMap.mp h
  dsimp only at made
  split at made
  · rename_i test
    obtain ⟨tier, -, rfl⟩ := Option.map_eq_some_iff.mp made
    simp only [Bool.and_eq_true, Bool.not_eq_true'] at test
    exact test.1.1
  · cases made

theorem free_of_heuristicMatch
    (h : heuristicMatch i targets claims source = .ok (some (place, kind))) :
    isClaimed claims place = false := by
  unfold heuristicMatch at h
  split at h
  · dsimp only at h
    split at h
    · cases h
    · split at h
      · rename_i best
        obtain ⟨rfl, -⟩ := Prod.mk.inj (Option.some.inj (Except.ok.inj h))
        have mem := best ▸ List.mem_singleton_self _
        obtain ⟨score, hs, rfl⟩ := List.mem_map.mp mem
        exact free_of_mem_scored (List.mem_filter.mp hs).1
      · split at h
        · rename_i exact
          obtain ⟨rfl, -⟩ := Prod.mk.inj (Option.some.inj (Except.ok.inj h))
          exact free_of_exactMatch? exact
        · cases h
  · cases h

/-- Either pass finds only what is free. -/
theorem free_of_passMatch {pass : Pass}
    (h : passMatch i targets pass claims source = .ok (some (place, kind))) :
    isClaimed claims place = false := by
  cases pass with
  | exact =>
    obtain ⟨found, match_eq, same⟩ := Option.map_eq_some_iff.mp (Except.ok.inj h)
    obtain ⟨rfl, -⟩ := Prod.mk.inj same
    exact free_of_exactMatch? match_eq
  | heuristic => exact free_of_heuristicMatch h

theorem distinct_claimNext {pass : Pass} {next : Property × Nat} (distinct : Distinct claims)
    (h : claimNext i targets pass claims next = .ok claims') : Distinct claims' := by
  unfold claimNext at h
  split at h
  · exact Except.ok.inj h ▸ distinct
  · split at h
    · cases h
    · exact Except.ok.inj h ▸ distinct
    · rename_i found
      obtain rfl := Except.ok.inj h
      unfold Distinct
      rw [List.map_append, List.map_singleton]
      refine List.nodup_append.mpr ⟨distinct, List.nodup_singleton _, fun a ha b hb same => ?_⟩
      rw [same, List.mem_singleton.mp hb] at ha
      exact isClaimed_eq_false_iff.mp (free_of_passMatch found) ha

/-- **No target property is claimed twice**: each pass keeps this, and each step of it. -/
theorem distinct_claims {precedence : NamePrecedence} {source target : BeanShape}
    {o : PropertyOptions} (h : Correlation.claims i precedence source target o = .ok claims) :
    Distinct claims := by
  unfold Correlation.claims at h
  have nothing : Distinct [] := List.nodup_nil
  refine foldlM_keeps _ _ _ (fun pass _ before after distinct ran => ?_) nothing h
  unfold runPass at ran
  exact foldlM_keeps _ _ _ (fun _ _ _ _ distinct step => distinct_claimNext distinct step) distinct ran

/-! ## Pairs -/

/-- The pairs are between properties of the source that can be read, each at most once and in their
order, and properties of the target, each at most once. -/
structure Sides (source target : BeanShape) (pairs : List CorrelatedProperty) : Prop where
  sources : (pairs.map (·.source)).Sublist source.readable
  targets : ∀ pair ∈ pairs, pair.target ∈ target.properties
  distinct : (pairs.map (·.target.name)).Nodup

/-- A pair is that of a claim. -/
theorem exists_claim {s : Property × Nat} {pair : CorrelatedProperty}
    (h : pairOf? targets claims s = some pair) :
    pair.source = s.1 ∧ ∃ c ∈ claims, c.source = s.2 ∧ targets[c.target]? = some pair.target ∧
      c.kind = pair.matchKind := by
  unfold pairOf? at h
  obtain ⟨c, found, h⟩ := Option.bind_eq_some_iff.mp h
  obtain ⟨t, taken, h⟩ := Option.bind_eq_some_iff.mp h
  obtain rfl := Option.some.inj h
  refine ⟨rfl, c, List.mem_of_find?_eq_some found, ?_, taken, rfl⟩
  have key := List.find?_some found
  exact beq_iff_eq.mp key

/-- Claims of different source properties lead to target properties of different names. -/
theorem name_ne_of_claims (distinct : Distinct claims) (nodup : (targets.map Property.name).Nodup)
    {s s' : Property × Nat} {pair pair' : CorrelatedProperty} (apart : s.2 ≠ s'.2)
    (h : pairOf? targets claims s = some pair) (h' : pairOf? targets claims s' = some pair') :
    pair.target.name ≠ pair'.target.name := by
  intro same
  obtain ⟨-, c, hc, source_eq, taken, -⟩ := exists_claim h
  obtain ⟨-, c', hc', source_eq', taken', -⟩ := exists_claim h'
  have target_eq : c.target = c'.target := place_eq_of_key nodup taken taken' same
  have claim_eq := List.inj_on_of_nodup_map distinct hc hc' target_eq
  exact apart (source_eq.symm.trans (claim_eq ▸ source_eq'))

section Correlate

variable {precedence : NamePrecedence} {source target : BeanShape} {o : PropertyOptions}
  {pairs : List CorrelatedProperty}

/-- The pairs of a correlation are those of its claims. -/
theorem correlate_eq_ok_iff : correlate i precedence source target o = .ok pairs ↔
    ∃ claims, Correlation.claims i precedence source target o = .ok claims ∧
      source.readable.zipIdx.filterMap (pairOf? (targetsOf o target) claims) = pairs := by
  unfold correlate
  cases Correlation.claims i precedence source target o with
  | error fault => exact iff_of_false (fun h => by cases h) fun ⟨_, h, _⟩ => by cases h
  | ok claims =>
    exact ⟨fun h => ⟨claims, rfl, Except.ok.inj h⟩, fun ⟨_, h, made⟩ => Except.ok.inj h ▸ made ▸ rfl⟩

/-- A correlation fails where its claims do. -/
theorem correlate_eq_error_iff {fault : Fault} : correlate i precedence source target o = .error fault ↔
    Correlation.claims i precedence source target o = .error fault := by
  unfold correlate
  cases Correlation.claims i precedence source target o with
  | error fault' => exact ⟨fun h => congrArg Except.error (Except.error.inj h),
      fun h => congrArg Except.error (Except.error.inj h)⟩
  | ok claims => exact iff_of_false (fun h => by cases h) fun h => by cases h

theorem nodup_readable (nodup : (source.properties.map Property.name).Nodup) :
    (source.readable.map Property.name).Nodup :=
  (List.filter_sublist.map Property.name).nodup nodup

theorem nodup_targetsOf (nodup : (target.properties.map Property.name).Nodup) :
    ((targetsOf o target).map Property.name).Nodup :=
  (List.filter_sublist.map Property.name).nodup nodup

/-- **What the pairs of a correlation are between.** -/
theorem sides_of_correlate (nodup : (target.properties.map Property.name).Nodup)
    (h : correlate i precedence source target o = .ok pairs) : Sides source target pairs := by
  obtain ⟨claims, claimed, rfl⟩ := correlate_eq_ok_iff.mp h
  refine ⟨?_, fun pair mem => ?_, ?_⟩
  · have read : ∀ s pair, pairOf? (targetsOf o target) claims s = some pair →
        pair.source = Prod.fst s := fun s pair made => (exists_claim made).1
    have kept := sublist_filterMap read source.readable.zipIdx
    rwa [List.zipIdx_map_fst] at kept
  · obtain ⟨s, -, made⟩ := List.mem_filterMap.mp mem
    obtain ⟨-, c, -, -, taken, -⟩ := exists_claim made
    exact List.mem_of_mem_filter (List.mem_of_getElem? taken)
  · unfold List.Nodup
    rw [List.pairwise_map, List.pairwise_filterMap]
    have places : (source.readable.zipIdx.map Prod.snd).Nodup := List.nodup_zipIdx_map_snd _
    unfold List.Nodup at places
    rw [List.pairwise_map] at places
    exact places.imp fun apart pair made pair' made' =>
      name_ne_of_claims (distinct_claims claimed) (nodup_targetsOf nodup) apart made made'

end Correlate

end Correlation

end BeanMapping
