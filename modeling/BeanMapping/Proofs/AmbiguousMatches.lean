import BeanMapping.Proofs.Namesakes

/-!
# Ambiguous correlations

Only the heuristic pass fails, at a collection with several closest candidates and no free target property of
its name (`ambiguous_of_claimNext`). Whether a target property of its name exists at all is a matter of the
precedence. Where exact names come first, the collection would have it. Where singular forms come first, it may
have gone to a collection that comes before.

Results:
* **`ambiguous_only_in_ties`**: what is known where a correlation is ambiguous;
* **`namesake_does_not_settle`**: a property of its name that was taken before does not settle a tie.
-/

namespace BeanMapping.Correlation

variable {i : Inflector} {sources targets : List Property} {claims claims' : List Claim}
  {source target : BeanShape} {o : PropertyOptions} {precedence : NamePrecedence} {fault : Fault}
  {pass : Pass} {s t : Property}

/-! ## Where a correlation fails -/

/-- Several target properties belong to a collection at one tier, the least for each of them. -/
structure Tied (i : Inflector) (targets : List Property) (s : Property) (tied : List Property) : Prop where
  collection : s.isCollection = true
  subset : tied ⊆ targets
  distinct : tied.Nodup
  several : 2 ≤ tied.length
  equal : ∃ tier, ∀ t ∈ tied, t.isCollection = true ∧ t.name ≠ s.name ∧
    IsLeast (tiers i s.name t.name) tier

/-- The closest candidates, if there are several, are tied. -/
theorem Closest.tied {tier : Nat} {places : List Nat} (h : Closest i targets claims s tier places)
    (targetNames : (targets.map Property.name).Nodup) (collection : s.isCollection = true)
    (several : 2 ≤ places.length) : Tied i targets s (places.filterMap (targets[·]?)) := by
  have there : ∀ place ∈ places, ∃ t, targets[place]? = some t ∧
      Candidate i targets claims s place tier t := fun place mem =>
    ((h.mem_iff place).mp mem).imp fun t candidate => ⟨candidate.there, candidate⟩
  refine ⟨collection, fun t mem => ?_, ?_, ?_, tier, fun t mem => ?_⟩
  · obtain ⟨place, -, found⟩ := List.mem_filterMap.mp mem
    exact List.mem_of_getElem? found
  · have places_nodup : places.Nodup := h.ordered.imp fun lt => lt.ne
    exact places_nodup.filterMap fun place place' t ht ht' => place_eq_of_key targetNames ht ht' rfl
  · rw [List.filterMap_length_eq_length.mpr fun place mem => ?_]
    · exact several
    · obtain ⟨t, found, -⟩ := there place mem
      exact Option.isSome_iff_exists.mpr ⟨t, found⟩
  · obtain ⟨place, hplace, found⟩ := List.mem_filterMap.mp mem
    obtain ⟨t', found', candidate⟩ := there place hplace
    obtain rfl := Option.some.inj (found.symm.trans found')
    exact ⟨candidate.collection, candidate.name_ne, isLeast_of_tier? candidate.tier_eq⟩

theorem claimNext_eq_error {next : Property × Nat}
    (h : claimNext i targets pass claims next = .error fault) :
    isPaired claims next.2 = false ∧ passMatch i targets pass claims next.1 = .error fault := by
  unfold claimNext at h
  split at h
  · cases h
  · rename_i unpaired
    split at h
    · rename_i failed
      exact ⟨Bool.not_eq_true _ ▸ unpaired, failed.trans (congrArg Except.error (Except.error.inj h))⟩
    · cases h
    · cases h

/-- A pass that fails has made its claims for the properties before the one at which it fails. -/
theorem runPass_eq_error (h : runPass i sources targets claims pass = .error fault) :
    ∃ before s after claims', sources = before ++ s :: after ∧
      runPass i before targets claims pass = .ok claims' ∧
      claimNext i targets pass claims' (s, before.length) = .error fault := by
  obtain ⟨done, next, rest, claims', places, ran, failed⟩ := foldlM_eq_error _ _ h
  obtain ⟨before, others, rfl, rfl, others_eq⟩ := List.zipIdx_eq_append_iff.mp places
  obtain ⟨s, after, rfl, rfl, -⟩ := List.zipIdx_eq_cons_iff.mp others_eq.symm
  rw [Nat.zero_add] at failed
  exact ⟨before, s, after, claims', rfl, ran, failed⟩

/-- What stands before an item among those that pass a test is what passes it before the item. -/
theorem filter_eq_append_cons {α : Type} {test : α → Bool} {l first rest : List α} {a : α}
    (h : l.filter test = first ++ a :: rest) :
    ∃ before after, l = before ++ a :: after ∧ test a = true ∧ before.filter test = first := by
  obtain ⟨l₁, l₂, rfl, rfl, rest_eq⟩ := List.filter_eq_append_iff.mp h
  obtain ⟨skipped, after, rfl, fails, passes, -⟩ := List.filter_eq_cons_iff.mp rest_eq
  refine ⟨l₁ ++ skipped, after, (List.append_assoc _ _ _).symm, passes, ?_⟩
  rw [List.filter_append, List.filter_eq_nil_iff.mpr fails, List.append_nil]

/-- The exact pass does not fail. -/
theorem exists_exact_claims (i : Inflector) (sources targets : List Property) (claims : List Claim) :
    ∃ claims', runPass i sources targets claims .exact = .ok claims' := by
  cases ran : runPass i sources targets claims .exact with
  | ok claims' => exact ⟨claims', rfl⟩
  | error fault =>
    obtain ⟨_, _, _, _, -, -, failed⟩ := runPass_eq_error ran
    cases (claimNext_eq_error failed).2

/-- Where the claims fail, the heuristic pass does: it comes first, or else it starts from the claims of the
exact one. -/
theorem claims_eq_error (h : Correlation.claims i precedence source target o = .error fault) :
    ∃ start, runPass i source.readable (targetsOf o target) start .heuristic = .error fault ∧
      (precedence = .exactName ∧ runPass i source.readable (targetsOf o target) [] .exact = .ok start ∨
        precedence = .singularized ∧ start = []) := by
  cases precedence with
  | exactName =>
    obtain ⟨start, ran⟩ := exists_exact_claims i source.readable (targetsOf o target) []
    rcases foldlM_cons_eq_error_iff.mp h with failed | ⟨start', ran', rest⟩
    · rw [ran] at failed
      cases failed
    · rcases foldlM_cons_eq_error_iff.mp rest with failed | ⟨_, -, done⟩
      · exact ⟨start', failed, Or.inl ⟨rfl, ran'⟩⟩
      · cases done
  | singularized =>
    rcases foldlM_cons_eq_error_iff.mp h with failed | ⟨start, -, rest⟩
    · exact ⟨[], failed, Or.inr ⟨rfl, rfl⟩⟩
    · obtain ⟨all, ran⟩ := exists_exact_claims i source.readable (targetsOf o target) start
      rcases foldlM_cons_eq_error_iff.mp rest with failed | ⟨_, -, done⟩
      · rw [ran] at failed
        cases failed
      · cases done

/-- **The heuristic pass fails** at a collection without a claim that has several closest candidates and no
free target property of its name. -/
theorem tied_of_claimNext {next : Property × Nat} (targetNames : (targets.map Property.name).Nodup)
    (h : claimNext i targets .heuristic claims next = .error fault) :
    isPaired claims next.2 = false ∧ exactMatch? targets claims next.1.name = none ∧
      ∃ tied, Tied i targets next.1 tied ∧
        fault = .ambiguousCorrelation next.1.name (tied.map Property.name) := by
  obtain ⟨unpaired, failed⟩ := claimNext_eq_error h
  have outcome : Heuristic i targets claims next.1 (.error fault) := failed ▸ heuristic_heuristicMatch
  cases outcome with
  | ambiguous collection closest several none =>
    refine ⟨unpaired, none, _, closest.tied targetNames collection several, ?_⟩
    rw [List.map_filterMap]

/-! ## What was taken before -/

/-- The properties of a source that come first, correlated by themselves where singular forms come first,
take a target property by a singular form. -/
def TakenBefore (i : Inflector) (source target : BeanShape) (o : PropertyOptions) (before : List Property)
    (t : Property) : Prop :=
  ∃ pairs, correlate i .singularized ⟨source.typeName, before⟩ target o = .ok pairs ∧
    ∃ pair ∈ pairs, pair.target = t ∧ ∃ tier, pair.matchKind = .singularized tier

/-- What the heuristic pass claims for properties of other names is taken by them. -/
theorem takenBefore_of_isClaimed {before : List Property} {k : Nat}
    (ran : runPass i (before.filter (·.isReadable)) (targetsOf o target) [] .heuristic = .ok claims)
    (taken : isClaimed claims k = true) (ht : (targetsOf o target)[k]? = some t)
    (name_ne : ∀ s ∈ before.filter (·.isReadable), s.name ≠ t.name) : TakenBefore i source target o before t := by
  obtain ⟨c, hc, rfl⟩ := List.mem_map.mp (isClaimed_iff.mp taken)
  obtain ⟨s, t', hs, ht', joined⟩ := joined_runPass (fun _ mem => absurd mem List.not_mem_nil) ran c hc
  obtain rfl := Option.some.inj (ht.symm.trans ht')
  obtain ⟨all, rest⟩ := exists_exact_claims i (before.filter (·.isReadable)) (targetsOf o target) claims
  have claimed : Correlation.claims i .singularized ⟨source.typeName, before⟩ target o = .ok all :=
    foldlM_cons_eq_ok_iff.mpr ⟨claims, ran, foldlM_cons_eq_ok_iff.mpr ⟨all, rest, rfl⟩⟩
  obtain ⟨s', t', -, ht', -, made⟩ := (grounded_claims claimed).exists_pair (subset_runPass rest hc)
  obtain rfl := Option.some.inj (ht.symm.trans ht')
  refine ⟨_, correlate_eq_ok_iff.mpr ⟨all, claimed, rfl⟩, _, made, rfl, ?_⟩
  cases kind : c.kind with
  | exact => exact absurd (joined.exact_iff.mp kind) (name_ne s (List.mem_of_getElem? hs))
  | singularized tier => exact ⟨tier, rfl⟩

/-- **An ambiguity**: a readable collection to which several collections of other names belong at one tier.
If there is a target property of its name, singular forms come first, and a property that is declared before
has taken that one by a singular form. -/
structure AmbiguousAt (i : Inflector) (precedence : NamePrecedence) (source target : BeanShape)
    (o : PropertyOptions) (fault : Fault) (before : List Property) (s : Property) (after tied : List Property) :
    Prop where
  declared : source.properties = before ++ s :: after
  readable : s.isReadable = true
  ties : Tied i (targetsOf o target) s tied
  fault_eq : fault = .ambiguousCorrelation s.name (tied.map Property.name)
  namesake : ∀ t ∈ targetsOf o target, t.name = s.name →
    precedence = .singularized ∧ TakenBefore i source target o before t

/-- **A correlation fails only at an ambiguity**, where no property name is repeated. -/
theorem ambiguous_only_in_ties (sourceNames : (source.properties.map Property.name).Nodup)
    (targetNames : (target.properties.map Property.name).Nodup)
    (h : correlate i precedence source target o = .error fault) :
    ∃ before s after tied, AmbiguousAt i precedence source target o fault before s after tied := by
  have readNames := nodup_readable sourceNames
  have openNames : ((targetsOf o target).map Property.name).Nodup := nodup_targetsOf targetNames
  obtain ⟨start, passFailed, mode⟩ := claims_eq_error (correlate_eq_error_iff.mp h)
  obtain ⟨read, s, unread, claims, readable_eq, ran, stepFailed⟩ := runPass_eq_error passFailed
  obtain ⟨unpaired, missed, tied, isTied, rfl⟩ := tied_of_claimNext openNames stepFailed
  obtain ⟨before, after, properties_eq, readable, rfl⟩ := filter_eq_append_cons readable_eq
  refine ⟨before, s, after, tied, properties_eq, readable, isTied, rfl, fun t mem named => ?_⟩
  obtain ⟨k, ht⟩ := List.getElem?_of_mem mem
  rw [readable_eq] at readNames
  rcases mode with ⟨-, exactRan⟩ | ⟨singularized, rfl⟩
  · -- The exact pass has claimed the target property for this very collection.
    have hs : source.readable[(before.filter (·.isReadable)).length]? = some s := by
      rw [readable_eq, List.getElem?_append_right (le_refl _), Nat.sub_self]
      rfl
    have own := mem_of_namesakes (readable_eq ▸ readNames) openNames exactRan hs ht named.symm
    have paired := isPaired_iff.mpr (List.mem_map_of_mem (f := Claim.source) (subset_runPass ran own))
    exact absurd paired (unpaired ▸ Bool.false_ne_true)
  · have taken := isClaimed_of_exactMatch?_eq_none missed ht named
    refine ⟨singularized, takenBefore_of_isClaimed ran taken ht fun s' hs' same => ?_⟩
    rw [List.map_append, List.map_cons] at readNames
    exact (List.nodup_append.mp readNames).2.2 _ (List.mem_map_of_mem hs') _ List.mem_cons_self
      (same.trans named)

/-! ### Surveys -/

/-- What is known about a survey. -/
def survey : BeanShape := ⟨⟨"Survey"⟩, [texts "datas", texts "data"]⟩

/-- What is written about a survey. -/
def surveyDto : BeanShape := ⟨⟨"SurveyDto"⟩, [texts "datum", texts "datas", texts "data"]⟩

/-- The data may be a datum or datas. -/
theorem ambiguous_only_in_ties_of_surveys :
    correlate ⟨.empty⟩ .singularized survey surveyDto .empty =
      .error (.ambiguousCorrelation "data" ["datum", "datas"]) ∧
    ∃ before s after tied, AmbiguousAt ⟨.empty⟩ .singularized survey surveyDto .empty
      (.ambiguousCorrelation "data" ["datum", "datas"]) before s after tied := by
  have failed : correlate ⟨.empty⟩ .singularized survey surveyDto .empty =
      .error (.ambiguousCorrelation "data" ["datum", "datas"]) := by decide +kernel
  exact ⟨failed, ambiguous_only_in_ties (by decide) (by decide) failed⟩

/-- **A namesake does not settle a tie** if it is taken: the datas, which come first, have taken the data. -/
theorem namesake_does_not_settle :
    (survey.properties.map Property.name).Nodup ∧ (surveyDto.properties.map Property.name).Nodup ∧
    correlate ⟨.empty⟩ .singularized survey surveyDto .empty =
      .error (.ambiguousCorrelation "data" ["datum", "datas"]) ∧
    Namesakes survey surveyDto .empty (texts "data") (texts "data") :=
  ⟨by decide, by decide, by decide +kernel, by decide, rfl, by decide, rfl, rfl⟩

end BeanMapping.Correlation
