import BeanMapping.Proofs.ExactCorrelation
import Mathlib.Order.Bounds.Basic

/-!
# Matches by singular forms

Two names belong together at each tier (`tiers`) at which the one is a singular form of the other. The
heuristic pass looks at the free collections of another name that belong to a collection at all
(`Candidate`), and takes one that is alone at the least tier. `Heuristic` lists what may come of that, with
all that is known in each case, so that nothing else has to open the search.

Results:
* **`heuristic_heuristicMatch`**: the heuristic pass does one of these things;
* **`joined_claims`**: each claim is between two properties that belong together as it says.
-/

namespace BeanMapping.Correlation

variable {i : Inflector} {sources targets : List Property} {claims claims' : List Claim}
  {source target : BeanShape} {o : PropertyOptions} {precedence : NamePrecedence} {s t : Property}
  {a b : String} {place tier : Nat} {kind : MatchKind} {pass : Pass}

/-! ## Tiers -/

/-- The tiers at which two names belong together: the places of each among the singular forms of the
other. -/
def tiers (i : Inflector) (a b : String) : Set Nat := {n | i.tier? a b = some n ∨ i.tier? b a = some n}

theorem isLeast_of_tier? (h : tier? i a b = some tier) : IsLeast (tiers i a b) tier := by
  unfold tier? at h
  cases forward : i.tier? a b with
  | none =>
    rw [forward] at h
    refine ⟨Or.inr h, fun n hn => ?_⟩
    rcases hn with found | found
    · rw [forward] at found
      cases found
    · exact (Option.some.inj (h.symm.trans found)).le
  | some x =>
    cases backward : i.tier? b a with
    | none =>
      rw [forward, backward] at h
      obtain rfl := Option.some.inj h
      refine ⟨Or.inl forward, fun n hn => ?_⟩
      rcases hn with found | found
      · exact (Option.some.inj (forward.symm.trans found)).le
      · rw [backward] at found
        cases found
    | some y =>
      rw [forward, backward] at h
      obtain rfl := Option.some.inj h
      refine ⟨?_, fun n hn => ?_⟩
      · rcases le_total x y with le | le
        · exact Or.inl (forward.trans (congrArg some (min_eq_left le).symm))
        · exact Or.inr (backward.trans (congrArg some (min_eq_right le).symm))
      · rcases hn with found | found
        · exact (min_le_left x y).trans (Option.some.inj (forward.symm.trans found)).le
        · exact (min_le_right x y).trans (Option.some.inj (backward.symm.trans found)).le

theorem exists_tier? (h : tier ∈ tiers i a b) : ∃ n ≤ tier, tier? i a b = some n := by
  have some : ∃ n, tier? i a b = some n := by
    unfold tier?
    rcases h with found | found <;> rw [found]
    · cases i.tier? b a <;> exact ⟨_, rfl⟩
    · cases i.tier? a b <;> exact ⟨_, rfl⟩
  obtain ⟨n, found⟩ := some
  exact ⟨n, (isLeast_of_tier? found).2 h, found⟩

/-! ## Candidates -/

/-- A free collection of another name that belongs to a source property at a tier. -/
structure Candidate (i : Inflector) (targets : List Property) (claims : List Claim) (s : Property)
    (place tier : Nat) (t : Property) : Prop where
  there : targets[place]? = some t
  free : isClaimed claims place = false
  collection : t.isCollection = true
  name_ne : t.name ≠ s.name
  tier_eq : tier? i s.name t.name = some tier

/-- A free collection of another name is a candidate if the names belong together at all. -/
theorem exists_candidate (there : targets[place]? = some t) (free : isClaimed claims place = false)
    (collection : t.isCollection = true) (name_ne : t.name ≠ s.name) (h : tier ∈ tiers i s.name t.name) :
    ∃ n ≤ tier, Candidate i targets claims s place n t := by
  obtain ⟨n, le, found⟩ := exists_tier? h
  exact ⟨n, le, there, free, collection, name_ne, found⟩

/-- What is free when there are more claims was free before. -/
theorem Candidate.anti (h : Candidate i targets claims' s place tier t) (sub : claims ⊆ claims') :
    Candidate i targets claims s place tier t := by
  refine ⟨h.there, isClaimed_eq_false_iff.mpr fun taken => ?_, h.collection, h.name_ne, h.tier_eq⟩
  exact isClaimed_eq_false_iff.mp h.free (List.map_subset _ sub taken)

theorem mem_scored_iff :
    (tier, place) ∈ scored i targets claims s ↔ ∃ t, Candidate i targets claims s place tier t := by
  unfold scored
  rw [List.mem_filterMap]
  constructor
  · rintro ⟨⟨t, at_⟩, mem, made⟩
    dsimp only at made
    split at made
    · rename_i test
      obtain ⟨n, tier_eq, same⟩ := Option.map_eq_some_iff.mp made
      obtain ⟨rfl, rfl⟩ := Prod.mk.inj same
      simp only [Bool.and_eq_true, Bool.not_eq_true', bne_iff_ne] at test
      exact ⟨t, List.mem_zipIdx_iff_getElem?.mp mem, test.1.1, test.1.2, test.2, tier_eq⟩
    · cases made
  · rintro ⟨t, h⟩
    refine ⟨(t, place), List.mem_zipIdx_iff_getElem?.mpr h.there, ?_⟩
    have test : (!isClaimed claims place && t.isCollection && t.name != s.name) = true := by
      rw [h.free, h.collection, bne_iff_ne.mpr h.name_ne]
      rfl
    dsimp only
    rw [if_pos test, h.tier_eq]
    rfl

/-- The scores stand in the order of the target. -/
theorem scored_places : ((scored i targets claims s).map Prod.snd).Pairwise (· < ·) := by
  refine pairwise_places (fun next score made => ?_) targets
  dsimp only at made
  split at made
  · obtain ⟨_, -, rfl⟩ := Option.map_eq_some_iff.mp made
    rfl
  · cases made

/-- The places of the candidates of the least tier, in the order of the target. -/
structure Closest (i : Inflector) (targets : List Property) (claims : List Claim) (s : Property)
    (tier : Nat) (places : List Nat) : Prop where
  mem_iff : ∀ place, place ∈ places ↔ ∃ t, Candidate i targets claims s place tier t
  least : ∀ place n t, Candidate i targets claims s place n t → tier ≤ n
  ordered : places.Pairwise (· < ·)
  nonempty : places ≠ []

theorem closest_of_min? (h : ((scored i targets claims s).map (·.1)).min? = some tier) :
    Closest i targets claims s tier
      (((scored i targets claims s).filter (·.1 == tier)).map (·.2)) := by
  obtain ⟨attained, least⟩ := List.min?_eq_some_iff.mp h
  refine ⟨fun place => ?_, fun place n t candidate => ?_, ?_, fun none => ?_⟩
  · rw [List.mem_map, ← mem_scored_iff]
    constructor
    · rintro ⟨score, mem, rfl⟩
      obtain ⟨mem, same⟩ := List.mem_filter.mp mem
      rwa [← beq_iff_eq.mp same]
    · exact fun mem => ⟨(tier, place), List.mem_filter.mpr ⟨mem, beq_self_eq_true tier⟩, rfl⟩
  · exact least n (List.mem_map.mpr ⟨(n, place), mem_scored_iff.mpr ⟨t, candidate⟩, rfl⟩)
  · exact scored_places.sublist (List.filter_sublist.map _)
  · obtain ⟨score, mem, same⟩ := List.mem_map.mp attained
    have stays : score ∈ (scored i targets claims s).filter (·.1 == tier) :=
      List.mem_filter.mpr ⟨mem, beq_iff_eq.mpr same⟩
    rw [List.map_eq_nil_iff.mp none] at stays
    exact List.not_mem_nil stays

/-! ## What the heuristic pass finds -/

/-- What the heuristic pass may find for a source property. -/
inductive Heuristic (i : Inflector) (targets : List Property) (claims : List Claim) (s : Property) :
    Except Fault (Option (Nat × MatchKind)) → Prop
  /-- A single value has no singular form. -/
  | single : s.isCollection = false → Heuristic i targets claims s (.ok none)
  /-- Nothing belongs to it. -/
  | unmatched : s.isCollection = true → (∀ place tier t, ¬ Candidate i targets claims s place tier t) →
      Heuristic i targets claims s (.ok none)
  /-- One candidate is the closest. -/
  | closest {place tier : Nat} : s.isCollection = true → Closest i targets claims s tier [place] →
      Heuristic i targets claims s (.ok (some (place, .singularized tier)))
  /-- Several are, and there is a free target property of the same name. -/
  | settled {place tier : Nat} {places : List Nat} : s.isCollection = true →
      Closest i targets claims s tier places → 2 ≤ places.length →
      exactMatch? targets claims s.name = some place →
      Heuristic i targets claims s (.ok (some (place, .exact)))
  /-- Several are, and there is none. -/
  | ambiguous {tier : Nat} {places : List Nat} : s.isCollection = true →
      Closest i targets claims s tier places → 2 ≤ places.length →
      exactMatch? targets claims s.name = none →
      Heuristic i targets claims s (.error (.ambiguousCorrelation s.name
        (places.filterMap fun place => targets[place]?.map (·.name))))

/-- **The heuristic pass** compares the candidates of a collection by their tiers. -/
theorem heuristic_heuristicMatch : Heuristic i targets claims s (heuristicMatch i targets claims s) := by
  unfold heuristicMatch
  split
  · rename_i collection
    dsimp only
    split
    · rename_i nothing
      refine .unmatched collection fun place tier t candidate => ?_
      have mem := List.mem_map_of_mem (f := Prod.fst) (mem_scored_iff.mpr ⟨t, candidate⟩)
      rw [List.min?_eq_none_iff.mp nothing] at mem
      exact List.not_mem_nil mem
    · rename_i least attained
      have closest := closest_of_min? attained
      split
      · rename_i place best
        rw [best] at closest
        exact .closest collection closest
      · rename_i places several
        have two : 2 ≤ (((scored i targets claims s).filter (·.1 == least)).map (·.2)).length := by
          cases places_eq : ((scored i targets claims s).filter (·.1 == least)).map (·.2) with
          | nil => exact absurd places_eq closest.nonempty
          | cons first rest =>
            cases rest with
            | nil => exact absurd places_eq (several first)
            | cons second rest => exact Nat.le_add_left 2 _
        split
        · rename_i place exact
          exact .settled collection closest two exact
        · rename_i none
          exact .ambiguous collection closest two none
  · rename_i single
    exact .single (Bool.not_eq_true _ ▸ single)

/-! ## What claims join -/

/-- Two properties belong together as a match says: they have one name, or else they are collections of which
one is named after a singular of the other. -/
structure Joined (i : Inflector) (s t : Property) (kind : MatchKind) : Prop where
  exact_iff : kind = .exact ↔ s.name = t.name
  singularized : ∀ tier, kind = .singularized tier →
    s.isCollection = true ∧ t.isCollection = true ∧ IsLeast (tiers i s.name t.name) tier

theorem joined_of_exactMatch? (h : exactMatch? targets claims s.name = some place) :
    ∃ t, targets[place]? = some t ∧ Joined i s t .exact := by
  obtain ⟨t, there, named⟩ := exists_of_exactMatch? h
  exact ⟨t, there, iff_of_true rfl named.symm, fun _ other => by cases other⟩

theorem Closest.joined {places : List Nat} (h : Closest i targets claims s tier places)
    (collection : s.isCollection = true) (mem : place ∈ places) :
    ∃ t, targets[place]? = some t ∧ Joined i s t (.singularized tier) := by
  obtain ⟨t, candidate⟩ := (h.mem_iff place).mp mem
  refine ⟨t, candidate.there, iff_of_false (fun other => by cases other) candidate.name_ne.symm, ?_⟩
  rintro _ ⟨⟩
  exact ⟨collection, candidate.collection, isLeast_of_tier? candidate.tier_eq⟩

/-- Either pass finds only what belongs together. -/
theorem joined_of_passMatch (h : passMatch i targets pass claims s = .ok (some (place, kind))) :
    ∃ t, targets[place]? = some t ∧ Joined i s t kind := by
  cases pass with
  | exact =>
    obtain ⟨found, match_eq, same⟩ := Option.map_eq_some_iff.mp (Except.ok.inj h)
    obtain ⟨rfl, rfl⟩ := Prod.mk.inj same
    exact joined_of_exactMatch? match_eq
  | heuristic =>
    have outcome : Heuristic i targets claims s (.ok (some (place, kind))) :=
      h ▸ heuristic_heuristicMatch
    cases outcome with
    | closest collection closest => exact closest.joined collection List.mem_cons_self
    | settled _ _ _ exact => exact joined_of_exactMatch? exact

/-- Each claim is between properties that belong together. -/
def AllJoined (i : Inflector) (sources targets : List Property) (claims : List Claim) : Prop :=
  ∀ c ∈ claims, ∃ s t, sources[c.source]? = some s ∧ targets[c.target]? = some t ∧ Joined i s t c.kind

theorem joined_claimNext {next : Property × Nat} (mem : next ∈ sources.zipIdx)
    (joined : AllJoined i sources targets claims)
    (h : claimNext i targets pass claims next = .ok claims') : AllJoined i sources targets claims' := by
  rcases claimNext_cases h with ⟨rfl, -⟩ | ⟨place, kind, rfl, -, found⟩
  · exact joined
  · obtain ⟨t, there, match_⟩ := joined_of_passMatch found
    exact List.forall_mem_append.mpr ⟨joined, List.forall_mem_singleton.mpr
      ⟨next.1, t, List.mem_zipIdx_iff_getElem?.mp mem, there, match_⟩⟩

theorem joined_runPass (joined : AllJoined i sources targets claims)
    (h : runPass i sources targets claims pass = .ok claims') : AllJoined i sources targets claims' :=
  foldlM_keeps _ _ _ (fun _ mem _ _ joined step => joined_claimNext mem joined step) joined h

/-- **All claims are between properties that belong together.** -/
theorem joined_claims (h : Correlation.claims i precedence source target o = .ok claims) :
    AllJoined i source.readable (targetsOf o target) claims :=
  foldlM_keeps _ _ _ (fun _ _ _ _ joined ran => joined_runPass joined ran)
    (fun _ mem => absurd mem List.not_mem_nil) h

end BeanMapping.Correlation
