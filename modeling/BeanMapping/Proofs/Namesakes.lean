import BeanMapping.Proofs.Matchings

/-!
# Exact names first

Where exact names come first and no name is repeated, the exact pass claims each target property for the
source property of its name (`mem_of_namesakes`). The heuristic pass finds neither of the two free, so it can
add nothing to the exact pairs, and what is known about singular forms has no influence on them.

Result:
* **`namesakes_win`**: whatever is known about singular forms, the exact pairs are those of properties of one
  name, and no other pair has a property of these.
-/

namespace BeanMapping.Correlation

variable {i i' : Inflector} {sources targets : List Property} {claims claims' : List Claim}
  {source target : BeanShape} {o : PropertyOptions} {pairs pairs' : List CorrelatedProperty} {s t : Property}

/-! ## Claims between namesakes -/

/-- **The exact pass claims each target property for the source property of its name.** -/
theorem mem_of_namesakes (sourceNames : (sources.map Property.name).Nodup)
    (targetNames : (targets.map Property.name).Nodup)
    (h : runPass i sources targets [] .exact = .ok claims) {k k' : Nat} (hs : sources[k]? = some s)
    (ht : targets[k']? = some t) (named : s.name = t.name) : ⟨k, k', .exact⟩ ∈ claims := by
  -- A claim that has either of the two properties is by its name, so it has the other as well.
  have own : ∀ c ∈ claims, c.source = k ∨ c.target = k' → c = ⟨k, k', .exact⟩ := by
    intro c hc common
    obtain ⟨s', t', hs', ht', joined⟩ :=
      joined_runPass (fun _ mem => absurd mem List.not_mem_nil) h c hc
    have exact := exact_runPass h c hc
    have named' := joined.exact_iff.mp exact
    have places : c.source = k ∧ c.target = k' := by
      rcases common with same | same
      · obtain rfl := Option.some.inj ((same ▸ hs').symm.trans hs)
        exact ⟨same, place_eq_of_key targetNames ht' ht (named'.symm.trans named)⟩
      · obtain rfl := Option.some.inj ((same ▸ ht').symm.trans ht)
        exact ⟨place_eq_of_key sourceNames hs' hs (named'.trans named.symm), same⟩
    obtain ⟨rfl, rfl⟩ := places
    rw [← exact]
  rcases served_runPass h (s, k) (List.mem_zipIdx_iff_getElem?.mpr hs) with paired | taken
  · obtain ⟨c, hc, same⟩ := List.mem_map.mp (isPaired_iff.mp paired)
    exact own c hc (Or.inl same) ▸ hc
  · obtain ⟨c, hc, same⟩ := List.mem_map.mp (isClaimed_iff.mp (taken k' t ht named.symm))
    exact own c hc (Or.inr same) ▸ hc

/-- The pair of a source property with a claim. -/
theorem Grounded.pairOf?_eq (grounded : Grounded sources targets claims) {c : Claim} (mem : c ∈ claims)
    (ht : targets[c.target]? = some t) : pairOf? targets claims (s, c.source) = some ⟨s, t, c.kind⟩ := by
  unfold pairOf?
  rw [find?_of_nodup grounded.once mem, Option.bind_eq_bind, Option.bind_some, ht]
  rfl

/-! ## Pairs of namesakes -/

/-- A readable source property and a target property that may be written to have one name. -/
structure Namesakes (source target : BeanShape) (o : PropertyOptions) (s t : Property) : Prop where
  source : s ∈ source.properties
  readable : s.isReadable = true
  target : t ∈ target.properties
  allowed : o.isIgnored t.name = false
  named : s.name = t.name

/-- The pairs of namesakes, in the order of the source. -/
def namesakePairs (source target : BeanShape) (o : PropertyOptions) : List CorrelatedProperty :=
  source.readable.filterMap fun s =>
    ((targetsOf o target).find? (·.name == s.name)).map (⟨s, ·, .exact⟩)

theorem namesakes_iff : Namesakes source target o s t ↔
    s ∈ source.readable ∧ t ∈ targetsOf o target ∧ s.name = t.name := by
  unfold BeanShape.readable targetsOf
  rw [List.mem_filter, List.mem_filter, Bool.not_eq_true']
  exact ⟨fun h => ⟨⟨h.source, h.readable⟩, ⟨h.target, h.allowed⟩, h.named⟩,
    fun ⟨⟨hs, readable⟩, ⟨ht, allowed⟩, named⟩ => ⟨hs, readable, ht, allowed, named⟩⟩

theorem mem_namesakePairs (targetNames : ((targetsOf o target).map Property.name).Nodup) :
    (⟨s, t, .exact⟩ : CorrelatedProperty) ∈ namesakePairs source target o ↔
      Namesakes source target o s t := by
  rw [namesakes_iff]
  unfold namesakePairs
  rw [List.mem_filterMap]
  constructor
  · rintro ⟨s', hs, made⟩
    obtain ⟨t', found, same⟩ := Option.map_eq_some_iff.mp made
    cases same
    have named := List.find?_some found
    exact ⟨hs, List.mem_of_find?_eq_some found, (beq_iff_eq.mp named).symm⟩
  · rintro ⟨hs, ht, named⟩
    refine ⟨s, hs, ?_⟩
    rw [named, find?_of_nodup targetNames ht]
    rfl

/-! ## What wins -/

section ExactFirst

variable (sourceNames : (source.readable.map Property.name).Nodup)
  (targetNames : ((targetsOf o target).map Property.name).Nodup)
  (claimed : Correlation.claims i .exactName source target o = .ok claims)

include sourceNames targetNames claimed

theorem mem_claims_of_namesakes {k k' : Nat} (hs : source.readable[k]? = some s)
    (ht : (targetsOf o target)[k']? = some t) (named : s.name = t.name) : ⟨k, k', .exact⟩ ∈ claims := by
  obtain ⟨first, ran, sub⟩ := exists_named_claims claimed
  exact sub (mem_of_namesakes sourceNames targetNames ran hs ht named)

/-- **The exact pairs** are those of namesakes. -/
theorem filter_exact_eq :
    (source.readable.zipIdx.filterMap (pairOf? (targetsOf o target) claims)).filter
      (·.matchKind == .exact) = namesakePairs source target o := by
  have grounded := grounded_claims claimed
  unfold namesakePairs
  conv => rhs; rw [← List.zipIdx_map_fst 0 source.readable]
  rw [List.filter_filterMap, List.filterMap_map]
  refine List.filterMap_congr fun ⟨s, k⟩ read => ?_
  have hs := List.mem_zipIdx_iff_getElem?.mp read
  show (pairOf? (targetsOf o target) claims (s, k)).filter (·.matchKind == .exact) =
    ((targetsOf o target).find? (·.name == s.name)).map (⟨s, ·, .exact⟩)
  cases found : (targetsOf o target).find? (·.name == s.name) with
  | some t =>
    have named := List.find?_some found
    obtain ⟨k', ht⟩ := List.getElem?_of_mem (List.mem_of_find?_eq_some found)
    have own := mem_claims_of_namesakes sourceNames targetNames claimed hs ht (beq_iff_eq.mp named).symm
    rw [grounded.pairOf?_eq own ht]
    rfl
  | none =>
    refine Option.filter_eq_none_iff.mpr fun pair made exact => ?_
    have mem := List.mem_filterMap.mpr ⟨(s, k), read, made⟩
    obtain ⟨-, ht, named⟩ := grounded.name_eq mem (beq_iff_eq.mp exact)
    rw [(exists_claim made).1] at named
    exact List.find?_eq_none.mp found _ ht (beq_iff_eq.mpr named.symm)

/-- A singular match has no property that has a namesake. -/
theorem ne_of_singularized {pair : CorrelatedProperty}
    (mem : pair ∈ source.readable.zipIdx.filterMap (pairOf? (targetsOf o target) claims)) {tier : Nat}
    (singular : pair.matchKind = .singularized tier) (own : Namesakes source target o s t) :
    pair.source ≠ s ∧ pair.target ≠ t := by
  have grounded := grounded_claims claimed
  obtain ⟨c, hc, made⟩ := grounded.exists_makes mem
  obtain ⟨hs, ht, named⟩ := namesakes_iff.mp own
  have other : ∀ k k', (⟨k, k', .exact⟩ : Claim) = c → False := by
    rintro k k' rfl
    cases made.kind.trans singular
  constructor
  · rintro rfl
    obtain ⟨k, at_k⟩ := List.getElem?_of_mem ht
    have exact := mem_claims_of_namesakes sourceNames targetNames claimed made.source at_k named
    exact other _ _ (List.inj_on_of_nodup_map grounded.once exact hc rfl)
  · rintro rfl
    obtain ⟨k, at_k⟩ := List.getElem?_of_mem hs
    have exact := mem_claims_of_namesakes sourceNames targetNames claimed at_k made.target named
    exact other _ _ (List.inj_on_of_nodup_map (distinct_claims claimed) exact hc rfl)

end ExactFirst

/-- **Namesakes win**: the exact pairs are those of namesakes, and no other pair has a property of these. -/
structure NamesakesWin (source target : BeanShape) (o : PropertyOptions) (pairs : List CorrelatedProperty) :
    Prop where
  exact_iff : ∀ s t, (⟨s, t, .exact⟩ : CorrelatedProperty) ∈ pairs ↔ Namesakes source target o s t
  apart : ∀ pair ∈ pairs, ∀ tier, pair.matchKind = .singularized tier →
    ∀ s t, Namesakes source target o s t → pair.source ≠ s ∧ pair.target ≠ t

theorem namesakesWin_of_correlate (sourceNames : (source.properties.map Property.name).Nodup)
    (targetNames : (target.properties.map Property.name).Nodup)
    (h : correlate i .exactName source target o = .ok pairs) :
    NamesakesWin source target o pairs ∧
      pairs.filter (·.matchKind == .exact) = namesakePairs source target o := by
  have sourceNames := nodup_readable sourceNames
  have targetNames : ((targetsOf o target).map Property.name).Nodup := nodup_targetsOf targetNames
  obtain ⟨claims, claimed, rfl⟩ := correlate_eq_ok_iff.mp h
  have exactPairs := filter_exact_eq sourceNames targetNames claimed
  refine ⟨⟨fun s t => ?_, fun pair mem tier singular s t own => ?_⟩, exactPairs⟩
  · rw [← mem_namesakePairs targetNames, ← exactPairs, List.mem_filter]
    exact ⟨fun mem => ⟨mem, rfl⟩, And.left⟩
  · exact ne_of_singularized sourceNames targetNames claimed mem singular own

/-- **Where exact names come first they win**, whatever is known about singular forms: any two correlations
of the same shapes have the same exact pairs, which are those of namesakes. -/
theorem namesakes_win (sourceNames : (source.properties.map Property.name).Nodup)
    (targetNames : (target.properties.map Property.name).Nodup)
    (h : correlate i .exactName source target o = .ok pairs)
    (h' : correlate i' .exactName source target o = .ok pairs') :
    NamesakesWin source target o pairs ∧ NamesakesWin source target o pairs' ∧
      pairs.filter (·.matchKind == .exact) = pairs'.filter (·.matchKind == .exact) := by
  obtain ⟨wins, exactPairs⟩ := namesakesWin_of_correlate sourceNames targetNames h
  obtain ⟨wins', exactPairs'⟩ := namesakesWin_of_correlate sourceNames targetNames h'
  exact ⟨wins, wins', exactPairs.trans exactPairs'.symm⟩

/-! ### Farms -/

/-- What is known about a farm. -/
def farm : BeanShape := ⟨⟨"Farm"⟩, [texts "herd", texts "pets"]⟩

/-- What is written about a farm. -/
def farmDto : BeanShape := ⟨⟨"FarmDto"⟩, [texts "cow", texts "pets"]⟩

/-- An inflector that knows one of a herd. -/
def herdOf (singular : String) : Inflector := ⟨.ofList [("herd", singular)]⟩

/-- Pets stay pets, whether one of a herd is a cow or pets. -/
theorem namesakes_win_on_farms :
    correlate (herdOf "cow") .exactName farm farmDto .empty =
      .ok [⟨texts "herd", texts "cow", .singularized 0⟩, ⟨texts "pets", texts "pets", .exact⟩] ∧
    correlate (herdOf "pets") .exactName farm farmDto .empty =
      .ok [⟨texts "pets", texts "pets", .exact⟩] ∧
    NamesakesWin farm farmDto .empty
      [⟨texts "herd", texts "cow", .singularized 0⟩, ⟨texts "pets", texts "pets", .exact⟩] ∧
    NamesakesWin farm farmDto .empty [⟨texts "pets", texts "pets", .exact⟩] := by
  have ofCows : correlate (herdOf "cow") .exactName farm farmDto .empty =
      .ok [⟨texts "herd", texts "cow", .singularized 0⟩, ⟨texts "pets", texts "pets", .exact⟩] := by
    decide +kernel
  have ofPets : correlate (herdOf "pets") .exactName farm farmDto .empty =
      .ok [⟨texts "pets", texts "pets", .exact⟩] := by decide +kernel
  obtain ⟨wins, wins', -⟩ := namesakes_win (by decide) (by decide) ofCows ofPets
  exact ⟨ofCows, ofPets, wins, wins'⟩

end BeanMapping.Correlation
