import BeanMapping.Proofs.Correlated

/-!
# Correlation by exact names

Where properties correlate by exact names only (`ByExactNames`), the pairs are all those of a readable
source property and a target property of one name, whichever of them come first: the exact pass serves each
source property (`Served`), and what keeps one from its target is a claim of the same name.

Result:
* **`mem_iff_of_exact`**: the pairs of such a correlation.
-/

namespace BeanMapping.Correlation

variable {i : Inflector} {sources targets : List Property} {claims claims' : List Claim}
  {source target : BeanShape} {o : PropertyOptions} {precedence : NamePrecedence}
  {pairs : List CorrelatedProperty} {place : Nat} {kind : MatchKind}

/-- **Two shapes correlate by exact names only.** -/
def ByExactNames (i : Inflector) (precedence : NamePrecedence) (source target : BeanShape)
    (o : PropertyOptions) : Prop :=
  ∃ pairs, correlate i precedence source target o = .ok pairs ∧ ∀ pair ∈ pairs, pair.matchKind = .exact

instance : Decidable (ByExactNames i precedence source target o) :=
  match h : correlate i precedence source target o with
  | .error _ => isFalse fun ⟨_, found, _⟩ => by rw [h] at found; cases found
  | .ok pairs =>
    if exact : ∀ pair ∈ pairs, pair.matchKind = .exact then isTrue ⟨pairs, h, exact⟩
    else isFalse fun ⟨_, found, all⟩ => exact (Except.ok.inj (h.symm.trans found) ▸ all)

/-! ## Shapes without properties -/

/-- Where there are no target properties nothing is claimed. -/
theorem claimNext_of_nil (pass : Pass) (next : Property × Nat) : claimNext i [] pass [] next = .ok [] := by
  have found : passMatch i [] pass [] next.1 = .ok none := by
    cases pass with
    | exact => rfl
    | heuristic =>
      show heuristicMatch i [] [] next.1 = _
      unfold heuristicMatch
      split <;> rfl
  unfold claimNext
  rw [found]
  rfl

theorem runPass_of_nil (nothing : sources = [] ∨ targets = []) (pass : Pass) :
    runPass i sources targets [] pass = .ok [] := by
  rcases nothing with rfl | rfl
  · rfl
  · unfold runPass
    induction sources.zipIdx with
    | nil => rfl
    | cons next l ih => exact foldlM_cons_eq_ok_iff.mpr ⟨[], claimNext_of_nil pass next, ih⟩

/-- **Shapes of which one has no properties correlate**, to no pairs. -/
theorem byExactNames_of_nil (nothing : source.properties = [] ∨ target.properties = []) :
    ByExactNames i precedence source target o := by
  have sides : source.readable = [] ∨ targetsOf o target = [] := by
    unfold BeanShape.readable targetsOf
    exact nothing.imp (fun none => by rw [none]; rfl) fun none => by rw [none]; rfl
  have unclaimed : Correlation.claims i precedence source target o = .ok [] := by
    unfold Correlation.claims
    generalize passes precedence = order
    induction order with
    | nil => rfl
    | cons pass order ih => exact foldlM_cons_eq_ok_iff.mpr ⟨[], runPass_of_nil sides pass, ih⟩
  have unpaired : source.readable.zipIdx.filterMap (pairOf? (targetsOf o target) []) = [] :=
    List.filterMap_eq_nil_iff.mpr fun _ _ => rfl
  exact ⟨[], correlate_eq_ok_iff.mpr ⟨[], unclaimed, unpaired⟩, fun _ mem => absurd mem List.not_mem_nil⟩

/-! ## Claims -/

/-- No source property has two claims, and each claim is between properties that there are, which have one
name if the claim says so. -/
structure Grounded (sources targets : List Property) (claims : List Claim) : Prop where
  once : (claims.map (·.source)).Nodup
  between : ∀ c ∈ claims, ∃ s t, sources[c.source]? = some s ∧ targets[c.target]? = some t ∧
    (c.kind = .exact → s.name = t.name)

theorem isPaired_iff : isPaired claims place = true ↔ place ∈ claims.map (·.source) := by
  unfold isPaired
  rw [List.any_eq_true, List.mem_map]
  simp only [beq_iff_eq]

/-- An exact match is a property of the name. -/
theorem exists_of_exactMatch? {name : String} (h : exactMatch? targets claims name = some place) :
    ∃ t, targets[place]? = some t ∧ t.name = name := by
  unfold exactMatch? at h
  obtain ⟨⟨t, _⟩, found, rfl⟩ := Option.map_eq_some_iff.mp h
  have test := List.find?_some found
  rw [Bool.and_eq_true, beq_iff_eq] at test
  exact ⟨t, List.mem_zipIdx_iff_getElem?.mp (List.mem_of_find?_eq_some found), test.2⟩

/-- Without an exact match all properties of the name are claimed. -/
theorem isClaimed_of_exactMatch?_eq_none {name : String} (h : exactMatch? targets claims name = none)
    {t : Property} (there : targets[place]? = some t) (named : t.name = name) :
    isClaimed claims place = true := by
  unfold exactMatch? at h
  rw [Option.map_eq_none_iff, List.find?_eq_none] at h
  have missed := h (t, place) (List.mem_zipIdx_iff_getElem?.mpr there)
  simpa [named] using missed

/-- What a pass finds is there, and has the name if it is found by its name. -/
theorem exists_of_passMatch {s : Property} {pass : Pass}
    (h : passMatch i targets pass claims s = .ok (some (place, kind))) :
    ∃ t, targets[place]? = some t ∧ (kind = .exact → s.name = t.name) := by
  have byName : exactMatch? targets claims s.name = some place →
      ∃ t, targets[place]? = some t ∧ (kind = .exact → s.name = t.name) := by
    intro found
    obtain ⟨t, there, named⟩ := exists_of_exactMatch? found
    exact ⟨t, there, fun _ => named.symm⟩
  cases pass with
  | exact =>
    obtain ⟨found, match_eq, same⟩ := Option.map_eq_some_iff.mp (Except.ok.inj h)
    obtain ⟨rfl, -⟩ := Prod.mk.inj same
    exact byName match_eq
  | heuristic =>
    unfold passMatch heuristicMatch at h
    dsimp only at h
    split at h
    · split at h
      · cases h
      · split at h
        · rename_i best
          obtain ⟨rfl, rfl⟩ := Prod.mk.inj (Option.some.inj (Except.ok.inj h))
          have mem := best ▸ List.mem_singleton_self _
          obtain ⟨score, hs, rfl⟩ := List.mem_map.mp mem
          obtain ⟨⟨t, at_⟩, there, made⟩ := List.mem_filterMap.mp (List.mem_filter.mp hs).1
          dsimp only at made
          split at made
          · obtain ⟨_, -, rfl⟩ := Option.map_eq_some_iff.mp made
            exact ⟨t, List.mem_zipIdx_iff_getElem?.mp there, fun exact => by cases exact⟩
          · cases made
        · split at h
          · rename_i exact
            obtain ⟨rfl, -⟩ := Prod.mk.inj (Option.some.inj (Except.ok.inj h))
            exact byName exact
          · cases h
    · cases h

/-- One step adds a claim for its source property, or leaves the claims as they are. -/
theorem claimNext_cases {pass : Pass} {next : Property × Nat}
    (h : claimNext i targets pass claims next = .ok claims') :
    claims' = claims ∧ (isPaired claims next.2 = true ∨
        passMatch i targets pass claims next.1 = .ok none) ∨
      ∃ place kind, claims' = claims ++ [⟨next.2, place, kind⟩] ∧ isPaired claims next.2 = false ∧
        passMatch i targets pass claims next.1 = .ok (some (place, kind)) := by
  unfold claimNext at h
  split at h
  · rename_i paired
    exact Or.inl ⟨(Except.ok.inj h).symm, Or.inl paired⟩
  · rename_i unpaired
    split at h
    · cases h
    · rename_i nothing
      exact Or.inl ⟨(Except.ok.inj h).symm, Or.inr nothing⟩
    · rename_i place kind found
      exact Or.inr ⟨place, kind, (Except.ok.inj h).symm, Bool.not_eq_true _ ▸ unpaired, found⟩

theorem subset_claimNext {pass : Pass} {next : Property × Nat}
    (h : claimNext i targets pass claims next = .ok claims') : claims ⊆ claims' := by
  rcases claimNext_cases h with ⟨rfl, -⟩ | ⟨_, _, rfl, -⟩
  · exact List.Subset.refl _
  · exact List.subset_append_left _ _

theorem subset_runPass {pass : Pass} (h : runPass i sources targets claims pass = .ok claims') :
    claims ⊆ claims' :=
  foldlM_keeps _ _ _ (fun _ _ _ _ sub step => List.Subset.trans sub (subset_claimNext step))
    (List.Subset.refl _) h

theorem grounded_claimNext {pass : Pass} {next : Property × Nat} (mem : next ∈ sources.zipIdx)
    (grounded : Grounded sources targets claims)
    (h : claimNext i targets pass claims next = .ok claims') : Grounded sources targets claims' := by
  rcases claimNext_cases h with ⟨rfl, -⟩ | ⟨place, kind, rfl, unpaired, found⟩
  · exact grounded
  · obtain ⟨t, there, named⟩ := exists_of_passMatch found
    refine ⟨?_, List.forall_mem_append.mpr ⟨grounded.between, List.forall_mem_singleton.mpr ?_⟩⟩
    · have free : next.2 ∉ claims.map (·.source) := fun mem => by
        rw [isPaired_iff.mpr mem] at unpaired
        cases unpaired
      rw [List.map_append, List.map_singleton]
      exact (List.perm_append_singleton _ _).nodup_iff.mpr (List.nodup_cons.mpr ⟨free, grounded.once⟩)
    · exact ⟨next.1, t, List.mem_zipIdx_iff_getElem?.mp mem, there, named⟩

/-- **All claims are grounded.** -/
theorem grounded_claims (h : Correlation.claims i precedence source target o = .ok claims) :
    Grounded source.readable (targetsOf o target) claims := by
  have nothing : Grounded source.readable (targetsOf o target) [] :=
    ⟨List.nodup_nil, fun c mem => absurd mem List.not_mem_nil⟩
  refine foldlM_keeps _ _ _ (fun pass _ before after grounded ran => ?_) nothing h
  exact foldlM_keeps _ _ _ (fun next mem _ _ grounded step => grounded_claimNext mem grounded step)
    grounded ran

/-! ## The exact pass -/

/-- A source property has a claim, or all target properties of its name are claimed. -/
def Served (targets : List Property) (next : Property × Nat) (claims : List Claim) : Prop :=
  isPaired claims next.2 = true ∨
    ∀ place t, targets[place]? = some t → t.name = next.1.name → isClaimed claims place = true

theorem Served.mono {next : Property × Nat} (h : Served targets next claims) (sub : claims ⊆ claims') :
    Served targets next claims' := by
  refine h.imp (fun paired => ?_) fun taken place t there named => ?_
  · exact isPaired_iff.mpr (List.map_subset _ sub (isPaired_iff.mp paired))
  · exact isClaimed_iff.mpr (List.map_subset _ sub (isClaimed_iff.mp (taken place t there named)))

theorem served_claimNext {next : Property × Nat}
    (h : claimNext i targets .exact claims next = .ok claims') : Served targets next claims' := by
  rcases claimNext_cases h with ⟨rfl, paired | nothing⟩ | ⟨place, kind, rfl, -, -⟩
  · exact Or.inl paired
  · have missed : exactMatch? targets claims' next.1.name = none :=
      Option.map_eq_none_iff.mp (Except.ok.inj nothing)
    exact Or.inr fun place t there named => isClaimed_of_exactMatch?_eq_none missed there named
  · refine Or.inl (isPaired_iff.mpr ?_)
    rw [List.map_append]
    exact List.mem_append_right _ List.mem_cons_self

/-- The exact pass serves each source property. -/
theorem served_runPass (h : runPass i sources targets claims .exact = .ok claims') :
    ∀ next ∈ sources.zipIdx, Served targets next claims' :=
  foldlM_achieves _ _ _ (fun _ _ _ _ step => served_claimNext step)
    (fun _ _ _ _ _ served step => served.mono (subset_claimNext step)) h

theorem exact_mem_passes (precedence : NamePrecedence) : Pass.exact ∈ passes precedence := by
  cases precedence <;> decide

/-- **Each source property is served**, whichever pass comes first. -/
theorem served_claims (h : Correlation.claims i precedence source target o = .ok claims) :
    ∀ next ∈ source.readable.zipIdx, Served (targetsOf o target) next claims := by
  refine foldlM_achieves (P := fun pass claims => pass = Pass.exact →
      ∀ next ∈ source.readable.zipIdx, Served (targetsOf o target) next claims) _ _ _
    (fun pass _ before after ran exact => ?_) (fun _ pass _ before after done ran exact next mem => ?_) h
    _ (exact_mem_passes precedence) rfl
  · subst exact
    exact served_runPass ran
  · exact (done exact next mem).mono (subset_runPass ran)

/-! ## Pairs -/

/-- Each claim makes a pair. -/
theorem Grounded.exists_pair (grounded : Grounded sources targets claims) {c : Claim} (mem : c ∈ claims) :
    ∃ s t, sources[c.source]? = some s ∧ targets[c.target]? = some t ∧
      (c.kind = .exact → s.name = t.name) ∧
      ⟨s, t, c.kind⟩ ∈ sources.zipIdx.filterMap (pairOf? targets claims) := by
  obtain ⟨s, t, hs, ht, named⟩ := grounded.between c mem
  refine ⟨s, t, hs, ht, named, List.mem_filterMap.mpr ⟨(s, c.source), ?_, ?_⟩⟩
  · exact List.mem_zipIdx_iff_getElem?.mpr hs
  · unfold pairOf?
    rw [find?_of_nodup grounded.once mem, Option.bind_eq_bind, Option.bind_some, ht]
    rfl

/-- A pair of an exact claim is between properties of one name. -/
theorem Grounded.name_eq (grounded : Grounded sources targets claims) {pair : CorrelatedProperty}
    (mem : pair ∈ sources.zipIdx.filterMap (pairOf? targets claims)) (exact : pair.matchKind = .exact) :
    pair.source ∈ sources ∧ pair.target ∈ targets ∧ pair.source.name = pair.target.name := by
  obtain ⟨⟨s, place⟩, read, made⟩ := List.mem_filterMap.mp mem
  obtain ⟨source_eq, c, hc, rfl, taken, kind_eq⟩ := exists_claim made
  obtain ⟨s', t, hs, ht, named⟩ := grounded.between c hc
  obtain rfl := Option.some.inj ((List.mem_zipIdx_iff_getElem?.mp read).symm.trans hs)
  obtain rfl := Option.some.inj (taken.symm.trans ht)
  rw [source_eq]
  exact ⟨List.mem_of_getElem? hs, List.mem_of_getElem? ht, named (kind_eq.trans exact)⟩

/-- Two pairs of properties of one name that have a property in common are the same. -/
theorem eq_of_common {s s' t t' : Property} (sourceNames : (sources.map Property.name).Nodup)
    (targetNames : (targets.map Property.name).Nodup) (hs : s ∈ sources) (hs' : s' ∈ sources)
    (ht : t ∈ targets) (ht' : t' ∈ targets) (named : s.name = t.name) (named' : s'.name = t'.name)
    (common : s = s' ∨ t = t') : s = s' ∧ t = t' := by
  rcases common with rfl | rfl
  · exact ⟨rfl, List.inj_on_of_nodup_map targetNames ht ht' (named.symm.trans named')⟩
  · exact ⟨List.inj_on_of_nodup_map sourceNames hs hs' (named.trans named'.symm), rfl⟩

/-- **The pairs of a correlation by exact names only** are those of a readable source property and a target
property of one name. -/
theorem mem_iff_of_exact (sourceNames : (source.properties.map Property.name).Nodup)
    (targetNames : (target.properties.map Property.name).Nodup)
    (h : correlate i precedence source target o = .ok pairs)
    (exact : ∀ pair ∈ pairs, pair.matchKind = .exact) (pair : CorrelatedProperty) :
    pair ∈ pairs ↔ pair.matchKind = .exact ∧ pair.source ∈ source.readable ∧
      pair.target ∈ targetsOf o target ∧ pair.source.name = pair.target.name := by
  have sourceNames := nodup_readable sourceNames
  have targetNames : ((targetsOf o target).map Property.name).Nodup := nodup_targetsOf targetNames
  obtain ⟨claims, claimed, rfl⟩ := correlate_eq_ok_iff.mp h
  have grounded := grounded_claims claimed
  refine ⟨fun mem => ⟨exact pair mem, grounded.name_eq mem (exact pair mem)⟩, ?_⟩
  rintro ⟨kind_eq, hs, ht, named⟩
  obtain ⟨place, there⟩ := List.getElem?_of_mem hs
  obtain ⟨place', there'⟩ := List.getElem?_of_mem ht
  -- A claim that takes either of the two properties is by its name, so it makes this very pair.
  have made : ∀ c ∈ claims, c.source = place ∨ c.target = place' →
      pair ∈ source.readable.zipIdx.filterMap (pairOf? (targetsOf o target) claims) := by
    intro c hc taken
    obtain ⟨s, t, hs', ht', same, made⟩ := grounded.exists_pair hc
    have c_exact := exact _ made
    have common : s = pair.source ∨ t = pair.target := by
      refine taken.imp (fun eq => ?_) fun eq => ?_
      · exact Option.some.inj ((eq ▸ hs').symm.trans there)
      · exact Option.some.inj ((eq ▸ ht').symm.trans there')
    obtain ⟨rfl, rfl⟩ := eq_of_common sourceNames targetNames (List.mem_of_getElem? hs') hs
      (List.mem_of_getElem? ht') ht (same c_exact) named common
    rwa [show c.kind = pair.matchKind from c_exact.trans kind_eq.symm] at made
  rcases served_claims claimed (pair.source, place) (List.mem_zipIdx_iff_getElem?.mpr there) with
    paired | taken
  · obtain ⟨c, hc, own⟩ := List.mem_map.mp (isPaired_iff.mp paired)
    exact made c hc (Or.inl own)
  · obtain ⟨c, hc, own⟩ := List.mem_map.mp (isClaimed_iff.mp (taken place' _ there' named.symm))
    exact made c hc (Or.inr own)

end BeanMapping.Correlation
