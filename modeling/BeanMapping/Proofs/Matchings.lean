import BeanMapping.Proofs.HeuristicMatches
import Mathlib.Data.List.Forall2
import Mathlib.Order.Monotone.Defs

/-!
# What a correlation matches

The claims of a correlation grow, and what is free in the end was free all the time. So what the heuristic
pass knew of the candidates when it took one is still true of those that are left (`LocallyBest`), and what it
left without a match has none among them (`Exhausted`).

`Matching` says what the pairs are, with the places of their properties among all properties of the two
shapes. The claims know the places among the readable and among the writable properties only; `placeIn` leads
from the one to the other.

Results:
* **`correlation_is_matching`**: the pairs of a correlation are a matching, to which nothing can be added, and
  in which no collection that is left is closer than the one that was taken;
* **`closer_target_is_left`**: a property of the same name may be left, and so may a single value, and be
  closer.
-/

namespace BeanMapping

/-! ## Places -/

section Places

variable {α : Type} {test : α → Bool} {l : List α} {a : α} {n : Nat}

/-- The place in a list of what stands at a place among its items that pass a test. -/
def placeIn (test : α → Bool) : List α → Nat → Nat
  | [], k => k
  | a :: l, k =>
    if test a then
      match k with
      | 0 => 0
      | k + 1 => placeIn test l k + 1
    else placeIn test l k + 1

theorem getElem?_placeIn (test : α → Bool) (l : List α) (k : Nat) :
    l[placeIn test l k]? = (l.filter test)[k]? := by
  induction l generalizing k with
  | nil => rfl
  | cons a l ih =>
    unfold placeIn
    split
    · rename_i passes
      rw [List.filter_cons_of_pos passes]
      cases k with
      | zero => rfl
      | succ k => exact ih k
    · rename_i fails
      rw [List.filter_cons_of_neg fails]
      exact ih k

theorem strictMono_placeIn (test : α → Bool) (l : List α) : StrictMono (placeIn test l) := by
  induction l with
  | nil => exact fun _ _ lt => lt
  | cons a l ih =>
    intro j k lt
    unfold placeIn
    split
    · cases k with
      | zero => exact absurd lt (Nat.not_lt_zero j)
      | succ k =>
        cases j with
        | zero => exact Nat.succ_pos _
        | succ j => exact Nat.succ_lt_succ (ih (Nat.lt_of_succ_lt_succ lt))
    · exact Nat.succ_lt_succ (ih lt)

theorem exists_placeIn (there : l[n]? = some a) (passes : test a = true) : ∃ k, placeIn test l k = n := by
  induction l generalizing n with
  | nil => cases there
  | cons b l ih =>
    unfold placeIn
    cases n with
    | zero =>
      obtain rfl := Option.some.inj there
      exact ⟨0, by rw [if_pos passes]⟩
    | succ n =>
      obtain ⟨k, rfl⟩ := ih there
      by_cases first : test b = true
      · exact ⟨k + 1, by rw [if_pos first]⟩
      · exact ⟨k, by rw [if_neg first]⟩

end Places

namespace Correlation

variable {i : Inflector} {sources targets : List Property} {claims claims' : List Claim}
  {source target : BeanShape} {o : PropertyOptions} {precedence : NamePrecedence}
  {pairs : List CorrelatedProperty} {pass : Pass} {next : Property × Nat}

/-! ## What is left -/

/-- What is free is farther from the source property of each singular match than what it took. -/
def LocallyBest (i : Inflector) (sources targets : List Property) (claims : List Claim) : Prop :=
  ∀ c ∈ claims, ∀ tier, c.kind = .singularized tier → ∀ s, sources[c.source]? = some s →
    ∀ place n t, Candidate i targets claims s place n t → tier < n

theorem locallyBest_claimNext (mem : next ∈ sources.zipIdx) (best : LocallyBest i sources targets claims)
    (h : claimNext i targets pass claims next = .ok claims') : LocallyBest i sources targets claims' := by
  have sub := subset_claimNext h
  rcases claimNext_cases h with ⟨rfl, -⟩ | ⟨taken, kind, rfl, -, found⟩
  · exact best
  · refine List.forall_mem_append.mpr ⟨fun c hc tier singular s hs place n t candidate => ?_,
      List.forall_mem_singleton.mpr fun tier singular s hs place n t candidate => ?_⟩
    · exact best c hc tier singular s hs place n t (candidate.anti sub)
    · obtain rfl : kind = .singularized tier := singular
      obtain rfl := Option.some.inj ((List.mem_zipIdx_iff_getElem?.mp mem).symm.trans hs)
      cases pass with
      | exact =>
        obtain ⟨_, -, same⟩ := Option.map_eq_some_iff.mp (Except.ok.inj found)
        cases (Prod.mk.inj same).2
      | heuristic =>
        have outcome : Heuristic i targets claims next.1 (.ok (some (taken, .singularized tier))) :=
          found ▸ heuristic_heuristicMatch
        cases outcome with
        | closest _ closest =>
          have before := candidate.anti sub
          refine lt_of_le_of_ne (closest.least place n t before) ?_
          rintro rfl
          -- Of the least tier there was one candidate only, and it is free no more.
          have own := List.mem_singleton.mp ((closest.mem_iff place).mpr ⟨t, before⟩)
          refine isClaimed_eq_false_iff.mp candidate.free ?_
          rw [own, List.map_append]
          exact List.mem_append_right _ List.mem_cons_self

/-- **No collection that is left is as close** as the one that was taken. -/
theorem locallyBest_claims (h : Correlation.claims i precedence source target o = .ok claims) :
    LocallyBest i source.readable (targetsOf o target) claims :=
  foldlM_keeps _ _ _ (fun _ _ _ _ best ran =>
    foldlM_keeps _ _ _ (fun _ mem _ _ best step => locallyBest_claimNext mem best step) best ran)
    (fun _ mem => absurd mem List.not_mem_nil) h

/-- A source property has a claim, or no free collection belongs to it. -/
def Exhausted (i : Inflector) (targets : List Property) (next : Property × Nat) (claims : List Claim) : Prop :=
  isPaired claims next.2 = true ∨
    (next.1.isCollection = true → ∀ place n t, ¬ Candidate i targets claims next.1 place n t)

theorem Exhausted.mono (h : Exhausted i targets next claims) (sub : claims ⊆ claims') :
    Exhausted i targets next claims' :=
  h.imp (fun paired => isPaired_iff.mpr (List.map_subset _ sub (isPaired_iff.mp paired)))
    fun none collection place n t candidate => none collection place n t (candidate.anti sub)

theorem exhausted_claimNext (h : claimNext i targets .heuristic claims next = .ok claims') :
    Exhausted i targets next claims' := by
  rcases claimNext_cases h with ⟨rfl, paired | nothing⟩ | ⟨place, kind, rfl, -, -⟩
  · exact Or.inl paired
  · have outcome : Heuristic i targets claims' next.1 (.ok none) := nothing ▸ heuristic_heuristicMatch
    refine Or.inr fun collection => ?_
    cases outcome with
    | single single => exact absurd collection (single ▸ Bool.false_ne_true)
    | unmatched _ none => exact none
  · refine Or.inl (isPaired_iff.mpr ?_)
    rw [List.map_append]
    exact List.mem_append_right _ List.mem_cons_self

theorem heuristic_mem_passes (precedence : NamePrecedence) : Pass.heuristic ∈ passes precedence := by
  cases precedence <;> decide

/-- **Each source property is exhausted**, whichever pass comes first. -/
theorem exhausted_claims (h : Correlation.claims i precedence source target o = .ok claims) :
    ∀ next ∈ source.readable.zipIdx, Exhausted i (targetsOf o target) next claims := by
  refine foldlM_achieves (P := fun pass claims => pass = Pass.heuristic →
      ∀ next ∈ source.readable.zipIdx, Exhausted i (targetsOf o target) next claims) _ _ _
    (fun pass _ before after ran heuristic => ?_)
    (fun _ pass _ before after done ran heuristic next mem => ?_) h _ (heuristic_mem_passes precedence) rfl
  · subst heuristic
    exact foldlM_achieves _ _ _ (fun _ _ _ _ step => exhausted_claimNext step)
      (fun _ _ _ _ _ exhausted step => exhausted.mono (subset_claimNext step)) ran
  · exact (done heuristic next mem).mono (subset_runPass ran)

/-! ## Exact names first -/

theorem exact_claimNext (exact : ∀ c ∈ claims, c.kind = .exact)
    (h : claimNext i targets .exact claims next = .ok claims') : ∀ c ∈ claims', c.kind = .exact := by
  rcases claimNext_cases h with ⟨rfl, -⟩ | ⟨place, kind, rfl, -, found⟩
  · exact exact
  · obtain ⟨_, -, same⟩ := Option.map_eq_some_iff.mp (Except.ok.inj found)
    obtain ⟨-, rfl⟩ := Prod.mk.inj same
    exact List.forall_mem_append.mpr ⟨exact, List.forall_mem_singleton.mpr rfl⟩

/-- The exact pass claims by names only. -/
theorem exact_runPass (h : runPass i sources targets [] .exact = .ok claims) :
    ∀ c ∈ claims, c.kind = .exact :=
  foldlM_keeps _ _ _ (fun _ _ _ _ exact step => exact_claimNext exact step)
    (fun _ mem => absurd mem List.not_mem_nil) h

/-- Where exact names come first, the heuristic pass starts from the claims of the exact one. -/
theorem exists_named_claims (h : Correlation.claims i .exactName source target o = .ok claims) :
    ∃ named, runPass i source.readable (targetsOf o target) [] .exact = .ok named ∧ named ⊆ claims := by
  obtain ⟨named, first, rest⟩ := foldlM_cons_eq_ok_iff.mp h
  obtain ⟨all, second, done⟩ := foldlM_cons_eq_ok_iff.mp rest
  rw [List.foldlM_nil] at done
  exact ⟨named, first, Except.ok.inj done ▸ subset_runPass second⟩

/-- Where exact names come first, the names of singular matches are all taken. -/
theorem isClaimed_of_singularized (h : Correlation.claims i .exactName source target o = .ok claims)
    {c : Claim} (mem : c ∈ claims) {tier : Nat} (singular : c.kind = .singularized tier) {s t : Property}
    (hs : source.readable[c.source]? = some s) {place : Nat} (ht : (targetsOf o target)[place]? = some t)
    (named : t.name = s.name) : isClaimed claims place = true := by
  obtain ⟨first, ran, sub⟩ := exists_named_claims h
  rcases served_runPass ran (s, c.source) (List.mem_zipIdx_iff_getElem?.mpr hs) with paired | taken
  · obtain ⟨own, hown, same⟩ := List.mem_map.mp (isPaired_iff.mp paired)
    obtain rfl := List.inj_on_of_nodup_map (grounded_claims h).once (sub hown) mem same
    rw [exact_runPass ran own hown] at singular
    cases singular
  · exact isClaimed_iff.mpr (List.map_subset _ sub (isClaimed_iff.mp (taken place t ht named)))

/-! ## Claims in the order of the source -/

/-- The claims in the order of their source properties. -/
def inOrder (sources : List Property) (claims : List Claim) : List Claim :=
  sources.zipIdx.filterMap fun s => claims.find? (·.source == s.2)

theorem sources_inOrder : ((inOrder sources claims).map (·.source)).Pairwise (· < ·) := by
  refine pairwise_places (fun next c found => ?_) sources
  have test := List.find?_some found
  exact beq_iff_eq.mp test

theorem Grounded.mem_inOrder (grounded : Grounded sources targets claims) {c : Claim} :
    c ∈ inOrder sources claims ↔ c ∈ claims := by
  unfold inOrder
  rw [List.mem_filterMap]
  constructor
  · rintro ⟨next, -, found⟩
    exact List.mem_of_find?_eq_some found
  · intro mem
    obtain ⟨s, t, hs, -⟩ := grounded.between c mem
    exact ⟨(s, c.source), List.mem_zipIdx_iff_getElem?.mpr hs, find?_of_nodup grounded.once mem⟩

theorem Grounded.targets_inOrder (grounded : Grounded sources targets claims) (distinct : Distinct claims) :
    ((inOrder sources claims).map (·.target)).Nodup := by
  unfold List.Nodup
  rw [List.pairwise_map]
  refine (List.pairwise_map.mp sources_inOrder).imp_of_mem fun hc hc' lt same => ?_
  have eq := List.inj_on_of_nodup_map distinct (grounded.mem_inOrder.mp hc) (grounded.mem_inOrder.mp hc') same
  exact absurd lt (eq ▸ lt_irrefl _)

/-- A pair is what a claim says of the properties at two places. -/
structure Claim.Makes (sources targets : List Property) (c : Claim) (pair : CorrelatedProperty) : Prop where
  source : sources[c.source]? = some pair.source
  target : targets[c.target]? = some pair.target
  kind : c.kind = pair.matchKind

/-- The pairs are made by the claims, one after the other. -/
theorem Grounded.makes (grounded : Grounded sources targets claims) :
    List.Forall₂ (Claim.Makes sources targets) (inOrder sources claims)
      (sources.zipIdx.filterMap (pairOf? targets claims)) := by
  refine List.rel_filterMap (R := fun next next' => next = next' ∧ next ∈ sources.zipIdx) ?_
    (List.forall₂_same.mpr fun next mem => ⟨rfl, mem⟩)
  rintro next _ ⟨rfl, mem⟩
  show Option.Rel _ (claims.find? (·.source == next.2)) (pairOf? targets claims next)
  unfold pairOf?
  cases found : claims.find? (·.source == next.2) with
  | none => exact Option.Rel.none
  | some c =>
    have same := List.find?_some found
    rw [beq_iff_eq] at same
    obtain ⟨-, t, -, ht, -⟩ := grounded.between c (List.mem_of_find?_eq_some found)
    rw [Option.bind_eq_bind, Option.bind_some, ht]
    refine .some ⟨?_, ht, rfl⟩
    rw [same]
    exact List.mem_zipIdx_iff_getElem?.mp mem

theorem Grounded.exists_makes (grounded : Grounded sources targets claims) {pair : CorrelatedProperty}
    (mem : pair ∈ sources.zipIdx.filterMap (pairOf? targets claims)) :
    ∃ c ∈ claims, c.Makes sources targets pair := by
  obtain ⟨k, lt, rfl⟩ := List.getElem_of_mem mem
  have lt' : k < (inOrder sources claims).length := grounded.makes.length_eq ▸ lt
  exact ⟨(inOrder sources claims)[k], grounded.mem_inOrder.mp (List.getElem_mem lt'),
    grounded.makes.get lt' lt⟩

/-! ## Matchings -/

/-- A readable source property that is in no pair. -/
def Unmatched (source : BeanShape) (places : List (Nat × Nat)) (s : Property) : Prop :=
  ∃ n, source.properties[n]? = some s ∧ s.isReadable = true ∧ n ∉ places.map (·.1)

/-- A target property that may be written to and is in no pair. -/
def Unclaimed (o : PropertyOptions) (target : BeanShape) (places : List (Nat × Nat)) (t : Property) : Prop :=
  ∃ n, target.properties[n]? = some t ∧ o.isIgnored t.name = false ∧ n ∉ places.map (·.2)

/-- **A matching of two shapes**: pairs, with the places of their properties in the two shapes. -/
structure Matching (i : Inflector) (precedence : NamePrecedence) (source target : BeanShape)
    (o : PropertyOptions) (pairs : List CorrelatedProperty) (places : List (Nat × Nat)) : Prop where
  there : List.Forall₂ (fun place pair => source.properties[place.1]? = some pair.source ∧
    target.properties[place.2]? = some pair.target) places pairs
  /-- The source properties come in the order of their declaration, each at most once. -/
  sources : (places.map (·.1)).Pairwise (· < ·)
  /-- No target property is written twice. -/
  targets : (places.map (·.2)).Nodup
  readable : ∀ pair ∈ pairs, pair.source.isReadable = true
  allowed : ∀ pair ∈ pairs, o.isIgnored pair.target.name = false
  joined : ∀ pair ∈ pairs, Joined i pair.source pair.target pair.matchKind
  /-- A collection of another name that is left is farther from the source of a singular match than what was
  taken. Where exact names come first, nothing is left that has the name of that source. -/
  optimal : ∀ pair ∈ pairs, ∀ tier, pair.matchKind = .singularized tier → ∀ t, Unclaimed o target places t →
    (t.isCollection = true → t.name ≠ pair.source.name →
      ∀ n ∈ tiers i pair.source.name t.name, tier < n) ∧
    (precedence = .exactName → t.name ≠ pair.source.name)
  /-- What is left on the two sides does not belong together. -/
  maximal : ∀ s, Unmatched source places s → ∀ t, Unclaimed o target places t → s.name ≠ t.name ∧
    ¬ (s.isCollection = true ∧ t.isCollection = true ∧ (tiers i s.name t.name).Nonempty)

/-- The place of a source property in its shape, by that among the readable ones. -/
def sourcePlace (source : BeanShape) : Nat → Nat := placeIn (·.isReadable) source.properties

/-- The place of a target property in its shape, by that among those that may be written to. -/
def targetPlace (o : PropertyOptions) (target : BeanShape) : Nat → Nat :=
  placeIn (fun p => !o.isIgnored p.name) target.properties

/-- The places of the claims in the two shapes. -/
def placesOf (source target : BeanShape) (o : PropertyOptions) (claims : List Claim) : List (Nat × Nat) :=
  (inOrder source.readable claims).map fun c => (sourcePlace source c.source, targetPlace o target c.target)

theorem exists_of_unmatched (grounded : Grounded source.readable (targetsOf o target) claims) {s : Property}
    (h : Unmatched source (placesOf source target o claims) s) :
    ∃ k, source.readable[k]? = some s ∧ isPaired claims k = false := by
  obtain ⟨n, there, readable, free⟩ := h
  obtain ⟨k, rfl⟩ : ∃ k, sourcePlace source k = n := exists_placeIn there readable
  refine ⟨k, (getElem?_placeIn _ _ k).symm.trans there, ?_⟩
  rw [← Bool.not_eq_true, isPaired_iff, List.mem_map]
  rintro ⟨c, mem, rfl⟩
  refine free (List.mem_map.mpr ⟨_, List.mem_map_of_mem (grounded.mem_inOrder.mpr mem), rfl⟩)

theorem exists_of_unclaimed (grounded : Grounded source.readable (targetsOf o target) claims) {t : Property}
    (h : Unclaimed o target (placesOf source target o claims) t) :
    ∃ k, (targetsOf o target)[k]? = some t ∧ isClaimed claims k = false := by
  obtain ⟨n, there, allowed, free⟩ := h
  obtain ⟨k, rfl⟩ : ∃ k, targetPlace o target k = n :=
    exists_placeIn there ((Bool.not_eq_true' _).mpr allowed)
  refine ⟨k, (getElem?_placeIn _ _ k).symm.trans there, isClaimed_eq_false_iff.mpr fun taken => ?_⟩
  obtain ⟨c, mem, rfl⟩ := List.mem_map.mp taken
  exact free (List.mem_map.mpr ⟨_, List.mem_map_of_mem (grounded.mem_inOrder.mpr mem), rfl⟩)

theorem there_placesOf (grounded : Grounded source.readable (targetsOf o target) claims) :
    List.Forall₂ (fun place pair => source.properties[place.1]? = some pair.source ∧
      target.properties[place.2]? = some pair.target) (placesOf source target o claims)
      (source.readable.zipIdx.filterMap (pairOf? (targetsOf o target) claims)) := by
  refine List.forall₂_map_left_iff.mpr (grounded.makes.imp fun c pair made => ⟨?_, ?_⟩)
  · exact (getElem?_placeIn _ _ _).trans made.source
  · exact (getElem?_placeIn _ _ _).trans made.target

theorem sources_placesOf : ((placesOf source target o claims).map (·.1)).Pairwise (· < ·) := by
  unfold placesOf
  rw [List.map_map, List.pairwise_map]
  exact (List.pairwise_map.mp sources_inOrder).imp fun lt => strictMono_placeIn _ _ lt

theorem targets_placesOf (grounded : Grounded source.readable (targetsOf o target) claims)
    (distinct : Distinct claims) : ((placesOf source target o claims).map (·.2)).Nodup := by
  have places := (grounded.targets_inOrder distinct).map
    (strictMono_placeIn (fun p => !o.isIgnored p.name) target.properties).injective
  unfold placesOf
  rwa [List.map_map] at places ⊢

/-! ### What is left on either side -/

/-- What is left beside a singular match is farther from its source. -/
theorem farther_of_free (claimed : Correlation.claims i precedence source target o = .ok claims) {c : Claim}
    (mem : c ∈ claims) {tier k : Nat} (singular : c.kind = .singularized tier) {s t : Property}
    (hs : source.readable[c.source]? = some s) (ht : (targetsOf o target)[k]? = some t)
    (free : isClaimed claims k = false) :
    (t.isCollection = true → t.name ≠ s.name → ∀ n ∈ tiers i s.name t.name, tier < n) ∧
      (precedence = .exactName → t.name ≠ s.name) := by
  refine ⟨fun collection name_ne n hn => ?_, fun exactFirst named => ?_⟩
  · obtain ⟨m, le, candidate⟩ := exists_candidate ht free collection name_ne hn
    exact (locallyBest_claims claimed c mem tier singular s hs k m t candidate).trans_le le
  · subst exactFirst
    exact absurd (isClaimed_of_singularized claimed mem singular hs ht named) (free ▸ Bool.false_ne_true)

/-- Two properties that are left do not belong together. -/
theorem apart_of_free (claimed : Correlation.claims i precedence source target o = .ok claims) {k k' : Nat}
    {s t : Property} (hs : source.readable[k]? = some s) (unpaired : isPaired claims k = false)
    (ht : (targetsOf o target)[k']? = some t) (free : isClaimed claims k' = false) :
    s.name ≠ t.name ∧
      ¬ (s.isCollection = true ∧ t.isCollection = true ∧ (tiers i s.name t.name).Nonempty) := by
  have read : (s, k) ∈ source.readable.zipIdx := List.mem_zipIdx_iff_getElem?.mpr hs
  have name_ne : s.name ≠ t.name := fun named => by
    rcases served_claims claimed (s, k) read with paired | taken
    · exact absurd paired (unpaired ▸ Bool.false_ne_true)
    · exact absurd (taken k' t ht named.symm) (free ▸ Bool.false_ne_true)
  refine ⟨name_ne, fun ⟨collection, collection', n, hn⟩ => ?_⟩
  rcases exhausted_claims claimed (s, k) read with paired | none
  · exact absurd paired (unpaired ▸ Bool.false_ne_true)
  · obtain ⟨m, -, candidate⟩ := exists_candidate ht free collection' name_ne.symm hn
    exact none collection k' m t candidate

/-- **The pairs of a correlation are a matching** of readable source properties and target properties that may
be written to, to which nothing can be added, and in which no collection of another name that is left is as
close as the one that was taken. -/
theorem correlation_is_matching (h : correlate i precedence source target o = .ok pairs) :
    ∃ places, Matching i precedence source target o pairs places := by
  obtain ⟨claims, claimed, rfl⟩ := correlate_eq_ok_iff.mp h
  have grounded := grounded_claims claimed
  refine ⟨placesOf source target o claims, there_placesOf grounded, sources_placesOf,
    targets_placesOf grounded (distinct_claims claimed), fun pair mem => ?_, fun pair mem => ?_,
    fun pair mem => ?_, fun pair mem tier singular t unclaimed => ?_, fun s unmatched t unclaimed => ?_⟩
  · obtain ⟨c, -, made⟩ := grounded.exists_makes mem
    exact (List.mem_filter.mp (List.mem_of_getElem? made.source)).2
  · obtain ⟨c, -, made⟩ := grounded.exists_makes mem
    exact Bool.not_eq_true' _ ▸ (List.mem_filter.mp (List.mem_of_getElem? made.target)).2
  · obtain ⟨c, hc, made⟩ := grounded.exists_makes mem
    obtain ⟨s, t, hs, ht, joined⟩ := joined_claims claimed c hc
    obtain rfl := Option.some.inj (made.source.symm.trans hs)
    obtain rfl := Option.some.inj (made.target.symm.trans ht)
    exact made.kind ▸ joined
  · obtain ⟨c, hc, made⟩ := grounded.exists_makes mem
    obtain ⟨k, there, free⟩ := exists_of_unclaimed grounded unclaimed
    exact farther_of_free claimed hc (made.kind.trans singular) made.source there free
  · obtain ⟨k, hs, unpaired⟩ := exists_of_unmatched grounded unmatched
    obtain ⟨k', ht, free⟩ := exists_of_unclaimed grounded unclaimed
    exact apart_of_free claimed hs unpaired ht free

/-! ### Drawings and parks -/

/-- A property of texts that is read and written. -/
def texts (name : String) : Property :=
  ⟨name, ⟨"Vec<String>"⟩, some ⟨"String"⟩,
    { getter := some ⟨"get_" ++ name, []⟩, setter := some ⟨"set_" ++ name, []⟩ }⟩

/-- A property of one text that is read and written. -/
def text (name : String) : Property :=
  ⟨name, ⟨"String"⟩, none, { getter := some ⟨"get_" ++ name, []⟩, setter := some ⟨"set_" ++ name, []⟩ }⟩

/-- What is known about a drawing. -/
def drawing : BeanShape := ⟨⟨"Drawing"⟩, [texts "axes", text "name", texts "vertices", text "code"]⟩

/-- What is written about a drawing. -/
def drawingDto : BeanShape :=
  ⟨⟨"DrawingDto"⟩, [texts "axe", text "owner", texts "vertex", texts "axis", text "name"]⟩

/-- What a drawing gives: the axes go to the closer of two collections. -/
def drawingPairs : List CorrelatedProperty :=
  [⟨texts "axes", texts "axis", .singularized 0⟩, ⟨text "name", text "name", .exact⟩,
    ⟨texts "vertices", texts "vertex", .singularized 0⟩]

/-- The code is left, and so are the owner and the axe. -/
theorem correlation_is_matching_of_drawings :
    correlate ⟨.empty⟩ .exactName drawing drawingDto .empty = .ok drawingPairs ∧
      ∃ places, Matching ⟨.empty⟩ .exactName drawing drawingDto .empty drawingPairs places := by
  have found : correlate ⟨.empty⟩ .exactName drawing drawingDto .empty = .ok drawingPairs := by
    decide +kernel
  exact ⟨found, correlation_is_matching found⟩

/-- What is known about the animals of a park. -/
def park : BeanShape := ⟨⟨"Park"⟩, [texts "species"]⟩

/-- What is written about the animals of a park. -/
def parkDto : BeanShape := ⟨⟨"ParkDto"⟩, [texts "species", text "specy", texts "specie"]⟩

/-- **A closer target may be left**: one of the same name, where singular forms come first, or a single
value. -/
theorem closer_target_is_left :
    correlate ⟨.empty⟩ .singularized park parkDto .empty =
      .ok [⟨texts "species", texts "specie", .singularized 2⟩] ∧
    Unclaimed .empty parkDto [(0, 2)] (texts "species") ∧ 0 ∈ tiers ⟨.empty⟩ "species" "species" ∧
    Unclaimed .empty parkDto [(0, 2)] (text "specy") ∧ 1 ∈ tiers ⟨.empty⟩ "species" "specy" := by
  refine ⟨by decide +kernel, ⟨0, rfl, by decide +kernel, by decide⟩, Or.inl (by decide +kernel),
    ⟨1, rfl, by decide +kernel, by decide⟩, Or.inl (by decide +kernel)⟩

end Correlation

end BeanMapping
