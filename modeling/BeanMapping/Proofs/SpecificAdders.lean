import BeanMapping.Proofs.MemberOrigins

/-!
# The more specific adder

A collection and an adder that fit may both be left with something less specific, or with nothing (`Better`).
The collections choose in turn, each among the adders that those before it left, so a collection that is read or
set prefers no other adder to its own than those that are gone by then.

A property that an adder makes of its own does not choose at all: it bears the name of that adder, whatever else
would fit it.

Results:
* **`preferred_adders_are_taken`**: no collection that is read or set prefers an adder that is not that of a
  property before it, and any other property has the name of its adder;
* **`better_pairs_are_left`**: a collection may take by a general singular what is the most specific adder of a
  later one, and a property of an adder alone may be left without a more specific adder that has no property.
-/

namespace BeanMapping.Introspection

variable {i : Inflector} {d : TypeDescriptor} {ps : List Property} {origin : Nat → AccessorRole → Option Nat}
  {p : Property} {u u' : AccessorUse} {k n tier : Nat}

/-! ## Preferences -/

/-- The member at a place is an adder. -/
def AdderAt (d : TypeDescriptor) (n : Nat) (u : AccessorUse) : Prop :=
  ∃ m, d.members[n]? = some m ∧ m.use? = some u ∧ u.role = .adder

/-- The property and the adder at their places fit at a tier, and the property has no adder, or one of a larger
tier. -/
structure Prefers (i : Inflector) (d : TypeDescriptor) (ps : List Property)
    (origin : Nat → AccessorRole → Option Nat) (k n : Nat) (p : Property) (u : AccessorUse) (tier : Nat) :
    Prop where
  property : ps[k]? = some p
  adder : AdderAt d n u
  fits : Fits i p u tier
  gains : ∀ n', origin k .adder = some n' →
    ∃ u' tier', AdderAt d n' u' ∧ i.tier? p.name u'.name = some tier' ∧ tier < tier'

/-- Nor is the adder that of a property, unless it has a larger tier for it: both sides would gain. -/
structure Better (i : Inflector) (d : TypeDescriptor) (ps : List Property)
    (origin : Nat → AccessorRole → Option Nat) (k n : Nat) (p : Property) (u : AccessorUse) (tier : Nat) :
    Prop extends Prefers i d ps origin k n p u tier where
  adder_gains : ∀ k', origin k' .adder = some n →
    ∃ p' tier', ps[k']? = some p' ∧ i.tier? p'.name u.name = some tier' ∧ tier < tier'

theorem mem_placedAdders : (u, n) ∈ placedAdders d ↔ AdderAt d n u := by
  unfold placedAdders AdderAt
  rw [List.mem_filter, mem_placedUses, beq_iff_eq]
  constructor
  · rintro ⟨⟨m, there, used⟩, adder⟩
    exact ⟨m, there, used, adder⟩
  · rintro ⟨m, there, used, adder⟩
    exact ⟨⟨m, there, used⟩, adder⟩

theorem AdderAt.unique (h : AdderAt d n u) (h' : AdderAt d n u') : u' = u := by
  obtain ⟨m, there, used, -⟩ := h
  obtain ⟨m', there', used', -⟩ := h'
  obtain rfl := Option.some.inj (there.symm.trans there')
  exact Option.some.inj (used'.symm.trans used)

/-! ## Slots -/

/-- The adders of a bean as they are dealt out to its properties, one slot each. -/
structure Dealt (i : Inflector) (d : TypeDescriptor) (ps : List Property)
    (slots : List (Option (AccessorUse × Nat))) (origin : Nat → AccessorRole → Option Nat) : Prop where
  origins : Origins d ps origin
  /-- What is in a slot is an adder, and that of the property. -/
  adder_of_slot : ∀ k u n, slots[k]? = some (some (u, n)) → AdderAt d n u ∧ origin k .adder = some n
  /-- A property is served from what those before it left, or has the name of its adder. -/
  served : ∀ k p, ps[k]? = some p →
    (p.accessors.getter ≠ none ∨ p.accessors.setter ≠ none) ∧ Served i (placedAdders d) slots k p ∨
      ∃ x, slots[k]? = some (some x) ∧ p = adderProperty x.1

theorem exists_dealt (i : Inflector) (d : TypeDescriptor) (bean : d.isBean = true) :
    ∃ slots origin, Dealt i d (describedShape i d).properties slots origin := by
  have nodup := (sound_describedShape i d).nodup
  have properties_eq : (describedShape i d).properties = propertiesOf i d := if_pos bean
  rw [properties_eq] at nodup ⊢
  obtain ⟨slots, taken, given, dealt, named, served⟩ := propertiesOf_serves i d
  refine ⟨slots, _, origins_originAt given dealt named (fun _ => drafted_of_mem_propertiesOf) nodup,
    fun k u n slot => ⟨mem_placedAdders.mp ?_, ?_⟩, served⟩
  · exact dealt.subset (List.mem_append_left _ (List.reduceOption_mem_iff.mpr (List.mem_of_getElem? slot)))
  · rw [originAt_adder_eq_some.mpr slot]
    rfl

variable {slots : List (Option (AccessorUse × Nat))}

/-- What a property prefers that is read or set is gone before its turn. -/
theorem Dealt.taken (h : Dealt i d ps slots origin) (prefers : Prefers i d ps origin k n p u tier)
    (accessed : p.accessors.getter ≠ none ∨ p.accessors.setter ≠ none) : ∃ j < k, origin j .adder = some n := by
  rcases h.served k p prefers.property with ⟨-, served⟩ | ⟨x, -, rfl⟩
  · rcases served (u, n) (mem_placedAdders.mpr prefers.adder) tier prefers.fits with
      ⟨⟨u', n'⟩, tier', slot, fits, le⟩ | ⟨j, lt, slot⟩
    · -- Its own adder would have to be more specific and less specific at once.
      obtain ⟨own, from_own⟩ := h.adder_of_slot k u' n' slot
      obtain ⟨u'', larger, adder, carries, lt⟩ := prefers.gains n' from_own
      obtain rfl := own.unique adder
      obtain rfl := Option.some.inj (fits.carries.symm.trans carries)
      exact absurd lt (Nat.not_lt.mpr le)
    · exact ⟨j, lt, (h.adder_of_slot j u n slot).2⟩
  · rcases accessed with read | written
    · exact absurd rfl read
    · exact absurd rfl written

/-- A property that is neither read nor set has the name of its adder. -/
theorem Dealt.named (h : Dealt i d ps slots origin) (there : ps[k]? = some p)
    (unread : p.accessors.getter = none) (unset : p.accessors.setter = none) :
    ∃ n u, AdderAt d n u ∧ origin k .adder = some n ∧ u.name = p.name := by
  rcases h.served k p there with ⟨read | written, -⟩ | ⟨⟨u, n⟩, slot, rfl⟩
  · exact absurd unread read
  · exact absurd unset written
  · obtain ⟨adder, from_adder⟩ := h.adder_of_slot k u n slot
    exact ⟨n, u, adder, from_adder, rfl⟩

/-- **A preferred adder is taken.** There is no property that is read or set, and no adder, such that they fit, the
property has no adder or one of a larger tier, and the adder is that of no property before it. A property that is
neither read nor set has the name of its adder. -/
theorem preferred_adders_are_taken (i : Inflector) (d : TypeDescriptor) (bean : d.isBean = true) :
    ∃ origin, Origins d (describedShape i d).properties origin ∧
      (¬ ∃ k n p u tier, Prefers i d (describedShape i d).properties origin k n p u tier ∧
        (p.accessors.getter ≠ none ∨ p.accessors.setter ≠ none) ∧ ∀ j < k, origin j .adder ≠ some n) ∧
      ∀ k p, (describedShape i d).properties[k]? = some p → p.accessors.getter = none →
        p.accessors.setter = none → ∃ n u, AdderAt d n u ∧ origin k .adder = some n ∧ u.name = p.name := by
  obtain ⟨slots, origin, dealt⟩ := exists_dealt i d bean
  refine ⟨origin, dealt.origins, ?_, fun k p there unread unset => dealt.named there unread unset⟩
  rintro ⟨k, n, p, u, tier, prefers, accessed, free⟩
  obtain ⟨j, lt, from_n⟩ := dealt.taken prefers accessed
  exact free j lt from_n

/-! ### A jaw -/

/-- A jaw: an override makes a dentition of teeth, one makes fangs of the teeth, and the tags have an adder of
their own name beside that for one tag. -/
def jaw : TypeDescriptor where
  name := ⟨"Jaw"⟩
  kind := .bean
  members := [.getter "getTeeth" (.vecOf ⟨"Tooth"⟩), .getter "getDentition" (.vecOf ⟨"Tooth"⟩),
    .writer "addTooth" ⟨"Tooth"⟩, .getter "getTag" ⟨"String"⟩, .writer "addTags" ⟨"String"⟩,
    .writer "addTag" ⟨"String"⟩]

/-- Singular forms with which one tooth is more specific for a dentition than for teeth. -/
def jawSingulars : Inflector := ⟨.ofList [("dentition", "tooth"), ("teeth", "fang")]⟩

/-- The dentition, which is left without an adder. -/
def dentition : Property :=
  ⟨"dentition", .vecOf ⟨"Tooth"⟩, some ⟨"Tooth"⟩, { getter := some ⟨"getDentition", []⟩ }⟩

/-- The tags, of which there is an adder only. -/
def tags : Property :=
  ⟨"tags", .vecOf ⟨"String"⟩, some ⟨"String"⟩, { adder := some ⟨"addTags", []⟩ }⟩

/-- The properties of the jaw. The teeth, which come first, have the adder of a tooth. -/
def jawProperties : List Property :=
  [⟨"teeth", .vecOf ⟨"Tooth"⟩, some ⟨"Tooth"⟩,
      { getter := some ⟨"getTeeth", []⟩, adder := some ⟨"addTooth", []⟩ }⟩,
    dentition, ⟨"tag", ⟨"String"⟩, none, { getter := some ⟨"getTag", []⟩ }⟩, tags]

theorem properties_of_jaw : (describedShape jawSingulars jaw).properties = jawProperties := by decide +kernel

/-- Only the teeth and the tags of the jaw have adders: the third member and the fifth. -/
theorem adders_of_jaw (h : Origins jaw jawProperties origin) (from_n : origin k .adder = some n) :
    k = 0 ∧ n = 2 ∨ k = 3 ∧ n = 4 := by
  obtain ⟨p, m, there, member, accessor_eq, -⟩ := h.serves k .adder n from_n
  have named : ∀ k < jawProperties.length, ∀ n < jaw.members.length,
      (jawProperties[k]?.bind (·.accessors.adder)).map Accessor.member = jaw.members[n]?.map (·.name) →
        k = 0 ∧ n = 2 ∨ k = 3 ∧ n = 4 := by decide +kernel
  refine named k (List.getElem?_eq_some_iff.mp there).1 n (List.getElem?_eq_some_iff.mp member).1 ?_
  rw [there, member]
  exact congrArg (Option.map Accessor.member) accessor_eq

/-- The dentition, which has no adder, prefers that of a tooth, which the teeth have before it; the tags are named
by the adder that they have. -/
theorem preferred_adders_are_taken_in_jaw :
    jaw.isBean = true ∧ (describedShape jawSingulars jaw).properties = jawProperties ∧
      ∃ origin, Origins jaw (describedShape jawSingulars jaw).properties origin ∧
        (¬ ∃ k n p u tier,
          Prefers jawSingulars jaw (describedShape jawSingulars jaw).properties origin k n p u tier ∧
          (p.accessors.getter ≠ none ∨ p.accessors.setter ≠ none) ∧ ∀ j < k, origin j .adder ≠ some n) ∧
        ∃ n u, AdderAt jaw n u ∧ origin 3 .adder = some n ∧ u.name = "tags" := by
  have bean : jaw.isBean = true := by decide
  obtain ⟨origin, origins, untaken, named⟩ := preferred_adders_are_taken jawSingulars jaw bean
  have there : (describedShape jawSingulars jaw).properties[3]? = some tags := properties_of_jaw ▸ rfl
  exact ⟨bean, properties_of_jaw, origin, origins, untaken, named 3 tags there rfl rfl⟩

/-- **Better pairs are left.** The adder of a tooth, the most specific one of the dentition, is that of the teeth,
for which it is less specific. The tags have the adder of their own name, and the more specific adder of one tag
has no property, as its name is taken. -/
theorem better_pairs_are_left :
    jaw.isBean = true ∧ (∃ origin, Origins jaw (describedShape jawSingulars jaw).properties origin) ∧
      ∀ origin, Origins jaw (describedShape jawSingulars jaw).properties origin →
        Better jawSingulars jaw (describedShape jawSingulars jaw).properties origin 1 2 dentition
            ⟨.adder, "tooth", ⟨"Tooth"⟩, ⟨"addTooth", []⟩⟩ 0 ∧
          Better jawSingulars jaw (describedShape jawSingulars jaw).properties origin 3 5 tags
            ⟨.adder, "tag", ⟨"String"⟩, ⟨"addTag", []⟩⟩ 0 := by
  have bean : jaw.isBean = true := by decide
  obtain ⟨_, origin, dealt⟩ := exists_dealt jawSingulars jaw bean
  refine ⟨bean, ⟨origin, dealt.origins⟩, ?_⟩
  rw [properties_of_jaw]
  intro origin origins
  have adders : ∀ {k n}, origin k .adder = some n → k = 0 ∧ n = 2 ∨ k = 3 ∧ n = 4 := adders_of_jaw origins
  have addTooth : AdderAt jaw 2 ⟨.adder, "tooth", ⟨"Tooth"⟩, ⟨"addTooth", []⟩⟩ :=
    ⟨.writer "addTooth" ⟨"Tooth"⟩, rfl, by decide +kernel, rfl⟩
  have addTags : AdderAt jaw 4 ⟨.adder, "tags", ⟨"String"⟩, ⟨"addTags", []⟩⟩ :=
    ⟨.writer "addTags" ⟨"String"⟩, rfl, by decide +kernel, rfl⟩
  have addTag : AdderAt jaw 5 ⟨.adder, "tag", ⟨"String"⟩, ⟨"addTag", []⟩⟩ :=
    ⟨.writer "addTag" ⟨"String"⟩, rfl, by decide +kernel, rfl⟩
  constructor
  · refine ⟨⟨rfl, addTooth, ⟨rfl, by decide +kernel⟩, fun n' from_n => ?_⟩, fun k' from_n => ?_⟩
    · rcases adders from_n with ⟨other, -⟩ | ⟨other, -⟩ <;> exact absurd other (by decide)
    · rcases adders from_n with ⟨rfl, -⟩ | ⟨-, other⟩
      · exact ⟨_, 1, rfl, by decide +kernel, by decide⟩
      · exact absurd other (by decide)
  · refine ⟨⟨rfl, addTag, ⟨rfl, by decide +kernel⟩, fun n' from_n => ?_⟩, fun k' from_n => ?_⟩
    · rcases adders from_n with ⟨other, -⟩ | ⟨-, rfl⟩
      · exact absurd other (by decide)
      · exact ⟨_, 1, addTags, by decide +kernel, by decide⟩
    · rcases adders from_n with ⟨-, other⟩ | ⟨-, other⟩ <;> exact absurd other (by decide)

end BeanMapping.Introspection
