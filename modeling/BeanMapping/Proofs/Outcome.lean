import BeanMapping.Narrated

/-!
# How narrated computations end

Ways to speak about the end of a computation, with laws for the operations, so that no later proof looks
at a `Narration`.

* `Gives x s a t`: from the state `s` the computation succeeds with `a` and leaves `t`. What a
  computation that succeeded did is read off by rewriting with the laws (`gives_bind_iff`, …).
* `Fails x s e`: from the state `s` the computation fails with `e`. A computation does one or the other
  (`gives_or_fails`), and the first failure of a bind is its failure.
* `FailsOnly x P`: from whatever state, the computation fails with nothing but errors of `P`. A bind
  fails only so when both of its parts do (`failsOnly_bind`).
* `Keeps x I`: from a state of `I` the computation leaves one of `I`, be it that it fails. A bind keeps
  what both of its parts keep (`keeps_bind`).
* `Ends x s Q E`: from the state `s` the computation succeeds as `Q` says, or fails as `E` says. A bind
  ends as its second part does from where the first part ends (`Ends.bind`).
* `GivesUnless x s Q L`: from the state `s` the computation succeeds as `Q` says, unless it tells something
  of `L`. A bind does so when both of its parts do (`GivesUnless.bind`).
* `EndsIn x s r t`: from the state `s` the computation comes to the result `r`, be it an error, and leaves
  `t`. A bind comes to what its second part comes to, unless the first fails (`EndsIn.bind`,
  `EndsIn.bind_error`).
* `Halts x s t`: from the state `s` the computation fails and leaves `t`. A bind halts where its first part
  does, or its second from where the first ends (`halts_bind_iff`).
* `Agrees x y R`: from states that are related by `R` two computations come to the same result, be it an
  error, and leave related states. Binds agree where their parts do (`Agrees.bind`).
-/

namespace BeanMapping.Narrated

variable {ε ω σ τ α β : Type}

/-! ## Success -/

/-- From the state `s` the computation succeeds with `a` and leaves `t`. -/
def Gives (x : Narrated ε ω σ α) (s : σ) (a : α) (t : σ) : Prop :=
  (x.run s).result = .ok a ∧ (x.run s).state = t

theorem gives_of_result {x : Narrated ε ω σ α} {s : σ} {a : α} (h : (x.run s).result = .ok a) :
    x.Gives s a (x.run s).state :=
  ⟨h, rfl⟩

theorem exists_ok_of_any {r : Except ε α} {test : α → Bool} (h : r.toOption.any test = true) :
    ∃ a, r = .ok a ∧ test a = true := by
  cases r with
  | error e => exact absurd h Bool.false_ne_true
  | ok a => exact ⟨a, rfl, h⟩

theorem isOk_eq_true_iff {r : Except ε α} : r.isOk = true ↔ ∃ a, r = .ok a := by
  cases r with
  | error e => exact iff_of_false Bool.false_ne_true fun ⟨_, h⟩ => by cases h
  | ok a => exact iff_of_true rfl ⟨a, rfl⟩

theorem isOk_eq_false_iff {r : Except ε α} : r.isOk = false ↔ ∃ e, r = .error e := by
  cases r with
  | error e => exact iff_of_true rfl ⟨e, rfl⟩
  | ok a => exact iff_of_false Bool.noConfusion fun ⟨_, h⟩ => by cases h

/-- A computation has one outcome. -/
theorem Gives.unique {x : Narrated ε ω σ α} {s t u : σ} {a b : α} (h : x.Gives s a t)
    (h' : x.Gives s b u) : a = b ∧ t = u := by
  obtain ⟨hr, ht⟩ := h
  obtain ⟨hr', hu⟩ := h'
  rw [hr] at hr'
  exact ⟨Except.ok.inj hr', ht.symm.trans hu⟩

@[simp] theorem gives_pure_iff {a b : α} {s t : σ} :
    (pure a : Narrated ε ω σ α).Gives s b t ↔ a = b ∧ s = t := by
  unfold Gives
  rw [run_pure, Except.ok.injEq]

@[simp] theorem gives_tell_iff {told : List ω} {s t : σ} {u : Unit} :
    (tell told : Narrated ε ω σ Unit).Gives s u t ↔ s = t := by
  unfold Gives
  rw [run_tell]
  exact and_iff_right rfl

@[simp] theorem gives_get_iff {s a t : σ} :
    (get : Narrated ε ω σ σ).Gives s a t ↔ s = a ∧ s = t := by
  unfold Gives
  rw [run_get, Except.ok.injEq]

@[simp] theorem gives_modify_iff {f : σ → σ} {s t : σ} {u : Unit} :
    (modify f : Narrated ε ω σ Unit).Gives s u t ↔ f s = t := by
  unfold Gives
  rw [run_modify]
  exact and_iff_right rfl

theorem gives_tell (told : List ω) (s : σ) : (tell told : Narrated ε ω σ Unit).Gives s () s :=
  gives_tell_iff.mpr rfl

theorem gives_get (s : σ) : (get : Narrated ε ω σ σ).Gives s s s :=
  gives_get_iff.mpr ⟨rfl, rfl⟩

theorem gives_modify (f : σ → σ) (s : σ) : (modify f : Narrated ε ω σ Unit).Gives s () (f s) :=
  gives_modify_iff.mpr rfl

@[simp] theorem not_gives_reject {e : ε} {s t : σ} {a : α} :
    ¬ (reject e : Narrated ε ω σ α).Gives s a t := by
  rintro ⟨h, -⟩
  rw [run_reject] at h
  exact absurd h (by simp)

/-- **A bind succeeds exactly when both of its parts do**, the second from where the first ends. -/
@[simp] theorem gives_bind_iff {x : Narrated ε ω σ α} {f : α → Narrated ε ω σ β} {s t : σ} {b : β} :
    (x >>= f).Gives s b t ↔ ∃ a u, x.Gives s a u ∧ (f a).Gives u b t := by
  constructor
  · rintro ⟨hr, ht⟩
    cases hx : (x.run s).result with
    | error e =>
      rw [run_bind_error hx] at hr
      exact absurd hr (by simp)
    | ok a =>
      rw [run_bind_ok hx] at hr ht
      exact ⟨a, _, ⟨hx, rfl⟩, hr, ht⟩
  · rintro ⟨a, u, ⟨hx, rfl⟩, hr, ht⟩
    unfold Gives
    rw [run_bind_ok hx]
    exact ⟨hr, ht⟩

@[simp] theorem gives_map_iff {x : Narrated ε ω σ α} {f : α → β} {s t : σ} {b : β} :
    (f <$> x).Gives s b t ↔ ∃ a, x.Gives s a t ∧ f a = b := by
  rw [map_eq_pure_bind, gives_bind_iff]
  constructor
  · rintro ⟨a, u, hx, hp⟩
    obtain ⟨rfl, rfl⟩ := gives_pure_iff.mp hp
    exact ⟨a, hx, rfl⟩
  · rintro ⟨a, hx, rfl⟩
    exact ⟨a, t, hx, gives_pure_iff.mpr ⟨rfl, rfl⟩⟩

@[simp] theorem gives_ofResult_iff {r : Except ε α} {s t : σ} {a : α} :
    (ofResult r : Narrated ε ω σ α).Gives s a t ↔ r = .ok a ∧ s = t := by
  cases r with
  | error e =>
    unfold ofResult
    simp
  | ok b =>
    unfold ofResult
    rw [gives_pure_iff, Except.ok.injEq]

/-- A change of the error changes no result. -/
theorem mapError_eq_ok_iff {ε' : Type} {r : Except ε α} {g : ε → ε'} {a : α} :
    r.mapError g = .ok a ↔ r = .ok a := by
  cases r with
  | error e => exact ⟨fun h => (by cases h), fun h => by cases h⟩
  | ok b =>
    exact ⟨fun h => congrArg _ (Except.ok.inj h), fun h => congrArg _ (Except.ok.inj h)⟩

@[simp] theorem gives_ofExcept_iff {r : Except Fault α} {s t : σ} {a : α} :
    (ofExcept r : Generation σ α).Gives s a t ↔ r = .ok a ∧ s = t := by
  unfold ofExcept
  rw [gives_ofResult_iff, mapError_eq_ok_iff]

@[simp] theorem gives_within_iff {place : String} {x : Generation σ α} {s t : σ} {a : α} :
    (within place x).Gives s a t ↔ x.Gives s a t := by
  unfold Gives within
  exact and_congr_left' mapError_eq_ok_iff

/-- An attempt always succeeds, with what the computation comes to. -/
@[simp] theorem gives_attempt_iff {x : Narrated ε ω σ α} {s t : σ} {r : Except ε α} :
    (attempt x).Gives s r t ↔ (x.run s).result = r ∧ (x.run s).state = t := by
  unfold Gives attempt
  rw [Except.ok.injEq]

@[simp] theorem gives_focus_iff {part : σ → τ} {put : τ → σ → σ} {x : Narrated ε ω τ α} {s t : σ}
    {a : α} : (focus part put x).Gives s a t ↔ ∃ u, x.Gives (part s) a u ∧ put u s = t := by
  unfold Gives focus
  constructor
  · rintro ⟨hr, ht⟩
    exact ⟨_, ⟨hr, rfl⟩, ht⟩
  · rintro ⟨u, ⟨hr, rfl⟩, ht⟩
    exact ⟨hr, ht⟩

@[simp] theorem gives_apart_iff {x : Narrated ε ω τ Unit} {t u : τ} {s s' : σ} :
    (apart t x : Narrated ε ω σ τ).Gives s u s' ↔ x.Gives t () u ∧ s = s' := by
  unfold Gives apart
  cases h : (x.run t).result <;> simp [Except.map, h]

/-! ## Failure -/

/-- From the state `s` the computation fails with `e`. -/
def Fails (x : Narrated ε ω σ α) (s : σ) (e : ε) : Prop := (x.run s).result = .error e

theorem gives_or_fails (x : Narrated ε ω σ α) (s : σ) :
    (∃ a t, x.Gives s a t) ∨ ∃ e, x.Fails s e := by
  cases h : (x.run s).result with
  | ok a => exact Or.inl ⟨a, _, gives_of_result h⟩
  | error e => exact Or.inr ⟨e, h⟩

theorem Fails.not_gives {x : Narrated ε ω σ α} {s t : σ} {e : ε} {a : α} (h : x.Fails s e) :
    ¬ x.Gives s a t := by
  rintro ⟨hr, -⟩
  unfold Fails at h
  rw [h] at hr
  exact absurd hr (by simp)

theorem Fails.unique {x : Narrated ε ω σ α} {s : σ} {e e' : ε} (h : x.Fails s e)
    (h' : x.Fails s e') : e = e' :=
  Except.error.inj (h.symm.trans h')

theorem fails_reject (e : ε) (s : σ) : (reject e : Narrated ε ω σ α).Fails s e := rfl

/-- What fails first fails a bind. -/
theorem Fails.bind {x : Narrated ε ω σ α} {s : σ} {e : ε} (h : x.Fails s e)
    (f : α → Narrated ε ω σ β) : (x >>= f).Fails s e := by
  unfold Fails
  rw [run_bind_error h]

/-- What fails after a success fails a bind. -/
theorem Gives.bind_fails {x : Narrated ε ω σ α} {f : α → Narrated ε ω σ β} {s t : σ} {a : α} {e : ε}
    (hx : x.Gives s a t) (hf : (f a).Fails t e) : (x >>= f).Fails s e := by
  obtain ⟨hr, rfl⟩ := hx
  unfold Fails
  rw [run_bind_ok hr]
  exact hf

theorem Fails.within {x : Generation σ α} {s : σ} {r : Report} (h : x.Fails s r) (place : String) :
    (within place x).Fails s (r.attach place) := by
  show ((x.run s).result.mapError (·.attach place)) = _
  rw [show (x.run s).result = .error r from h]
  rfl

theorem Fails.apart {x : Narrated ε ω τ Unit} {t : τ} {e : ε} (h : x.Fails t e) (s : σ) :
    (apart t x : Narrated ε ω σ τ).Fails s e := by
  show ((x.run t).result.map fun _ => (x.run t).state) = _
  rw [show (x.run t).result = .error e from h]
  rfl

/-- From whatever state, the computation fails with nothing but errors of `P`. -/
def FailsOnly (x : Narrated ε ω σ α) (P : ε → Prop) : Prop := ∀ s e, x.Fails s e → P e

variable {P : ε → Prop}

theorem FailsOnly.imp {Q : ε → Prop} {x : Narrated ε ω σ α} (h : x.FailsOnly P)
    (hPQ : ∀ e, P e → Q e) : x.FailsOnly Q :=
  fun s e he => hPQ e (h s e he)

/-- What always succeeds fails with nothing. -/
theorem failsOnly_of_gives {x : Narrated ε ω σ α} (h : ∀ s, ∃ a t, x.Gives s a t) :
    x.FailsOnly P := by
  intro s e he
  obtain ⟨a, t, ha⟩ := h s
  exact absurd ha he.not_gives

theorem failsOnly_pure (a : α) : (pure a : Narrated ε ω σ α).FailsOnly P :=
  failsOnly_of_gives fun s => ⟨a, s, gives_pure_iff.mpr ⟨rfl, rfl⟩⟩

theorem failsOnly_tell (told : List ω) : (tell told : Narrated ε ω σ Unit).FailsOnly P :=
  failsOnly_of_gives fun s => ⟨(), s, gives_tell_iff.mpr rfl⟩

theorem failsOnly_get : (get : Narrated ε ω σ σ).FailsOnly P :=
  failsOnly_of_gives fun s => ⟨s, s, gives_get_iff.mpr ⟨rfl, rfl⟩⟩

theorem failsOnly_modify (f : σ → σ) : (modify f : Narrated ε ω σ Unit).FailsOnly P :=
  failsOnly_of_gives fun s => ⟨(), f s, gives_modify_iff.mpr rfl⟩

theorem failsOnly_reject {e : ε} (h : P e) : (reject e : Narrated ε ω σ α).FailsOnly P :=
  fun s _ he => (fails_reject e s).unique he ▸ h

/-- A bind fails only with errors of its parts. -/
theorem failsOnly_bind {x : Narrated ε ω σ α} {f : α → Narrated ε ω σ β} (hx : x.FailsOnly P)
    (hf : ∀ a, (f a).FailsOnly P) : (x >>= f).FailsOnly P := by
  intro s e h
  rcases x.gives_or_fails s with ⟨a, t, ha⟩ | ⟨e', he⟩
  · rcases (f a).gives_or_fails t with ⟨b, u, hb⟩ | ⟨e', he⟩
    · exact absurd (gives_bind_iff.mpr ⟨a, t, ha, hb⟩) h.not_gives
    · exact (ha.bind_fails he).unique h ▸ hf a t e' he
  · exact (he.bind f).unique h ▸ hx s e' he

theorem failsOnly_focus {part : σ → τ} {put : τ → σ → σ} {x : Narrated ε ω τ α}
    (h : x.FailsOnly P) : (focus part put x).FailsOnly P :=
  fun s e he => h (part s) e he

theorem failsOnly_apart {t : τ} {x : Narrated ε ω τ Unit} (h : x.FailsOnly P) :
    (apart t x : Narrated ε ω σ τ).FailsOnly P := by
  intro s e he
  rcases x.gives_or_fails t with ⟨⟨⟩, u, hu⟩ | ⟨e', he'⟩
  · exact absurd (gives_apart_iff.mpr ⟨hu, rfl⟩) he.not_gives
  · exact (he'.apart s).unique he ▸ h t e' he'

/-! ## Invariants of the state -/

/-- From a state of `I` the computation leaves one of `I`, whether it succeeds or fails. -/
def Keeps (x : Narrated ε ω σ α) (I : σ → Prop) : Prop := ∀ s, I s → I (x.run s).state

variable {I : σ → Prop}

theorem keeps_pure (a : α) : (pure a : Narrated ε ω σ α).Keeps I := fun _ h => h

theorem keeps_tell (told : List ω) : (tell told : Narrated ε ω σ Unit).Keeps I := fun _ h => h

theorem keeps_reject (e : ε) : (reject e : Narrated ε ω σ α).Keeps I := fun _ h => h

theorem keeps_get : (get : Narrated ε ω σ σ).Keeps I := fun _ h => h

theorem keeps_modify {f : σ → σ} (h : ∀ s, I s → I (f s)) :
    (modify f : Narrated ε ω σ Unit).Keeps I := h

theorem keeps_ofResult (r : Except ε α) : (ofResult r : Narrated ε ω σ α).Keeps I := by
  cases r with
  | error e => exact keeps_reject e
  | ok a => exact keeps_pure a

theorem keeps_ofExcept (r : Except Fault α) : (ofExcept r : Generation σ α).Keeps I :=
  keeps_ofResult _

/-- A bind keeps what both of its parts keep. -/
theorem keeps_bind {x : Narrated ε ω σ α} {f : α → Narrated ε ω σ β} (hx : x.Keeps I)
    (hf : ∀ a, (f a).Keeps I) : (x >>= f).Keeps I := by
  intro s hs
  cases h : (x.run s).result with
  | error e =>
    rw [run_bind_error h]
    exact hx s hs
  | ok a =>
    rw [run_bind_ok h]
    exact hf a _ (hx s hs)

theorem keeps_map {x : Narrated ε ω σ α} (f : α → β) (h : x.Keeps I) : (f <$> x).Keeps I := by
  rw [map_eq_pure_bind]
  exact keeps_bind h fun _ => keeps_pure _

theorem keeps_within {place : String} {x : Generation σ α} (h : x.Keeps I) :
    (within place x).Keeps I := h

theorem keeps_attempt {x : Narrated ε ω σ α} (h : x.Keeps I) : (attempt x).Keeps I := h

theorem keeps_apart (t : τ) (x : Narrated ε ω τ Unit) : (apart t x : Narrated ε ω σ τ).Keeps I :=
  fun _ h => h

theorem keeps_focus {part : σ → τ} {put : τ → σ → σ} {x : Narrated ε ω τ α} {J : τ → Prop}
    (h : x.Keeps J) (hpart : ∀ s, I s → J (part s)) (hput : ∀ t s, J t → I s → I (put t s)) :
    (focus part put x).Keeps I :=
  fun s hs => hput _ s (h _ (hpart s hs)) hs

/-! ## Both ends -/

/-- From the state `s` the computation succeeds with a result and a state of `Q`, or fails with an error
of `E`. -/
def Ends (x : Narrated ε ω σ α) (s : σ) (Q : α → σ → Prop) (E : ε → Prop) : Prop :=
  (∃ a t, x.Gives s a t ∧ Q a t) ∨ ∃ e, x.Fails s e ∧ E e

variable {Q : α → σ → Prop} {R : β → σ → Prop} {E : ε → Prop}

theorem Gives.ends {x : Narrated ε ω σ α} {s t : σ} {a : α} (h : x.Gives s a t) (hQ : Q a t) :
    x.Ends s Q E :=
  Or.inl ⟨a, t, h, hQ⟩

theorem Ends.imp {x : Narrated ε ω σ α} {s : σ} {Q' : α → σ → Prop} (h : x.Ends s Q E)
    (hQ : ∀ a t, Q a t → Q' a t) : x.Ends s Q' E := by
  rcases h with ⟨a, t, ht, ha⟩ | failed
  · exact ht.ends (hQ a t ha)
  · exact Or.inr failed

/-- A bind ends as its second part does from where the first part ends. -/
theorem Ends.bind {x : Narrated ε ω σ α} {f : α → Narrated ε ω σ β} {s : σ} (hx : x.Ends s Q E)
    (hf : ∀ a t, Q a t → (f a).Ends t R E) : (x >>= f).Ends s R E := by
  rcases hx with ⟨a, t, ht, ha⟩ | ⟨e, he, hE⟩
  · rcases hf a t ha with ⟨b, u, hu, hb⟩ | ⟨e, he, hE⟩
    · exact (gives_bind_iff.mpr ⟨a, t, ht, hu⟩).ends hb
    · exact Or.inr ⟨e, ht.bind_fails he, hE⟩
  · exact Or.inr ⟨e, he.bind f, hE⟩

theorem ends_pure {a : α} {s : σ} (h : Q a s) : (pure a : Narrated ε ω σ α).Ends s Q E :=
  (gives_pure_iff.mpr ⟨rfl, rfl⟩).ends h

theorem ends_reject {e : ε} {s : σ} (h : E e) : (reject e : Narrated ε ω σ α).Ends s Q E :=
  Or.inr ⟨e, fails_reject e s, h⟩

/-- After a success a bind ends as its second part does. -/
theorem Gives.bind_ends {x : Narrated ε ω σ α} {f : α → Narrated ε ω σ β} {s t : σ} {a : α}
    (hx : x.Gives s a t) (hf : (f a).Ends t R E) : (x >>= f).Ends s R E := by
  have first : x.Ends s (fun b u => b = a ∧ u = t) E := hx.ends ⟨rfl, rfl⟩
  refine first.bind fun b u same => ?_
  obtain ⟨rfl, rfl⟩ := same
  exact hf

theorem ends_focus {part : σ → τ} {put : τ → σ → σ} {x : Narrated ε ω τ α} {s : σ}
    (h : x.Ends (part s) (fun _ _ => True) E) : (focus part put x).Ends s (fun _ _ => True) E := by
  rcases h with ⟨a, t, ht, -⟩ | ⟨e, he, hE⟩
  · exact (gives_focus_iff.mpr ⟨t, ht, rfl⟩).ends trivial
  · exact Or.inr ⟨e, he, hE⟩

/-- A computation with a state of its own leaves the state as it is. -/
theorem ends_apart {t : τ} {x : Narrated ε ω τ Unit} (h : x.Ends t (fun _ _ => True) E) (s : σ) :
    (apart t x : Narrated ε ω σ τ).Ends s (fun _ u => u = s) E := by
  rcases h with ⟨⟨⟩, u, hu, -⟩ | ⟨e, he, hE⟩
  · exact (gives_apart_iff.mpr ⟨hu, rfl⟩).ends rfl
  · exact Or.inr ⟨e, he.apart s, hE⟩

/-! ## Success, unless something is told -/

/-- From the state `s` the computation succeeds with a result and a state of `Q`, or tells something of
`L`. -/
def GivesUnless (x : Narrated ε ω σ α) (s : σ) (Q : α → σ → Prop) (L : ω → Prop) : Prop :=
  (∃ a t, x.Gives s a t ∧ Q a t) ∨ ∃ e ∈ (x.run s).told, L e

variable {L : ω → Prop}

theorem Gives.unless {x : Narrated ε ω σ α} {s t : σ} {a : α} (h : x.Gives s a t) (hQ : Q a t) :
    x.GivesUnless s Q L :=
  Or.inl ⟨a, t, h, hQ⟩

theorem GivesUnless.imp {x : Narrated ε ω σ α} {s : σ} {Q' : α → σ → Prop} (h : x.GivesUnless s Q L)
    (hQ : ∀ a t, Q a t → Q' a t) : x.GivesUnless s Q' L := by
  rcases h with ⟨a, t, ht, ha⟩ | told
  · exact ht.unless (hQ a t ha)
  · exact Or.inr told

/-- What the first part of a bind tells, the bind tells. -/
theorem told_bind_of_left {x : Narrated ε ω σ α} (f : α → Narrated ε ω σ β) {s : σ} {e : ω}
    (h : e ∈ (x.run s).told) : e ∈ ((x >>= f).run s).told := by
  cases first : (x.run s).result with
  | error r =>
    rw [run_bind_error first]
    exact h
  | ok a =>
    rw [run_bind_ok first]
    exact List.mem_append_left _ h

/-- After a success a bind tells what its second part tells. -/
theorem Gives.told_bind {x : Narrated ε ω σ α} {f : α → Narrated ε ω σ β} {s t : σ} {a : α} {e : ω}
    (hx : x.Gives s a t) (h : e ∈ ((f a).run t).told) : e ∈ ((x >>= f).run s).told := by
  obtain ⟨hr, rfl⟩ := hx
  rw [run_bind_ok hr]
  exact List.mem_append_right _ h

/-- After a success a bind does as its second part does. -/
theorem Gives.bind_unless {x : Narrated ε ω σ α} {f : α → Narrated ε ω σ β} {s t : σ} {a : α}
    (hx : x.Gives s a t) (hf : (f a).GivesUnless t R L) : (x >>= f).GivesUnless s R L := by
  rcases hf with ⟨b, u, hu, hb⟩ | ⟨e, told, he⟩
  · exact (gives_bind_iff.mpr ⟨a, t, hx, hu⟩).unless hb
  · exact Or.inr ⟨e, hx.told_bind told, he⟩

/-- **A bind succeeds, unless one of its parts tells.** -/
theorem GivesUnless.bind {x : Narrated ε ω σ α} {f : α → Narrated ε ω σ β} {s : σ}
    (hx : x.GivesUnless s Q L) (hf : ∀ a t, Q a t → (f a).GivesUnless t R L) :
    (x >>= f).GivesUnless s R L := by
  rcases hx with ⟨a, t, ht, ha⟩ | ⟨e, told, he⟩
  · exact ht.bind_unless (hf a t ha)
  · exact Or.inr ⟨e, told_bind_of_left f told, he⟩

theorem GivesUnless.map {x : Narrated ε ω σ α} {f : α → β} {s : σ} (h : x.GivesUnless s Q L)
    (hf : ∀ a t, Q a t → R (f a) t) : (f <$> x).GivesUnless s R L := by
  rw [map_eq_pure_bind]
  exact h.bind fun a t ha => (gives_pure_iff.mpr ⟨rfl, rfl⟩).unless (hf a t ha)

theorem GivesUnless.within {Q : α → σ → Prop} {L : Event → Prop} {x : Generation σ α} {s : σ}
    (h : x.GivesUnless s Q L) (place : String) : (Narrated.within place x).GivesUnless s Q L := by
  rcases h with ⟨a, t, ht, ha⟩ | told
  · exact (gives_within_iff.mpr ht).unless ha
  · exact Or.inr told

theorem GivesUnless.focus {part : σ → τ} {put : τ → σ → σ} {x : Narrated ε ω τ α} {s : σ}
    {Q : α → τ → Prop} (h : x.GivesUnless (part s) Q L) :
    (Narrated.focus part put x).GivesUnless s (fun a t => ∃ u, x.Gives (part s) a u ∧ put u s = t ∧ Q a u)
      L := by
  rcases h with ⟨a, u, hu, ha⟩ | told
  · exact (gives_focus_iff.mpr ⟨u, hu, rfl⟩).unless ⟨u, hu, rfl, ha⟩
  · exact Or.inr told

/-! ## Results with the states that they leave -/

/-- From the state `s` the computation comes to the result `r` and leaves `t`. -/
def EndsIn (x : Narrated ε ω σ α) (s : σ) (r : Except ε α) (t : σ) : Prop :=
  (x.run s).result = r ∧ (x.run s).state = t

theorem endsIn_pure (a : α) (s : σ) : (pure a : Narrated ε ω σ α).EndsIn s (.ok a) s := ⟨rfl, rfl⟩

theorem endsIn_tell (told : List ω) (s : σ) :
    (tell told : Narrated ε ω σ Unit).EndsIn s (.ok ()) s := ⟨rfl, rfl⟩

theorem endsIn_reject (e : ε) (s : σ) : (reject e : Narrated ε ω σ α).EndsIn s (.error e) s :=
  ⟨rfl, rfl⟩

theorem endsIn_get (s : σ) : (get : Narrated ε ω σ σ).EndsIn s (.ok s) s := ⟨rfl, rfl⟩

theorem endsIn_modify (f : σ → σ) (s : σ) :
    (modify f : Narrated ε ω σ Unit).EndsIn s (.ok ()) (f s) := ⟨rfl, rfl⟩

/-- After a success a bind comes to what its second part comes to. -/
theorem EndsIn.bind {x : Narrated ε ω σ α} {f : α → Narrated ε ω σ β} {s t u : σ} {a : α}
    {r : Except ε β} (hx : x.EndsIn s (.ok a) t) (hf : (f a).EndsIn t r u) :
    (x >>= f).EndsIn s r u := by
  obtain ⟨hr, rfl⟩ := hx
  unfold EndsIn
  rw [run_bind_ok hr]
  exact hf

/-- What fails first is what a bind comes to. -/
theorem EndsIn.bind_error {x : Narrated ε ω σ α} {s t : σ} {e : ε} (hx : x.EndsIn s (.error e) t)
    (f : α → Narrated ε ω σ β) : (x >>= f).EndsIn s (.error e) t := by
  obtain ⟨hr, rfl⟩ := hx
  unfold EndsIn
  rw [run_bind_error hr]
  exact ⟨rfl, rfl⟩

theorem EndsIn.focus {part : σ → τ} {put : τ → σ → σ} {x : Narrated ε ω τ α} {s : σ} {t : τ}
    {r : Except ε α} (h : x.EndsIn (part s) r t) : (focus part put x).EndsIn s r (put t s) := by
  obtain ⟨hr, rfl⟩ := h
  exact ⟨hr, rfl⟩

/-! ## Failures with the states that they leave -/

/-- From the state `s` the computation fails and leaves `t`. -/
def Halts (x : Narrated ε ω σ α) (s t : σ) : Prop := ∃ e, x.EndsIn s (.error e) t

theorem gives_or_halts (x : Narrated ε ω σ α) (s : σ) :
    (∃ a, x.Gives s a (x.run s).state) ∨ x.Halts s (x.run s).state := by
  cases h : (x.run s).result with
  | ok a => exact Or.inl ⟨a, h, rfl⟩
  | error e => exact Or.inr ⟨e, h, rfl⟩

theorem Gives.not_halts {x : Narrated ε ω σ α} {s t u : σ} {a : α} (h : x.Gives s a t) :
    ¬ x.Halts s u := by
  rintro ⟨e, fails, -⟩
  exact Fails.not_gives fails h

@[simp] theorem not_halts_pure {a : α} {s t : σ} : ¬ (pure a : Narrated ε ω σ α).Halts s t :=
  Gives.not_halts (gives_pure_iff.mpr ⟨rfl, rfl⟩)

@[simp] theorem not_halts_tell {told : List ω} {s t : σ} : ¬ (tell told : Narrated ε ω σ Unit).Halts s t :=
  (gives_tell told s).not_halts

@[simp] theorem not_halts_get {s t : σ} : ¬ (get : Narrated ε ω σ σ).Halts s t := (gives_get s).not_halts

@[simp] theorem not_halts_modify {f : σ → σ} {s t : σ} : ¬ (modify f : Narrated ε ω σ Unit).Halts s t :=
  (gives_modify f s).not_halts

@[simp] theorem halts_reject_iff {e : ε} {s t : σ} : (reject e : Narrated ε ω σ α).Halts s t ↔ s = t :=
  ⟨fun ⟨_, _, left⟩ => left, fun same => ⟨e, rfl, same⟩⟩

@[simp] theorem halts_ofExcept_iff {r : Except Fault α} {s t : σ} :
    (ofExcept r : Generation σ α).Halts s t ↔ (∃ f, r = .error f) ∧ s = t := by
  cases r with
  | ok a => exact iff_of_false (not_halts_pure (a := a)) fun h => nomatch h.1
  | error f => exact halts_reject_iff.trans (and_iff_right ⟨f, rfl⟩).symm

/-- **A bind halts where its first part does, or its second** from where the first ends. -/
@[simp] theorem halts_bind_iff {x : Narrated ε ω σ α} {f : α → Narrated ε ω σ β} {s t : σ} :
    (x >>= f).Halts s t ↔ x.Halts s t ∨ ∃ a u, x.Gives s a u ∧ (f a).Halts u t := by
  constructor
  · rintro ⟨e, fails, rfl⟩
    cases hx : (x.run s).result with
    | error e' =>
      rw [run_bind_error hx]
      exact Or.inl ⟨e', hx, rfl⟩
    | ok a =>
      rw [run_bind_ok hx] at fails ⊢
      exact Or.inr ⟨a, _, ⟨hx, rfl⟩, e, fails, rfl⟩
  · rintro (⟨e, halts⟩ | ⟨a, u, gives, e, halts⟩)
    · exact ⟨e, halts.bind_error f⟩
    · exact ⟨e, EndsIn.bind gives halts⟩

@[simp] theorem halts_map_iff {x : Narrated ε ω σ α} {f : α → β} {s t : σ} :
    (f <$> x).Halts s t ↔ x.Halts s t := by
  rw [map_eq_pure_bind, halts_bind_iff]
  exact or_iff_left fun ⟨_, _, _, halts⟩ => not_halts_pure halts

@[simp] theorem halts_within_iff {place : String} {x : Generation σ α} {s t : σ} :
    (within place x).Halts s t ↔ x.Halts s t := by
  constructor
  · rintro ⟨e, fails, left⟩
    cases h : (x.run s).result with
    | error e' => exact ⟨e', h, left⟩
    | ok a => exact absurd (gives_within_iff.mpr ⟨h, left⟩) (Fails.not_gives fails)
  · rintro ⟨e, fails, left⟩
    exact ⟨e.attach place, Fails.within fails place, left⟩

/-! ## Two computations -/

section Two

variable {ε' ω' τ' α' β' : Type} {Q : α → α' → Prop} {Q' : β → β' → Prop} {R : σ → τ' → Prop}

/-- **The second computation follows the first**: from related states it succeeds whenever the first does,
with related results and states. -/
def Follows (x : Narrated ε ω σ α) (y : Narrated ε' ω' τ' α') (Q : α → α' → Prop) (R : σ → τ' → Prop) :
    Prop :=
  ∀ s s', R s s' → ∀ a t, x.Gives s a t → ∃ b t', y.Gives s' b t' ∧ Q a b ∧ R t t'

theorem follows_pure {a : α} {b : α'} (h : Q a b) :
    (pure a : Narrated ε ω σ α).Follows (pure b : Narrated ε' ω' τ' α') Q R := by
  intro s s' related a' t gives
  obtain ⟨rfl, rfl⟩ := gives_pure_iff.mp gives
  exact ⟨b, s', gives_pure_iff.mpr ⟨rfl, rfl⟩, h, related⟩

theorem follows_tell (told : List ω) (told' : List ω') :
    (tell told : Narrated ε ω σ Unit).Follows (tell told' : Narrated ε' ω' τ' Unit)
      (fun _ _ => True) R := by
  intro s s' related _ t gives
  obtain rfl := gives_tell_iff.mp gives
  exact ⟨(), s', gives_tell told' s', trivial, related⟩

/-- Everything follows a rejection. -/
theorem follows_reject (e : ε) (y : Narrated ε' ω' τ' α') :
    (reject e : Narrated ε ω σ α).Follows y Q R :=
  fun _ _ _ _ _ gives => absurd gives not_gives_reject

theorem follows_get : (get : Narrated ε ω σ σ).Follows (get : Narrated ε' ω' τ' τ') R R := by
  intro s s' related a t gives
  obtain ⟨rfl, rfl⟩ := gives_get_iff.mp gives
  exact ⟨s', s', gives_get s', related, related⟩

theorem follows_modify {f : σ → σ} {f' : τ' → τ'} (h : ∀ s s', R s s' → R (f s) (f' s')) :
    (modify f : Narrated ε ω σ Unit).Follows (modify f' : Narrated ε' ω' τ' Unit)
      (fun _ _ => True) R := by
  intro s s' related _ t gives
  obtain rfl := gives_modify_iff.mp gives
  exact ⟨(), f' s', gives_modify f' s', trivial, h s s' related⟩

theorem follows_ofExcept {R : σ → τ → Prop} (r : Except Fault α) :
    (ofExcept r : Generation σ α).Follows (ofExcept r : Generation τ α) Eq R := by
  intro s s' related a t gives
  obtain ⟨result, rfl⟩ := gives_ofExcept_iff.mp gives
  exact ⟨a, s', gives_ofExcept_iff.mpr ⟨result, rfl⟩, rfl, related⟩

/-- **Binds follow where their parts do.** -/
theorem Follows.bind {x : Narrated ε ω σ α} {f : α → Narrated ε ω σ β} {y : Narrated ε' ω' τ' α'}
    {f' : α' → Narrated ε' ω' τ' β'} (hx : x.Follows y Q R)
    (hf : ∀ a b, Q a b → (f a).Follows (f' b) Q' R) : (x >>= f).Follows (y >>= f') Q' R := by
  intro s s' related c u gives
  obtain ⟨a, t, ha, hc⟩ := gives_bind_iff.mp gives
  obtain ⟨b, t', hb, results, states⟩ := hx s s' related a t ha
  obtain ⟨d, u', hd, results, states⟩ := hf a b results t t' states c u hc
  exact ⟨d, u', gives_bind_iff.mpr ⟨b, t', hb, hd⟩, results, states⟩

theorem Follows.map {x : Narrated ε ω σ α} {y : Narrated ε' ω' τ' α'} {f : α → β} {f' : α' → β'}
    (h : x.Follows y Q R) (hf : ∀ a b, Q a b → Q' (f a) (f' b)) : (f <$> x).Follows (f' <$> y) Q' R := by
  rw [map_eq_pure_bind, map_eq_pure_bind]
  exact h.bind fun a b results => follows_pure (hf a b results)

theorem Follows.within {R : σ → τ → Prop} {x : Generation σ α} {y : Generation τ α'}
    (h : x.Follows y Q R) (place place' : String) :
    (Narrated.within place x).Follows (Narrated.within place' y) Q R := by
  intro s s' related a t gives
  obtain ⟨b, t', hb, results, states⟩ := h s s' related a t (gives_within_iff.mp gives)
  exact ⟨b, t', gives_within_iff.mpr hb, results, states⟩

end Two

section Agreement

variable {x y : Narrated ε ω σ α} {R : σ → σ → Prop}

/-- **Two computations agree**: from related states they come to the same result, be it an error, and leave
related states. -/
def Agrees (x y : Narrated ε ω σ α) (R : σ → σ → Prop) : Prop :=
  ∀ s s', R s s' → (x.run s).result = (y.run s').result ∧ R (x.run s).state (y.run s').state

theorem agrees_pure (a : α) : (pure a : Narrated ε ω σ α).Agrees (pure a) R :=
  fun _ _ related => ⟨rfl, related⟩

theorem agrees_tell (told told' : List ω) : (tell told : Narrated ε ω σ Unit).Agrees (tell told') R :=
  fun _ _ related => ⟨rfl, related⟩

theorem agrees_reject (e : ε) : (reject e : Narrated ε ω σ α).Agrees (reject e) R :=
  fun _ _ related => ⟨rfl, related⟩

theorem agrees_modify {f f' : σ → σ} (h : ∀ s s', R s s' → R (f s) (f' s')) :
    (modify f : Narrated ε ω σ Unit).Agrees (modify f') R :=
  fun s s' related => ⟨rfl, h s s' related⟩

theorem agrees_ofExcept {r r' : Except Fault α} (same : r = r') :
    (ofExcept r : Generation σ α).Agrees (ofExcept r') R := by
  subst same
  cases r with
  | error fault => exact agrees_reject _
  | ok a => exact agrees_pure a

/-- **Binds agree where their parts do.** -/
theorem Agrees.bind {f f' : α → Narrated ε ω σ β} (hx : x.Agrees y R)
    (hf : ∀ a, (f a).Agrees (f' a) R) : (x >>= f).Agrees (y >>= f') R := by
  intro s s' related
  obtain ⟨results, states⟩ := hx s s' related
  cases left : (x.run s).result with
  | error e =>
    rw [run_bind_error left, run_bind_error (results.symm.trans left)]
    exact ⟨rfl, states⟩
  | ok a =>
    rw [run_bind_ok left, run_bind_ok (results.symm.trans left)]
    exact hf a _ _ states

/-- What goes on from related states agrees with what goes on from the states themselves. -/
theorem agrees_get_bind {f f' : σ → Narrated ε ω σ β} (h : ∀ s s', R s s' → (f s).Agrees (f' s') R) :
    (Narrated.get >>= f).Agrees (Narrated.get >>= f') R := by
  intro s s' related
  rw [run_bind_ok (x := get) (s := s) rfl, run_bind_ok (x := get) (s := s') rfl]
  exact h s s' related s s' related

theorem Agrees.map (h : x.Agrees y R) (f : α → β) : (f <$> x).Agrees (f <$> y) R := by
  rw [map_eq_pure_bind, map_eq_pure_bind]
  exact h.bind fun a => agrees_pure (f a)

theorem Agrees.within {x y : Generation σ α} (h : x.Agrees y R) (place : String) :
    (Narrated.within place x).Agrees (Narrated.within place y) R := by
  intro s s' related
  obtain ⟨results, states⟩ := h s s' related
  refine ⟨?_, states⟩
  show (x.run s).result.mapError (·.attach place) = (y.run s').result.mapError (·.attach place)
  rw [results]

theorem Agrees.focus {x y : Narrated ε ω τ α} {T : τ → τ → Prop} (h : x.Agrees y T) {part : σ → τ}
    {put : τ → σ → σ} (hpart : ∀ s s', R s s' → T (part s) (part s'))
    (hput : ∀ t t' s s', T t t' → R s s' → R (put t s) (put t' s')) :
    (Narrated.focus part put x).Agrees (Narrated.focus part put y) R := by
  intro s s' related
  obtain ⟨results, states⟩ := h _ _ (hpart s s' related)
  exact ⟨results, hput _ _ s s' states related⟩

/-- A computation with a state of its own does not look at the state. -/
theorem agrees_apart (t : τ) (x : Narrated ε ω τ Unit) :
    (apart t x : Narrated ε ω σ τ).Agrees (apart t x) R :=
  fun _ _ related => ⟨rfl, related⟩

end Agreement

end BeanMapping.Narrated
