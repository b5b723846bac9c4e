import BeanMapping.Code.Rendering
import BeanMapping.Proofs.Outcome
import BeanMapping.Proofs.PlanTree

/-!
# What is rendered

The function of a plan, part by part, and the plans of a tree that an emitter renders.

`Renders names cs ds names'` goes through the trees `cs` in the order of the emitter, which has rendered
`names` before: it renders the plans `ds`, and then has rendered `names'`.

Results:
* **`function_eq_ok_iff`**: a plan is rendered as a function exactly when each part of the plan is
  rendered as that part of the function;
* **`functions_of_render`**: the functions of an emission are those of its root and of the plans that
  are rendered with it;
* `Renders.nodup`, `Renders.names_iff`: a name is rendered once, and is remembered.
-/

namespace BeanMapping.Code.Rendering

variable {v : VerifiedPlan} {p d : MappingPlan} {f : Function}

/-! ## The function of a plan -/

theorem bind_eq_ok_iff {ε α β : Type} {r : Except ε α} {g : α → Except ε β} {b : β} :
    (r >>= g) = .ok b ↔ ∃ a, r = .ok a ∧ g a = .ok b := by
  cases r with
  | error e => exact ⟨fun h => (by cases h), fun ⟨_, h, _⟩ => by cases h⟩
  | ok a => exact ⟨fun h => ⟨a, rfl, h⟩, fun ⟨_, h, hg⟩ => by cases h; exact hg⟩

theorem pure_eq_ok_iff {ε α : Type} {a b : α} : (pure a : Except ε α) = .ok b ↔ a = b :=
  ⟨fun h => Except.ok.inj h, fun h => congrArg Except.ok h⟩

theorem mapM_eq_ok_iff {ε α β : Type} {g : α → Except ε β} :
    ∀ {l : List α} {bs : List β}, l.mapM g = .ok bs ↔ l.map g = bs.map .ok
  | [], bs => by
    rw [List.mapM_nil, pure_eq_ok_iff, List.map_nil, eq_comm, eq_comm (b := List.map _ _),
      List.map_eq_nil_iff]
  | a :: l, bs => by
    rw [List.mapM_cons, List.map_cons, eq_comm (a := g a :: _), List.map_eq_cons_iff]
    simp only [bind_eq_ok_iff, mapM_eq_ok_iff, pure_eq_ok_iff]
    constructor
    · rintro ⟨b, hb, cs, hcs, rfl⟩
      exact ⟨b, cs, rfl, hb.symm, hcs.symm⟩
    · rintro ⟨b, cs, rfl, hb, hcs⟩
      exact ⟨b, hb.symm, cs, hcs.symm, rfl⟩

/-- What is attached to errors changes no result. -/
theorem mapM_mapError_eq_ok_iff {ε ε' α β : Type} {g : α → Except ε β} {attach : α → ε → ε'} :
    ∀ {l : List α} {bs : List β},
      l.mapM (fun a => (g a).mapError (attach a)) = .ok bs ↔ l.mapM g = .ok bs
  | [], bs => by
    rw [List.mapM_nil, List.mapM_nil, pure_eq_ok_iff, pure_eq_ok_iff]
  | a :: l, bs => by
    simp only [List.mapM_cons, bind_eq_ok_iff, Narrated.mapError_eq_ok_iff, mapM_mapError_eq_ok_iff,
      pure_eq_ok_iff]

/-- **A plan is rendered as a function exactly when each of its parts is.** -/
theorem function_eq_ok_iff : function v p = .ok f ↔
    identifier p.method = .ok f.name ∧ type p.sourceType = .ok f.source ∧
      type p.targetType = .ok f.target ∧ p.updatesTarget = f.updatesTarget ∧
      errorType v p.declaredFailures = .ok f.error ∧
      p.properties.map (statement v) = f.body.map .ok := by
  unfold function
  simp only [bind_eq_ok_iff, pure_eq_ok_iff]
  constructor
  · rintro ⟨name, hn, source, hs, target, ht, error, he, body, hb, rfl⟩
    exact ⟨hn, hs, ht, rfl, he, mapM_eq_ok_iff.mp (mapM_mapError_eq_ok_iff.mp hb)⟩
  · rintro ⟨hn, hs, ht, hu, he, hb⟩
    refine ⟨_, hn, _, hs, _, ht, _, he, _,
      mapM_mapError_eq_ok_iff.mpr (mapM_eq_ok_iff.mpr hb), ?_⟩
    rw [hu]

/-! ## The plans that are rendered -/

/-- **Rendering the trees `cs` of an emitter that has rendered `names` renders the plans `ds`**, each
after those that it embeds, and leaves `names'`. -/
inductive Renders : RenderedNames → (cs ds : List MappingPlan) → RenderedNames → Prop
  | nil {names : RenderedNames} : Renders names [] [] names
  | seen {names names' : RenderedNames} {c : MappingPlan} {cs ds : List MappingPlan}
      (mem : c.method ∈ names) (rest : Renders names cs ds names') : Renders names (c :: cs) ds names'
  | fresh {names inner names' : RenderedNames} {c : MappingPlan} {cs below ds : List MappingPlan}
      (free : c.method ∉ names) (nested : Renders (c.method :: names) c.nested below inner)
      (rest : Renders inner cs ds names') : Renders names (c :: cs) (below ++ c :: ds) names'

/-- The functions of an embedded tree. -/
def treeFunctions (v : VerifiedPlan) (c : MappingPlan) : Generation RenderedNames (List Function) := do
  if (← Narrated.get).contains c.method then return []
  Narrated.modify (c.method :: ·)
  let inner ← nestedFunctions v c
  let own ← Narrated.ofResult (function v c)
  return inner ++ [own]

theorem nestedFunctions_eq (v : VerifiedPlan) (p : MappingPlan) :
    nestedFunctions v p = List.flatten <$> p.nested.mapM (treeFunctions v) := by
  rw [nestedFunctions, map_eq_pure_bind]
  conv => rhs; rw [← List.attach_map_subtype_val p.nested]
  rw [List.mapM_map]
  rfl

/-- The functions are those of the plans. -/
def AreFunctions (v : VerifiedPlan) (ds : List MappingPlan) (fs : List Function) : Prop :=
  ds.map (function v) = fs.map .ok

theorem treeFunctions_gives {names names' : RenderedNames} {fs : List Function} {c : MappingPlan}
    (h : (treeFunctions v c).Gives names fs names') :
    (c.method ∈ names ∧ fs = [] ∧ names = names') ∨
      ∃ inner own, c.method ∉ names ∧
        (nestedFunctions v c).Gives (c.method :: names) inner names' ∧ function v c = .ok own ∧
        fs = inner ++ [own] := by
  unfold treeFunctions at h
  obtain ⟨_, _, hg, h⟩ := Narrated.gives_bind_iff.mp h
  obtain ⟨rfl, rfl⟩ := Narrated.gives_get_iff.mp hg
  by_cases mem : c.method ∈ names
  · rw [if_pos (List.contains_iff_mem.mpr mem)] at h
    obtain ⟨rfl, rfl⟩ := Narrated.gives_pure_iff.mp h
    exact Or.inl ⟨mem, rfl, rfl⟩
  · rw [if_neg fun h => mem (List.contains_iff_mem.mp h)] at h
    simp only [Narrated.gives_bind_iff, Narrated.gives_modify_iff, Narrated.gives_ofResult_iff,
      Narrated.gives_pure_iff] at h
    obtain ⟨_, _, rfl, inner, _, hi, own, _, ⟨ho, rfl⟩, rfl, rfl⟩ := h
    exact Or.inr ⟨inner, own, mem, hi, ho, rfl⟩

/-- What renders each tree renders the list of the trees. -/
theorem renders_of_mapM {cs : List MappingPlan}
    (ih : ∀ c ∈ cs, ∀ names fs names', (nestedFunctions v c).Gives names fs names' →
      ∃ ds, Renders names c.nested ds names' ∧ AreFunctions v ds fs) :
    ∀ {names names' : RenderedNames} {groups : List (List Function)},
      (cs.mapM (treeFunctions v)).Gives names groups names' →
        ∃ ds, Renders names cs ds names' ∧ AreFunctions v ds groups.flatten := by
  induction cs with
  | nil =>
    intro names names' groups h
    rw [List.mapM_nil] at h
    obtain ⟨rfl, rfl⟩ := Narrated.gives_pure_iff.mp h
    exact ⟨[], .nil, rfl⟩
  | cons c cs rest =>
    intro names names' groups h
    simp only [List.mapM_cons, Narrated.gives_bind_iff, Narrated.gives_pure_iff] at h
    obtain ⟨fs, middle, hc, others, _, hcs, rfl, rfl⟩ := h
    obtain ⟨ds, hds, hfs⟩ := rest (fun c hc => ih c (List.mem_cons_of_mem _ hc)) hcs
    rw [List.flatten_cons]
    rcases treeFunctions_gives hc with ⟨mem, rfl, rfl⟩ | ⟨inner, own, free, hi, ho, rfl⟩
    · exact ⟨ds, .seen mem hds, hfs⟩
    · obtain ⟨below, hbelow, hinner⟩ := ih c List.mem_cons_self _ _ _ hi
      refine ⟨below ++ c :: ds, .fresh free hbelow hds, ?_⟩
      unfold AreFunctions at hinner hfs ⊢
      rw [List.map_append, List.map_cons, hinner, ho, hfs, List.append_assoc, List.map_append]
      rfl

/-- The functions of the plans that a tree embeds are those of the plans that are rendered. -/
theorem renders_of_gives (p : MappingPlan) :
    ∀ names fs names', (nestedFunctions v p).Gives names fs names' →
      ∃ ds, Renders names p.nested ds names' ∧ AreFunctions v ds fs := by
  induction p using MappingPlan.inductionOn with
  | step p ih =>
    intro names fs names' h
    rw [nestedFunctions_eq, Narrated.gives_map_iff] at h
    obtain ⟨groups, h, rfl⟩ := h
    exact renders_of_mapM ih h

/-- **The functions of an emission** are those of its root and of the plans that are rendered with
it. -/
theorem functions_of_render {m : MappingMethod} {names names' : RenderedNames} {code : GeneratedCode}
    (h : (render m v).Gives names code names') :
    ∃ ds, Renders names v.plan.nested ds names' ∧ AreFunctions v (v.plan :: ds) code.functions := by
  unfold render at h
  simp only [Narrated.gives_bind_iff, Narrated.gives_ofResult_iff] at h
  obtain ⟨root, _, ⟨hroot, rfl⟩, nested, _, hnested, h⟩ := h
  obtain ⟨ds, hds, hfs⟩ := renders_of_gives v.plan _ _ _ hnested
  split at h
  · obtain ⟨rfl, rfl⟩ := Narrated.gives_pure_iff.mp h
    refine ⟨ds, hds, ?_⟩
    unfold AreFunctions at hfs ⊢
    rw [List.map_cons, hroot, hfs]
    rfl
  · exact absurd h Narrated.not_gives_reject

/-! ## Names -/

variable {names names' : RenderedNames} {cs ds : List MappingPlan}

/-- What is rendered is determined by the trees and the names. -/
theorem Renders.unique (h : Renders names cs ds names') :
    ∀ {ds' : List MappingPlan} {other : RenderedNames}, Renders names cs ds' other →
      ds' = ds ∧ other = names' := by
  induction h with
  | nil =>
    intro ds' other h'
    cases h'
    exact ⟨rfl, rfl⟩
  | seen mem _ ih =>
    intro ds' other h'
    cases h' with
    | seen _ rest => exact ih rest
    | fresh free _ _ => exact absurd mem free
  | fresh free _ _ ihNested ihRest =>
    intro ds' other h'
    cases h' with
    | seen mem _ => exact absurd mem free
    | fresh _ nested rest =>
      obtain ⟨rfl, rfl⟩ := ihNested nested
      obtain ⟨rfl, rfl⟩ := ihRest rest
      exact ⟨rfl, rfl⟩

/-- **The names of what is rendered are remembered**, with those that were. -/
theorem Renders.names_iff (h : Renders names cs ds names') {name : String} :
    name ∈ names' ↔ name ∈ names ∨ ∃ d ∈ ds, d.method = name := by
  induction h with
  | nil => simp
  | seen _ _ ih => exact ih
  | fresh _ _ _ ihNested ihRest =>
    rw [ihRest, ihNested, List.mem_cons]
    simp only [List.mem_append, List.mem_cons, or_and_right, exists_or, exists_eq_left]
    grind

/-- What is rendered has names that were not remembered. -/
theorem Renders.free (h : Renders names cs ds names') : ∀ d ∈ ds, d.method ∉ names := by
  induction h with
  | nil => exact fun d mem => absurd mem List.not_mem_nil
  | seen _ _ ih => exact ih
  | fresh free nested _ ihNested ihRest =>
    rw [List.forall_mem_append, List.forall_mem_cons]
    refine ⟨fun d hd mem => ihNested d hd (List.mem_cons_of_mem _ mem), free, fun d hd mem => ?_⟩
    exact ihRest d hd (nested.names_iff.mpr (Or.inl (List.mem_cons_of_mem _ mem)))

/-- **A name is rendered once.** -/
theorem Renders.nodup (h : Renders names cs ds names') : (ds.map MappingPlan.method).Nodup := by
  induction h with
  | nil => exact List.nodup_nil
  | seen _ _ ih => exact ih
  | @fresh _ _ _ c _ below ds free nested rest ihNested ihRest =>
    rw [List.map_append, List.map_cons, List.nodup_append, List.nodup_cons]
    have later : ∀ d ∈ ds, d.method ≠ c.method ∧ ∀ e ∈ below, d.method ≠ e.method := by
      intro d hd
      have mem := rest.free d hd
      rw [nested.names_iff, not_or, List.mem_cons, not_or] at mem
      exact ⟨mem.1.1, fun e he same => mem.2 ⟨e, he, same.symm⟩⟩
    refine ⟨ihNested, ⟨fun mem => ?_, ihRest⟩, ?_⟩
    · obtain ⟨d, hd, same⟩ := List.mem_map.mp mem
      exact (later d hd).1 same
    · intro a ha b hb same
      obtain ⟨e, he, rfl⟩ := List.mem_map.mp ha
      rcases List.mem_cons.mp hb with rfl | hb
      · exact nested.free e he (same ▸ List.mem_cons_self)
      · obtain ⟨d, hd, rfl⟩ := List.mem_map.mp hb
        exact (later d hd).2 e he same.symm

/-- What is rendered is a plan of one of the trees. -/
theorem Renders.exists_tree (h : Renders names cs ds names') :
    ∀ d ∈ ds, ∃ c ∈ cs, d ∈ c.nodes := by
  induction h with
  | nil => exact fun d mem => absurd mem List.not_mem_nil
  | seen _ _ ih =>
    intro d hd
    obtain ⟨c, hc, mem⟩ := ih d hd
    exact ⟨c, List.mem_cons_of_mem _ hc, mem⟩
  | @fresh _ _ _ c _ _ _ _ _ _ ihNested ihRest =>
    intro d hd
    rcases List.mem_append.mp hd with hd | hd
    · obtain ⟨e, he, mem⟩ := ihNested d hd
      exact ⟨c, List.mem_cons_self, MappingPlan.mem_nodes_iff.mpr (Or.inr ⟨e, he, mem⟩)⟩
    · rcases List.mem_cons.mp hd with rfl | hd
      · exact ⟨d, List.mem_cons_self, MappingPlan.mem_nodes_self d⟩
      · obtain ⟨e, he, mem⟩ := ihRest d hd
        exact ⟨e, List.mem_cons_of_mem _ he, mem⟩

/-- What is rendered with a plan is embedded in its tree. -/
theorem Renders.embedded (h : Renders names p.nested ds names') :
    ∀ d ∈ ds, d ∈ MappingPlan.embedded p.properties := by
  intro d hd
  obtain ⟨c, hc, mem⟩ := h.exists_tree d hd
  exact List.mem_flatMap.mpr ⟨c, hc, MappingPlan.mem_postorder_iff.mpr mem⟩

end BeanMapping.Code.Rendering
