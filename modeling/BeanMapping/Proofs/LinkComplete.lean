import BeanMapping.Proofs.LinkErrors
import BeanMapping.Proofs.Linking

/-!
# Compiled methods link

A reference without a plan names a method whose plan is elsewhere in the tree: that of a method in
progress further up, or of one that was derived before. The table of the tree has them all
(`PlannedTree.reference_found`), so a run never leaves the table, and the converters of the whole table
were looked up when it was made (`supplied_of_compile`).

Result:
* **`compiled_links`**: where no methods are declared, a compiled method never ends in a link error.
-/

namespace BeanMapping

/-! ## Tables of planned trees -/

namespace Planner.PlannedTree

variable {p : Planner} {root : MappingMethod} {plan q : MappingPlan} {name : String}
  {n : NestedMapping MappingPlan}

/-- The table of a tree has the method of the root. -/
theorem own_found (h : p.PlannedTree root plan) :
    ∃ r ∈ plan.nodes, (PlanTable.ofPlan plan).find? root.name = some r := by
  obtain ⟨xs, rfl⟩ := h.root_eq
  exact PlanTable.exists_find?_ofPlan (MappingPlan.mem_nodes_self _)

/-- **The table of a tree has what its plans refer to**, but for declared methods. -/
theorem reference_found (h : p.PlannedTree root plan)
    (found : (PlanTable.ofPlan plan).find? name = some q) (hn : n ∈ q.references) :
    n.method ∈ p.declared.map (·.name) ∨
      ∃ r ∈ plan.nodes, (PlanTable.ofPlan plan).find? n.method = some r := by
  obtain ⟨mem, -⟩ := PlanTable.find?_ofPlan_some found
  rcases h.reference_cases q mem n hn with ⟨d, hd, -, rfl⟩ | ⟨c, hc, same⟩
  · exact Or.inl (List.mem_map_of_mem hd)
  · have method_eq : n.method = c.method := congrArg NestedMapping.method same
    rw [method_eq]
    exact Or.inr (PlanTable.exists_find?_ofPlan hc)

end Planner.PlannedTree

/-! ## Compiled methods -/

namespace CompiledMapping

/-- The converters that the plans of the mapping call are registered with it. -/
def Supplied (c : CompiledMapping) : Prop :=
  ∀ name p, c.plans.find? name = some p → ∀ x ∈ p.properties, ∀ path,
    x.converterPath? = some path → c.converters.find? path ≠ none

/-- **A compiled mapping is supplied**: the converters of all plans of the table were looked up. -/
theorem supplied_of_compile {σ : Type} {converters : ConverterTable} {m : MappingMethod}
    {v : VerifiedPlan} {c : CompiledMapping} {s t : σ} (h : (compile converters m v).Gives s c t) :
    c.Supplied := by
  obtain rfl := compile_gives h
  intro name p found x hx path calls missing
  unfold compile at h
  dsimp only at h
  split at h
  · exact absurd h Narrated.not_gives_reject
  · rename_i complete
    have mem := List.mem_flatMap.mpr ⟨p, Keyed.mem_of_find? found, hx⟩
    refine List.find?_eq_none.mp complete x mem ?_
    unfold lacksConverter
    rw [calls, Option.any_some, missing]
    rfl

end CompiledMapping

namespace Generator

variable {g : Generator} {m : MappingMethod} {v : VerifiedPlan} {converters : ConverterTable}
  {c : CompiledMapping} {shapes : ShapeCache} {σ : Type} {s : σ}

/-- What a compiled method reaches, its table has. -/
theorem Accepted.not_missesMethod (accepted : g.Accepted [] m v) (name : String) :
    ¬ (⟨m.name, PlanTable.ofPlan v.plan, converters⟩ : CompiledMapping).MissesMethod name := by
  rintro ⟨reached, unbound⟩
  let Bound (name : String) := ∃ r ∈ v.plan.nodes, (PlanTable.ofPlan v.plan).find? name = some r
  have bound : Bound name := by
    refine reached.closed (P := Bound) accepted.planned.own_found fun method p _ found n hn => ?_
    rcases accepted.planned.reference_found found hn with declared | bound
    · exact absurd declared List.not_mem_nil
    · exact bound
  obtain ⟨r, -, found⟩ := bound
  exact absurd (unbound.symm.trans found) (by simp)

/-- **A compiled method never ends in a link error**, if it was planned with no methods declared:
whatever the source and the target, no method is unknown and no converter is missing. -/
theorem compiled_links (planned : ((g.plan [] m).run shapes).result = .ok v)
    (compiled : ((CompiledMapping.compile converters m v).run s).result = .ok c)
    (source target : Json) :
    (∀ method, (c.map source).result ≠ .error (.unknownMethod method) ∧
      (c.mapInto source target).result ≠ .error (.unknownMethod method)) ∧
    ∀ path, (c.map source).result ≠ .error (.missingConverter path) ∧
      (c.mapInto source target).result ≠ .error (.missingConverter path) := by
  have accepted := accepted_of_gives (Narrated.gives_of_result planned)
  have made := Narrated.gives_of_result compiled
  have supplied := CompiledMapping.supplied_of_compile made
  have unmissed : ∀ method, ¬ c.MissesMethod method := by
    obtain rfl := CompiledMapping.compile_gives made
    exact accepted.not_missesMethod
  have unwanting : ∀ path, ¬ c.MissesConverter path := by
    rintro path ⟨⟨method, p, x, -, found, hx, calls⟩, missing⟩
    exact supplied method p found x hx path calls missing
  refine ⟨fun method => ⟨fun failed => ?_, fun failed => ?_⟩,
    fun path => ⟨fun failed => ?_, fun failed => ?_⟩⟩
  · exact unmissed method (CompiledMapping.justified_of_mapInto failed)
  · exact unmissed method (CompiledMapping.justified_of_mapInto failed)
  · exact unwanting path (CompiledMapping.justified_of_mapInto failed)
  · exact unwanting path (CompiledMapping.justified_of_mapInto failed)

/-! ### Folders and their users -/

/-- Folders with a parent and two users, who have a home folder and an age that a converter reads. -/
def folders : Generator where
  types := .ofList [
    ⟨⟨"Folder"⟩, .bean, [], [.getter "getParent" ⟨"Folder"⟩, .getter "getOwner" ⟨"User"⟩,
      .getter "getEditor" ⟨"User"⟩]⟩,
    ⟨⟨"FolderDto"⟩, .bean, [], [.writer "setParent" ⟨"FolderDto"⟩, .writer "setOwner" ⟨"UserDto"⟩,
      .writer "setEditor" ⟨"UserDto"⟩]⟩,
    ⟨⟨"User"⟩, .bean, [], [.getter "getAge" ⟨"String"⟩, .getter "getHome" ⟨"Folder"⟩]⟩,
    ⟨⟨"UserDto"⟩, .bean, [], [.writer "setAge" ⟨"i64"⟩, .writer "setHome" ⟨"FolderDto"⟩]⟩]
  config := .default
  book := .ofFirsts [⟨⟨"String"⟩, ⟨"i64"⟩, "parse", [], false⟩]
  valid := GeneratorConfig.fault?_default

/-- Maps a folder. -/
def mapFolder : MappingMethod where
  name := "folder_to_dto"
  sourceType := ⟨"Folder"⟩
  targetType := ⟨"FolderDto"⟩

/-- A converter for which every text is the number three. -/
def reading : ConverterTable := NameMap.empty.insert "parse" fun _ _ => .ok (.nat 3)

/-- What the generator makes of the mapping of a folder. -/
def foldersPlanned : Except Report VerifiedPlan := ((folders.plan [] mapFolder).run .empty).result

/-- The compiled mapping of a folder. -/
def foldersCompiled (v : VerifiedPlan) : Except Report CompiledMapping :=
  ((CompiledMapping.compile reading mapFolder v).run ()).result

/-- A folder whose editor has a home with an editor, in a folder with an owner. -/
def nestedFolder : Json :=
  .obj [("editor", .obj [("home", .obj [("editor", .obj [("age", .str "3")])])]),
    ("parent", .obj [("owner", .obj [("age", .str "3")])])]

/-- A folder comes back to folders by its parent, which is still in progress, and to users by its editor,
who is mapped by the method derived for its owner; four references, of which one carries a plan. -/
theorem compiled_links_folders : ∃ v c, foldersPlanned = .ok v ∧ foldersCompiled v = .ok c ∧
    (v.plan.nodes.flatMap (·.references)).map (fun n => (n.method, n.plan.isSome)) =
      [("folder_to_dto", false), ("map_user_to_user_dto", true), ("map_user_to_user_dto", false),
        ("folder_to_dto", false)] ∧
    (c.map nestedFolder).result = .ok () ∧
    (∀ method, (c.mapInto nestedFolder .null).result ≠ .error (.unknownMethod method)) ∧
    ∀ path, (c.mapInto nestedFolder .null).result ≠ .error (.missingConverter path) := by
  obtain ⟨v, planned, evaluated⟩ := Narrated.exists_ok_of_any
    (show foldersPlanned.toOption.any (fun v =>
      decide ((v.plan.nodes.flatMap (·.references)).map (fun n => (n.method, n.plan.isSome)) =
        [("folder_to_dto", false), ("map_user_to_user_dto", true), ("map_user_to_user_dto", false),
          ("folder_to_dto", false)]) &&
      (foldersCompiled v).toOption.any fun c => decide ((c.map nestedFolder).result = .ok ())) = true
      by decide +kernel)
  rw [Bool.and_eq_true] at evaluated
  obtain ⟨c, compiled, mapped⟩ := Narrated.exists_ok_of_any evaluated.2
  refine ⟨v, c, planned, compiled, of_decide_eq_true evaluated.1, of_decide_eq_true mapped, ?_⟩
  unfold foldersPlanned at planned
  unfold foldersCompiled at compiled
  obtain ⟨methods, paths⟩ := compiled_links planned compiled nestedFolder .null
  exact ⟨fun method => (methods method).2, fun path => (paths path).2⟩

end Generator

end BeanMapping
