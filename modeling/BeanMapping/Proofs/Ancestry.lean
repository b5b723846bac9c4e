import BeanMapping.Registry.Ancestry
import Mathlib.Data.List.Basic
import Mathlib.Logic.Relation

/-!
# Ancestors are what supertypes lead to

`Registry.Parent` is one step from a described type to a supertype that its description lists. The
search in layers finds exactly the names that one or more steps lead to, whatever the supertypes are:
they may run in circles, repeat, or have no description.

The search keeps one invariant: every supertype of a name that was seen has been seen or waits in the
frontier (`Closed`). There are enough rounds, because a round after which some candidate is left has
seen a described type for the first time (`unseen_lt`).

Results:
* **`mem_ancestors_iff`**: the ancestors of a type are the names that its supertypes lead to;
* **`isAssignable_iff`**, `isAssignable_refl`, `isAssignable_trans`: a type may be used as each type
  that zero or more steps lead to, which is a preorder.
-/

namespace BeanMapping.Registry

variable {r : Registry} {t u w : TypeName}

/-- The second type is a direct supertype of the first. -/
def Parent (r : Registry) (t u : TypeName) : Prop := u ∈ r.parents t

/-- The second type is a supertype of the first, or a supertype of one of its supertypes, and so
on. -/
def Ancestor (r : Registry) : TypeName → TypeName → Prop := Relation.TransGen r.Parent

/-- The second type is the first or one of its ancestors. -/
def Leads (r : Registry) : TypeName → TypeName → Prop := Relation.ReflTransGen r.Parent

/-! ## The search -/

/-- Every supertype of a seen name has been seen or waits. -/
def Closed (r : Registry) (seen frontier : List TypeName) : Prop :=
  ∀ x ∈ seen, ∀ y, r.Parent x y → y ∈ seen ∨ y ∈ frontier

/-- The described types that have not been seen. -/
def unseen (r : Registry) (seen : List TypeName) : List TypeDescriptor :=
  r.items.filter fun d => !seen.contains d.name

/-- The candidates that have not been seen, each once. -/
def nextLayer (seen frontier : List TypeName) : List TypeName :=
  frontier.eraseDups.filter fun t => !seen.contains t

theorem mem_nextLayer {seen frontier : List TypeName} {x : TypeName} :
    x ∈ nextLayer seen frontier ↔ x ∈ frontier ∧ x ∉ seen := by
  unfold nextLayer
  rw [List.mem_filter, List.mem_eraseDups]
  simp

theorem layers_succ (r : Registry) (fuel : Nat) (seen frontier : List TypeName) :
    r.layers (fuel + 1) seen frontier =
      match nextLayer seen frontier with
      | [] => []
      | layer => layer ++ r.layers fuel (seen ++ layer) (layer.flatMap r.parents) := rfl

theorem mem_items_of_describe {d : TypeDescriptor} (h : r.describe t = some d) : d ∈ r.items :=
  Keyed.mem_of_find? h

/-- A type with supertypes is described. -/
theorem exists_describe_of_parent (h : r.Parent t u) : ∃ d, r.describe t = some d := by
  unfold Parent parents at h
  cases hd : r.describe t with
  | none => rw [hd] at h; exact absurd h List.not_mem_nil
  | some d => exact ⟨d, rfl⟩

/-- What is seen after a layer keeps the frontier of the next one closed. -/
theorem closed_next {seen frontier : List TypeName} (h : r.Closed seen frontier) :
    r.Closed (seen ++ nextLayer seen frontier) ((nextLayer seen frontier).flatMap r.parents) := by
  intro x hx y hy
  rcases List.mem_append.mp hx with hx | hx
  · left
    rw [List.mem_append]
    rcases h x hx y hy with hs | hf
    · exact Or.inl hs
    · by_cases hs : y ∈ seen
      · exact Or.inl hs
      · exact Or.inr (mem_nextLayer.mpr ⟨hf, hs⟩)
  · exact Or.inr (List.mem_flatMap.mpr ⟨x, hx, hy⟩)

theorem unseen_sublist (r : Registry) (seen layer : List TypeName) :
    (r.unseen (seen ++ layer)).Sublist (r.unseen seen) := by
  refine List.monotone_filter_right _ fun a ha => ?_
  simp only [List.contains_append, Bool.not_or, Bool.and_eq_true] at ha
  exact ha.1

/-- Where something is left to look at after a layer, the layer holds a described type, which was not
seen before. -/
theorem unseen_lt {seen layer : List TypeName} (fresh : ∀ x ∈ layer, x ∉ seen)
    (left : layer.flatMap r.parents ≠ []) :
    (r.unseen (seen ++ layer)).length < (r.unseen seen).length := by
  obtain ⟨y, hy⟩ := List.exists_mem_of_ne_nil _ left
  obtain ⟨x, hx, hxy⟩ := List.mem_flatMap.mp hy
  obtain ⟨d, hd⟩ := exists_describe_of_parent hxy
  have hname : d.name = x := name_of_describe hd
  have hsub := r.unseen_sublist seen layer
  refine Nat.lt_of_le_of_ne hsub.length_le fun heq => ?_
  have hmem : d ∈ r.unseen (seen ++ layer) := by
    rw [hsub.eq_of_length heq]
    refine List.mem_filter.mpr ⟨mem_items_of_describe hd, ?_⟩
    simp [hname, fresh x hx]
  have := (List.mem_filter.mp hmem).2
  simp [hname, hx] at this

/-- A way out of a closed set goes through the frontier. -/
theorem leads_of_closed {seen frontier : List TypeName} (h : r.Closed seen frontier)
    (ht : t ∈ seen) (hr : r.Leads t u) : u ∈ seen ∨ ∃ x ∈ frontier, r.Leads x u := by
  induction hr with
  | refl => exact Or.inl ht
  | tail _ hstep ih =>
    rcases ih with hs | ⟨x, hx, hxs⟩
    · rcases h _ hs _ hstep with hs | hf
      · exact Or.inl hs
      · exact Or.inr ⟨_, hf, Relation.ReflTransGen.refl⟩
    · exact Or.inr ⟨x, hx, hxs.tail hstep⟩

/-- Every name of a layer is one that the frontier leads to. -/
theorem exists_leads_of_mem_layers :
    ∀ {fuel : Nat} {seen frontier : List TypeName}, u ∈ r.layers fuel seen frontier →
      ∃ x ∈ frontier, r.Leads x u
  | 0, _, _, h => absurd h List.not_mem_nil
  | fuel + 1, seen, frontier, h => by
    rw [layers_succ] at h
    split at h
    · exact absurd h List.not_mem_nil
    · rcases List.mem_append.mp h with h | h
      · exact ⟨u, (mem_nextLayer.mp h).1, Relation.ReflTransGen.refl⟩
      · obtain ⟨y, hy, hyu⟩ := exists_leads_of_mem_layers h
        obtain ⟨x, hx, hxy⟩ := List.mem_flatMap.mp hy
        exact ⟨x, (mem_nextLayer.mp hx).1, Relation.ReflTransGen.head hxy hyu⟩

/-- Every name that the frontier leads to is in a layer, unless it was seen before: the induction is
on the rounds that are left, of which there are more than described types that were not seen. -/
theorem mem_layers_of_leads :
    ∀ {fuel : Nat} {seen frontier : List TypeName}, r.Closed seen frontier →
      (frontier ≠ [] → (r.unseen seen).length < fuel) → ∀ x ∈ frontier, r.Leads x u →
        u ∈ seen ∨ u ∈ r.layers fuel seen frontier
  | 0, seen, frontier, _, enough, x, hx, _ =>
    absurd (enough (List.ne_nil_of_mem hx)) (Nat.not_lt_zero _)
  | fuel + 1, seen, frontier, closed, enough, x, hx, hxu => by
    have hnext := closed_next closed
    have hxs : x ∈ seen ++ nextLayer seen frontier := by
      by_cases hs : x ∈ seen
      · exact List.mem_append_left _ hs
      · exact List.mem_append_right _ (mem_nextLayer.mpr ⟨hx, hs⟩)
    have hcount : (nextLayer seen frontier).flatMap r.parents ≠ [] →
        (r.unseen (seen ++ nextLayer seen frontier)).length < fuel := fun left => by
      have h1 := unseen_lt (fun y hy => (mem_nextLayer.mp hy).2) left
      have h2 := enough (List.ne_nil_of_mem hx)
      omega
    have hin : u ∈ seen ++ nextLayer seen frontier ∨
        u ∈ r.layers fuel (seen ++ nextLayer seen frontier)
          ((nextLayer seen frontier).flatMap r.parents) := by
      rcases leads_of_closed hnext hxs hxu with hu | ⟨y, hy, hyu⟩
      · exact Or.inl hu
      · exact mem_layers_of_leads hnext hcount y hy hyu
    rw [layers_succ]
    split
    · rename_i hnil
      rw [hnil] at hin
      rcases hin with hu | hu
      · simpa using hu
      · rw [List.flatMap_nil] at hu
        obtain ⟨y, hy, -⟩ := exists_leads_of_mem_layers hu
        exact absurd hy List.not_mem_nil
    · rwa [List.mem_append, or_assoc, ← List.mem_append (s := nextLayer seen frontier)] at hin

/-! ## Ancestors -/

theorem ancestor_iff : r.Ancestor t u ↔ ∃ x, r.Parent t x ∧ r.Leads x u := by
  unfold Ancestor Leads
  rw [Relation.TransGen.head'_iff]

/-- **The ancestors of a type are the names that its supertypes lead to.** -/
theorem mem_ancestors_iff : u ∈ r.ancestors t ↔ r.Ancestor t u := by
  rw [ancestor_iff]
  unfold ancestors
  constructor
  · intro h
    obtain ⟨x, hx, hxu⟩ := exists_leads_of_mem_layers h
    exact ⟨x, hx, hxu⟩
  · rintro ⟨x, hx, hxu⟩
    have closed : r.Closed [] (r.parents t) := fun _ h => absurd h List.not_mem_nil
    have enough : (r.unseen []).length < r.size + 1 :=
      Nat.lt_succ_of_le (List.length_filter_le _ _)
    rcases mem_layers_of_leads closed (fun _ => enough) x hx hxu with h | h
    · exact absurd h List.not_mem_nil
    · exact h

theorem leads_iff : r.Leads t u ↔ u = t ∨ r.Ancestor t u :=
  Relation.reflTransGen_iff_eq_or_transGen

/-- **A type may be used as each type that zero or more steps lead to.** -/
theorem isAssignable_iff : r.isAssignable t u = true ↔ r.Leads t u := by
  unfold isAssignable
  rw [leads_iff, Bool.or_eq_true, beq_iff_eq, List.contains_iff_mem, mem_ancestors_iff]
  exact or_congr_left eq_comm

theorem isAssignable_refl (r : Registry) (t : TypeName) : r.isAssignable t t = true :=
  isAssignable_iff.mpr Relation.ReflTransGen.refl

theorem isAssignable_trans (h : r.isAssignable t u = true) (h' : r.isAssignable u w = true) :
    r.isAssignable t w = true :=
  isAssignable_iff.mpr ((isAssignable_iff.mp h).trans (isAssignable_iff.mp h'))

end BeanMapping.Registry
