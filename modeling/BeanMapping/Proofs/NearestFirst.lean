import BeanMapping.Proofs.IntrospectedShapes
import BeanMapping.Proofs.Verification
import Mathlib.Data.List.Forall2
import Mathlib.Order.Bounds.Defs

/-!
# The nearest ancestors come first

`Registry.Distance` is the least number of steps, one at least, from a type to a supertype. A type that its
supertypes lead back to has a distance from itself as from any other.

The search in layers keeps `Layered`: after `n` layers it has seen the names that at most `n` steps lead to,
and those that one more leads to wait. So a layer holds the names of one distance, and each later layer is
farther.

`Registry.visits` is the same search by a queue, in which a name may wait more than once. It ends because a
name that leaves the queue for the first time takes one of the described types from those that were not seen,
or leads nowhere.

Results:
* **`ancestors_eq_visits`**: the search in layers finds what the queue finds, in its order;
* `exists_distances`: the distances of the ancestors do not decrease;
* **`ancestors_nearest_first`**: the ancestors of a type are the names that its supertypes lead to, each once
  and the nearest first, and what rests on them: where a type may be used, and which failures are unchecked or
  covered.
-/

namespace BeanMapping.Registry

variable {r : Registry} {t u x : TypeName} {n fuel : Nat} {seen frontier queue : List TypeName}

/-! ## Layers -/

/-- What is left of a list without its duplicates is what is left of it, without its duplicates. -/
theorem eraseDups_filter {α : Type} [DecidableEq α] (test : α → Bool) :
    ∀ l : List α, l.eraseDups.filter test = (l.filter test).eraseDups
  | [] => rfl
  | a :: l => by
    have later := eraseDups_filter test (l.filter fun b => !b == a)
    rw [List.eraseDups_cons]
    by_cases passes : test a = true
    · rw [List.filter_cons_of_pos passes, List.filter_cons_of_pos passes, List.eraseDups_cons, later,
        List.filter_comm]
    · rw [List.filter_cons_of_neg passes, List.filter_cons_of_neg passes, later, List.filter_filter]
      refine congrArg List.eraseDups (List.filter_congr fun b _ => ?_)
      by_cases same : b = a
      · subst same
        rw [Bool.not_eq_true] at passes
        rw [passes, Bool.false_and]
      · simp [same]
termination_by l => l.length
decreasing_by exact Nat.lt_succ_of_le (List.length_filter_le _ l)

theorem nodup_nextLayer (seen frontier : List TypeName) : (nextLayer seen frontier).Nodup :=
  (nodup_eraseDups frontier).filter _

theorem nextLayer_cons_of_mem (h : x ∈ seen) : nextLayer seen (x :: queue) = nextLayer seen queue := by
  unfold nextLayer
  rw [eraseDups_filter, eraseDups_filter, List.filter_cons_of_neg (by simpa using h)]

theorem nextLayer_cons_of_not_mem (h : x ∉ seen) :
    nextLayer seen (x :: queue) = x :: nextLayer (seen ++ [x]) queue := by
  unfold nextLayer
  rw [eraseDups_filter, eraseDups_filter, List.filter_cons_of_pos (by simpa using h), List.eraseDups_cons,
    List.filter_filter]
  refine congrArg (x :: List.eraseDups ·) (List.filter_congr fun y _ => ?_)
  rw [List.contains_append, Bool.not_or, Bool.and_comm, List.contains_cons, List.contains_nil, Bool.or_false]

/-- The layers hold no name twice, and none that was seen before. -/
theorem nodup_layers (r : Registry) :
    ∀ (fuel : Nat) (seen frontier : List TypeName),
      (r.layers fuel seen frontier).Nodup ∧ ∀ y ∈ r.layers fuel seen frontier, y ∉ seen
  | 0, _, _ => ⟨List.nodup_nil, fun _ h => absurd h List.not_mem_nil⟩
  | fuel + 1, seen, frontier => by
    obtain ⟨nodup, fresh⟩ := nodup_layers r fuel (seen ++ nextLayer seen frontier)
      ((nextLayer seen frontier).flatMap r.parents)
    rw [layers_succ]
    split
    · exact ⟨List.nodup_nil, fun _ h => absurd h List.not_mem_nil⟩
    · refine ⟨List.nodup_append.mpr ⟨nodup_nextLayer seen frontier, nodup, fun a ha b hb same => ?_⟩,
        fun y hy => ?_⟩
      · exact fresh b hb (List.mem_append_right _ (same ▸ ha))
      · rcases List.mem_append.mp hy with hy | hy
        · exact (mem_nextLayer.mp hy).2
        · exact fun hs => fresh y hy (List.mem_append_left _ hs)

/-! ## Distances -/

/-- So many steps from a type to a supertype lead from the first type to the second. -/
def Steps (r : Registry) (t : TypeName) : Nat → TypeName → Prop
  | 0, u => u = t
  | n + 1, u => ∃ x, r.Steps t n x ∧ r.Parent x u

/-- The least number of steps, one at least, that lead from the first type to the second. -/
def Distance (r : Registry) (t u : TypeName) (n : Nat) : Prop :=
  IsLeast {k | 0 < k ∧ r.Steps t k u} n

/-- What a search has seen after so many layers, and what waits. -/
structure Layered (r : Registry) (t : TypeName) (n : Nat) (seen frontier : List TypeName) : Prop where
  /-- At most so many steps lead to what was seen. -/
  seen_iff : ∀ x, x ∈ seen ↔ ∃ k, 0 < k ∧ k ≤ n ∧ r.Steps t k x
  /-- One more leads to what waits. -/
  steps : ∀ x ∈ frontier, r.Steps t (n + 1) x
  /-- What one more leads to waits, unless it was seen. -/
  waits : ∀ x, r.Steps t (n + 1) x → x ∈ frontier ∨ x ∈ seen

theorem layered_parents (r : Registry) (t : TypeName) : r.Layered t 0 [] (r.parents t) where
  seen_iff x := ⟨fun h => absurd h List.not_mem_nil,
    fun ⟨_, pos, le, _⟩ => absurd (Nat.lt_of_lt_of_le pos le) (Nat.lt_irrefl 0)⟩
  steps _ h := ⟨t, rfl, h⟩
  waits := by
    rintro x ⟨_, rfl, h⟩
    exact Or.inl h

/-- A layer more. -/
theorem Layered.next (h : r.Layered t n seen frontier) :
    r.Layered t (n + 1) (seen ++ nextLayer seen frontier) ((nextLayer seen frontier).flatMap r.parents) where
  seen_iff x := by
    rw [List.mem_append, mem_nextLayer]
    constructor
    · rintro (old | ⟨new, -⟩)
      · obtain ⟨k, pos, le, steps⟩ := (h.seen_iff x).mp old
        exact ⟨k, pos, Nat.le_succ_of_le le, steps⟩
      · exact ⟨n + 1, Nat.succ_pos n, Nat.le_refl _, h.steps x new⟩
    · rintro ⟨k, pos, le, steps⟩
      by_cases old : x ∈ seen
      · exact Or.inl old
      · rcases Nat.le_succ_iff.mp le with le | rfl
        · exact Or.inl ((h.seen_iff x).mpr ⟨k, pos, le, steps⟩)
        · exact Or.inr ⟨(h.waits x steps).resolve_right old, old⟩
  steps y hy := by
    obtain ⟨x, hx, parent⟩ := List.mem_flatMap.mp hy
    exact ⟨x, h.steps x (mem_nextLayer.mp hx).1, parent⟩
  waits := by
    rintro y ⟨x, steps, parent⟩
    by_cases old : x ∈ seen
    · -- A shorter way to `x` makes one to `y`, which has been seen by then.
      obtain ⟨k, -, le, steps⟩ := (h.seen_iff x).mp old
      rw [List.mem_append, mem_nextLayer]
      have shorter : r.Steps t (k + 1) y := ⟨x, steps, parent⟩
      by_cases seen' : y ∈ seen
      · exact Or.inr (Or.inl seen')
      · rcases Nat.lt_or_eq_of_le le with lt | rfl
        · exact Or.inr (Or.inl ((h.seen_iff y).mpr ⟨k + 1, Nat.succ_pos k, lt, shorter⟩))
        · exact Or.inr (Or.inr ⟨(h.waits y shorter).resolve_right seen', seen'⟩)
    · exact Or.inl (List.mem_flatMap.mpr
        ⟨x, mem_nextLayer.mpr ⟨(h.waits x steps).resolve_right old, old⟩, parent⟩)

/-- The names of a layer have one distance. -/
theorem Layered.distance (h : r.Layered t n seen frontier) (hx : x ∈ nextLayer seen frontier) :
    r.Distance t x (n + 1) := by
  obtain ⟨waits, new⟩ := mem_nextLayer.mp hx
  refine ⟨⟨Nat.succ_pos n, h.steps x waits⟩, fun k ⟨pos, steps⟩ => ?_⟩
  by_contra less
  exact new ((h.seen_iff x).mpr ⟨k, pos, Nat.le_of_lt_succ (Nat.not_le.mp less), steps⟩)

/-- The distances of what a search finds from a layer on do not decrease, and are those of later layers. -/
theorem Layered.exists_distances (h : r.Layered t n seen frontier) (fuel : Nat) :
    ∃ distances, List.Forall₂ (r.Distance t) (r.layers fuel seen frontier) distances ∧
      distances.Pairwise (· ≤ ·) ∧ ∀ d ∈ distances, n < d := by
  induction fuel generalizing n seen frontier with
  | zero => exact ⟨[], .nil, .nil, fun _ h => absurd h List.not_mem_nil⟩
  | succ fuel ih =>
    obtain ⟨distances, related, ordered, later⟩ := ih h.next
    rw [layers_succ]
    split
    · exact ⟨[], .nil, .nil, fun _ h => absurd h List.not_mem_nil⟩
    · refine ⟨(nextLayer seen frontier).map (fun _ => n + 1) ++ distances, ?_, ?_, ?_⟩
      · refine List.rel_append (List.forall₂_map_right_iff.mpr ?_) related
        exact List.forall₂_same.mpr fun x hx => h.distance hx
      · refine List.pairwise_append.mpr ⟨?_, ordered, fun a ha b hb => ?_⟩
        · exact List.pairwise_map.mpr (List.pairwise_of_forall fun _ _ => Nat.le_refl _)
        · obtain ⟨-, -, rfl⟩ := List.mem_map.mp ha
          exact Nat.le_of_lt (later b hb)
      · intro d hd
        rcases List.mem_append.mp hd with hd | hd
        · obtain ⟨-, -, rfl⟩ := List.mem_map.mp hd
          exact Nat.lt_succ_self n
        · exact Nat.lt_of_succ_lt (later d hd)

/-- The distances of the ancestors do not decrease. -/
theorem exists_distances (r : Registry) (t : TypeName) :
    ∃ distances, List.Forall₂ (r.Distance t) (r.ancestors t) distances ∧ distances.Pairwise (· ≤ ·) := by
  obtain ⟨distances, related, ordered, -⟩ := (r.layered_parents t).exists_distances (r.size + 1)
  exact ⟨distances, related, ordered⟩

/-! ## A queue -/

/-- The names that leave a queue for the first time, in turn. One that was seen before is passed over; the
supertypes of any other wait behind all that wait already. -/
def visits (r : Registry) (seen : List TypeName) : List TypeName → List TypeName
  | [] => []
  | x :: queue =>
    if x ∈ seen then r.visits seen queue
    else x :: r.visits (seen ++ [x]) (queue ++ r.parents x)
termination_by queue => ((r.unseen seen).length, queue.length)
decreasing_by
  · exact Prod.Lex.right _ (Nat.lt_succ_self _)
  · rename_i new
    by_cases nowhere : r.parents x = []
    · rw [nowhere, List.append_nil]
      exact Prod.Lex.right' _ (r.unseen_sublist seen [x]).length_le (Nat.lt_succ_self _)
    · refine Prod.Lex.left _ _ (unseen_lt (fun y hy => List.mem_singleton.mp hy ▸ new) ?_)
      rwa [List.flatMap_singleton]

/-- A layer leaves the queue before what its names lead to, which waits behind all that waits already. -/
theorem visits_append (r : Registry) (seen frontier queue : List TypeName) :
    r.visits seen (frontier ++ queue) = nextLayer seen frontier ++
      r.visits (seen ++ nextLayer seen frontier)
        (queue ++ (nextLayer seen frontier).flatMap r.parents) := by
  induction frontier generalizing seen queue with
  | nil =>
    rw [show nextLayer seen [] = [] from rfl, List.flatMap_nil, List.append_nil, List.append_nil]
    rfl
  | cons x frontier ih =>
    rw [List.cons_append, visits]
    split
    · rename_i old
      rw [nextLayer_cons_of_mem old]
      exact ih seen queue
    · rename_i new
      rw [nextLayer_cons_of_not_mem new, List.append_assoc, ih, List.cons_append, List.flatMap_cons,
        List.append_assoc, List.append_assoc, List.singleton_append]

/-- The layers are what a queue gives, if there are more rounds than described types that were not seen. -/
theorem layers_eq_visits (enough : frontier ≠ [] → (r.unseen seen).length < fuel) :
    r.layers fuel seen frontier = r.visits seen frontier := by
  induction fuel generalizing seen frontier with
  | zero =>
    have empty : frontier = [] := by
      by_contra waits
      exact Nat.not_lt_zero _ (enough waits)
    rw [empty, visits]
    rfl
  | succ fuel ih =>
    have later : r.layers fuel (seen ++ nextLayer seen frontier) ((nextLayer seen frontier).flatMap r.parents) =
        r.visits (seen ++ nextLayer seen frontier) ((nextLayer seen frontier).flatMap r.parents) := by
      refine ih fun left => ?_
      have waits : frontier ≠ [] := by
        rintro rfl
        exact left rfl
      have fewer := unseen_lt (fun y hy => (mem_nextLayer.mp hy).2) left
      exact Nat.lt_of_lt_of_le fewer (Nat.le_of_lt_succ (enough waits))
    have unfolded := r.visits_append seen frontier []
    rw [List.append_nil, List.nil_append, ← later] at unfolded
    rw [unfolded, layers_succ]
    split
    · rename_i nothing
      rw [later, nothing, List.flatMap_nil, visits]
      rfl
    · rfl

/-- **The ancestors of a type are what a queue of its supertypes gives.** -/
theorem ancestors_eq_visits (r : Registry) (t : TypeName) : r.ancestors t = r.visits [] (r.parents t) :=
  layers_eq_visits fun _ => Nat.lt_succ_of_le (List.length_filter_le _ _)

/-! ## Ancestors -/

/-- **The nearest ancestors come first.** A queue of the supertypes of a type gives its ancestors: the names
that its supertypes lead to, each once, in an order in which distances do not decrease. So to be assignable is
reflexive and transitive, and what is assignable to an unchecked failure is unchecked, and to a covered one
covered. -/
theorem ancestors_nearest_first (r : Registry) (t : TypeName) :
    (r.ancestors t = r.visits [] (r.parents t) ∧ (r.ancestors t).Nodup ∧
      (∀ u, u ∈ r.ancestors t ↔ r.Ancestor t u) ∧
      ∃ distances, List.Forall₂ (r.Distance t) (r.ancestors t) distances ∧ distances.Pairwise (· ≤ ·)) ∧
    r.isAssignable t t = true ∧
    ∀ u, r.isAssignable u t = true →
      (∀ w, r.isAssignable t w = true → r.isAssignable u w = true) ∧
      (Contract.isUnchecked r t = true → Contract.isUnchecked r u = true) ∧
      ∀ declared, Contract.isCovered r t declared = true → Contract.isCovered r u declared = true := by
  refine ⟨⟨r.ancestors_eq_visits t, (r.nodup_layers _ _ _).1, fun u => mem_ancestors_iff,
    r.exists_distances t⟩, r.isAssignable_refl t, fun u used => ?_⟩
  have leads := isAssignable_iff.mp used
  refine ⟨fun w used' => isAssignable_trans used used', fun unchecked => ?_, fun declared covered => ?_⟩
  · exact Contract.isUnchecked_iff.mpr ((Contract.isUnchecked_iff.mp unchecked).of_leads leads)
  · exact Contract.isCovered_iff.mpr ((Contract.isCovered_iff.mp covered).of_leads leads)

/-! ### Timeouts -/

/-- Failures whose supertypes run in circles, repeat, name themselves, and lack descriptions. -/
def failures : Registry :=
  .ofList [
    { name := ⟨"Timeout"⟩, kind := .failure false,
      supertypes := [⟨"NetworkFailure"⟩, ⟨"Retryable"⟩, ⟨"NetworkFailure"⟩] },
    { name := ⟨"NetworkFailure"⟩, kind := .failure false, supertypes := [⟨"Failure"⟩, ⟨"Timeout"⟩] },
    { name := ⟨"Failure"⟩, kind := .failure true, supertypes := [⟨"Failure"⟩, ⟨"Throwable"⟩] }]

/-- A timeout is an ancestor of itself, of distance 2. -/
theorem ancestors_nearest_first_of_timeout :
    failures.ancestors ⟨"Timeout"⟩ =
      [⟨"NetworkFailure"⟩, ⟨"Retryable"⟩, ⟨"Failure"⟩, ⟨"Timeout"⟩, ⟨"Throwable"⟩] ∧
    (∃ distances, List.Forall₂ (failures.Distance ⟨"Timeout"⟩) (failures.ancestors ⟨"Timeout"⟩) distances ∧
      distances.Pairwise (· ≤ ·)) ∧
    failures.isAssignable ⟨"Timeout"⟩ ⟨"Failure"⟩ = true ∧
    Contract.isUnchecked failures ⟨"Failure"⟩ = true ∧ Contract.isUnchecked failures ⟨"Timeout"⟩ = true ∧
    Contract.isCovered failures ⟨"Failure"⟩ [⟨"Throwable"⟩] = true ∧
    Contract.isCovered failures ⟨"Timeout"⟩ [⟨"Throwable"⟩] = true := by
  have used : failures.isAssignable ⟨"Timeout"⟩ ⟨"Failure"⟩ = true := by decide +kernel
  have unchecked : Contract.isUnchecked failures ⟨"Failure"⟩ = true := by decide +kernel
  have covered : Contract.isCovered failures ⟨"Failure"⟩ [⟨"Throwable"⟩] = true := by decide +kernel
  obtain ⟨⟨-, -, -, distances⟩, -, -⟩ := ancestors_nearest_first failures ⟨"Timeout"⟩
  obtain ⟨-, -, inherits⟩ := ancestors_nearest_first failures ⟨"Failure"⟩
  obtain ⟨-, stays, covers⟩ := inherits ⟨"Timeout"⟩ used
  exact ⟨by decide +kernel, distances, used, unchecked, stays unchecked, covered, covers _ covered⟩

end BeanMapping.Registry
