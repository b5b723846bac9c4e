import BeanMapping.TraceLog
import Mathlib.Data.List.Basic

/-!
# Logs that are deleted

What a log file holds after any steps of its handles and writers, with deletions in between. The account of
the steps (`LogAccount`) says what was written since the last deletion and what before, and through which
handle, and nothing of files.

A handle opens the file at the path when it has none, or when there is none. So a handle that has written
before a deletion is stale after it once another handle has made the file anew: it keeps the deleted file, and
what it writes until the next deletion is lost (`LogAccount.lost`).

Results:
* `lost_eq_nil_of_one_handle`, `lost_eq_nil_of_former_eq_nil`: nothing is lost where one handle wrote all, nor
  before the first deletion;
* **`records_perform`**, **`records_performAll`**: what the account says of the disk and of the handles, kept
  by one step and by all;
* **`log_keeps_all_iff`**: when there is a file, what it holds, and when that is all that was written.
-/

namespace BeanMapping

/-- What happens to a log. -/
inductive LogStep where
  | newHandle
  /-- One more writer of a handle. -/
  | newWriter (handle : Nat)
  | write (writer : Nat) (text : String)
  | remove
  | makeFolder
deriving DecidableEq, Repr

/-- A text that was written through a handle. -/
structure LogEntry where
  handle : Nat
  text : String
deriving DecidableEq, Repr

/-! ## Accounts -/

/-- What was written to a log. -/
structure LogAccount where
  /-- The handle of each writer. -/
  writers : List Nat
  /-- What was written before the last deletion. -/
  former : List LogEntry
  /-- What was written since. -/
  recent : List LogEntry
deriving DecidableEq, Repr

namespace LogAccount

variable {a : LogAccount} {e : LogEntry} {h : Nat}

/-- The account of a log that nothing was done to. -/
def empty : LogAccount := ⟨[], [], []⟩

/-- The account after one more step. -/
def note (a : LogAccount) : LogStep → LogAccount
  | .newWriter handle => { a with writers := a.writers ++ [handle] }
  | .write writer text =>
    { a with recent := a.recent ++ (a.writers[writer]?.map (LogEntry.mk · text)).toList }
  | .remove => { a with former := a.former ++ a.recent, recent := [] }
  | .newHandle | .makeFolder => a

/-- The account of steps. -/
def ofSteps (steps : List LogStep) : LogAccount := steps.foldl note empty

/-- The texts of entries, one after the other. -/
def joined (entries : List LogEntry) : String := String.join (entries.map LogEntry.text)

/-- Whether what a handle writes reaches the file at the path: the handle has written nothing before the last
deletion, or was the first to write after it. -/
def reaches (a : LogAccount) (handle : Nat) : Bool :=
  a.former.all (·.handle != handle) || a.recent.head?.any (·.handle == handle)

/-- The recent entries that reached the file at the path. -/
def kept (a : LogAccount) : List LogEntry := a.recent.filter fun e => a.reaches e.handle

/-- The recent entries that went to a file that is deleted. -/
def lost (a : LogAccount) : List LogEntry := a.recent.filter fun e => !a.reaches e.handle

/-- The handle was written through. -/
def Uses (a : LogAccount) (handle : Nat) : Prop := ∃ e ∈ a.former ++ a.recent, e.handle = handle

theorem joined_concat (entries : List LogEntry) (e : LogEntry) :
    joined (entries ++ [e]) = joined entries ++ e.text := by
  unfold joined
  rw [List.map_append, String.join_append]
  simp

/-- The first recent entry settles which handles are stale, so later ones change nothing. -/
theorem reaches_concat (nonempty : a.recent ≠ []) (handle : Nat) :
    { a with recent := a.recent ++ [e] }.reaches handle = a.reaches handle := by
  obtain ⟨first, rest, recent_eq⟩ := List.exists_cons_of_ne_nil nonempty
  unfold reaches
  rw [recent_eq]
  rfl

theorem kept_concat (nonempty : a.recent ≠ []) : { a with recent := a.recent ++ [e] }.kept =
    a.kept ++ if a.reaches e.handle then [e] else [] := by
  unfold kept
  rw [List.filter_append, List.filter_singleton, reaches_concat nonempty]
  simp only [reaches_concat nonempty]
  cases a.reaches e.handle <;> rfl

/-- The first entry after a deletion is kept. -/
theorem kept_first (nothing : a.recent = []) : { a with recent := a.recent ++ [e] }.kept = [e] := by
  unfold kept reaches
  rw [nothing]
  simp

/-- A handle reaches the file where nothing was written through it, or where an entry of it was kept. -/
theorem reaches_iff : a.reaches h = true ↔ ¬ a.Uses h ∨ ∃ e ∈ a.kept, e.handle = h := by
  have kept_of_recent : a.reaches h = true → ∀ e ∈ a.recent, e.handle = h → ∃ e ∈ a.kept, e.handle = h :=
    fun reaches e mem same => ⟨e, List.mem_filter.mpr ⟨mem, same ▸ reaches⟩, same⟩
  constructor
  · intro reaches
    refine or_iff_not_imp_left.mpr fun used => ?_
    obtain ⟨e, mem, same⟩ := not_not.mp used
    rcases List.mem_append.mp mem with former | recent
    · -- It was written through before the deletion, so it was the first to write after it.
      have isFirst : a.recent.head?.any (·.handle == h) = true := by
        refine (Bool.or_eq_true_iff.mp reaches).resolve_left fun unused => ?_
        simpa [same] using List.all_eq_true.mp unused e former
      obtain ⟨first, head, same⟩ := (Option.any_eq_true _ _).mp isFirst
      exact kept_of_recent reaches first (List.mem_of_head? head) (eq_of_beq same)
    · exact kept_of_recent reaches e recent same
  · rintro (unused | ⟨e, mem, rfl⟩)
    · refine Bool.or_eq_true_iff.mpr (Or.inl (List.all_eq_true.mpr fun e mem => ?_))
      simpa using fun same => unused ⟨e, List.mem_append_left _ mem, same⟩
    · exact (List.mem_filter.mp mem).2

theorem exists_mem_concat {entries : List LogEntry} :
    (∃ e' ∈ entries ++ [e], e'.handle = h) ↔ (∃ e' ∈ entries, e'.handle = h) ∨ e.handle = h := by
  simp only [List.mem_append, List.mem_singleton, or_and_right, exists_or, exists_eq_left]

theorem uses_concat : { a with recent := a.recent ++ [e] }.Uses h ↔ a.Uses h ∨ e.handle = h := by
  unfold Uses
  rw [← List.append_assoc]
  exact exists_mem_concat

theorem joined_cons (entries : List LogEntry) : joined (e :: entries) = e.text ++ joined entries :=
  String.join_cons

theorem length_joined_filter_le (p : LogEntry → Bool) (entries : List LogEntry) :
    (joined (entries.filter p)).length ≤ (joined entries).length := by
  induction entries with
  | nil => exact Nat.le_refl _
  | cons e rest ih =>
    rw [List.filter_cons, joined_cons, String.length_append]
    split
    · rw [joined_cons, String.length_append]
      exact Nat.add_le_add_left ih _
    · exact Nat.le_add_left_of_le ih

/-- Leaving out entries leaves the text as it is exactly where their texts are empty. -/
theorem joined_filter_eq_iff (p : LogEntry → Bool) (entries : List LogEntry) :
    joined (entries.filter p) = joined entries ↔ ∀ e ∈ entries.filter (!p ·), e.text = "" := by
  induction entries with
  | nil => simp
  | cons e rest ih =>
    rw [joined_cons]
    cases left : p e with
    | true =>
      rw [List.filter_cons_of_pos left, List.filter_cons_of_neg (by simp [left]), joined_cons,
        String.append_right_inj]
      exact ih
    | false =>
      rw [List.filter_cons_of_neg (by simp [left]), List.filter_cons_of_pos (by simp [left]),
        List.forall_mem_cons, ← ih]
      constructor
      · intro same
        -- What remains is no longer than the text of the rest, so `e` adds nothing.
        have total := congrArg String.length same
        rw [String.length_append] at total
        have e_empty : e.text = "" := by
          have := length_joined_filter_le p rest
          exact String.length_eq_zero_iff.mp (by omega)
        rw [e_empty, String.empty_append] at same
        exact ⟨e_empty, same⟩
      · rintro ⟨e_empty, same⟩
        rw [same, e_empty, String.empty_append]

theorem joined_eq_empty_iff (entries : List LogEntry) :
    joined entries = "" ↔ ∀ e ∈ entries, e.text = "" := by
  induction entries with
  | nil => simp [joined]
  | cons e rest ih => rw [joined_cons, String.append_eq_empty_iff, List.forall_mem_cons, ih]

/-- Where all was written through one handle, nothing is lost. -/
theorem lost_eq_nil_of_one_handle (one : ∀ e ∈ a.former ++ a.recent, e.handle = h) : a.lost = [] := by
  refine List.filter_eq_nil_iff.mpr fun e mem => ?_
  obtain ⟨first, rest, recent_eq⟩ := List.exists_cons_of_ne_nil (List.ne_nil_of_mem mem)
  have first_eq : first.handle = h := one first (by simp [recent_eq])
  have e_eq : e.handle = h := one e (List.mem_append_right _ mem)
  simp [reaches, recent_eq, first_eq, e_eq]

/-- Before the first deletion, nothing is lost. -/
theorem lost_eq_nil_of_former_eq_nil (never : a.former = []) : a.lost = [] := by
  refine List.filter_eq_nil_iff.mpr fun e _ => ?_
  simp [reaches, never]

end LogAccount

namespace TraceLog

/-- The log after a step that can be made: a writer needs its handle, and a write needs a file. -/
def perform (l : TraceLog) : LogStep → Option TraceLog
  | .newHandle => some l.addHandle
  | .newWriter handle => if handle < l.handles.length then some (l.addWriter handle) else none
  | .write writer text => l.write writer text
  | .remove => some { l with disk := l.disk.remove }
  | .makeFolder => some { l with disk := l.disk.makeFolder }

/-- The log after steps that can all be made. -/
def performAll : TraceLog → List LogStep → Option TraceLog
  | l, [] => some l
  | l, step :: rest => (l.perform step).bind (performAll · rest)

/-! ## What the account says -/

/-- The file that a handle keeps. -/
def fileAt (l : TraceLog) (handle : Nat) : Option Nat := l.handles[handle]?.join

/-- **What an account says of a log**: a handle keeps a file once it was written through; there is a file at the
path once something was written since the last deletion; it has the texts of the kept entries, and is the file
of their handles. -/
structure Records (a : LogAccount) (l : TraceLog) : Prop where
  writers_eq : l.writers = a.writers
  handle_lt : ∀ h ∈ l.writers, h < l.handles.length
  file_lt : ∀ h f, l.fileAt h = some f → f < l.disk.files.length
  uses_iff : ∀ h, (l.fileAt h).isSome ↔ a.Uses h
  unlinked_iff : l.disk.linked = none ↔ a.recent = []
  text_eq : ∀ f, l.disk.linked = some f → l.disk.files[f]? = some (LogAccount.joined a.kept)
  holds_iff : ∀ f, l.disk.linked = some f → ∀ h, l.fileAt h = some f ↔ ∃ e ∈ a.kept, e.handle = h

variable {a : LogAccount} {l l' : TraceLog} {h f g : Nat} {text : String}

theorem records_empty (hasFolder : Bool) : Records .empty (fresh hasFolder) := by
  have nothing : ∀ h, (fresh hasFolder).fileAt h = none := by
    intro h
    unfold fileAt fresh
    rcases h with _ | h <;> rfl
  refine ⟨rfl, by simp [fresh], ?_, ?_, iff_of_true rfl rfl, ?_, ?_⟩
  · intro h f held
    rw [nothing] at held
    cases held
  · intro h
    rw [nothing]
    simp [LogAccount.Uses, LogAccount.empty]
  · intro f linked
    cases linked
  · intro f linked
    cases linked

theorem fileAt_set (known : h < l.handles.length) (disk : LogDisk) (k : Nat) :
    { l with disk := disk, handles := l.handles.set h (some f) }.fileAt k =
      if k = h then some f else l.fileAt k := by
  unfold fileAt
  rw [List.getElem?_set]
  by_cases same : k = h
  · rw [if_pos same.symm, if_pos known, if_pos same]
    rfl
  · rw [if_neg (Ne.symm same), if_neg same]

/-! ## Steps -/

/-- The file that a handle writes to, and the disk on which it is then. -/
inductive Opens (l : TraceLog) (h : Nat) : Nat → LogDisk → Prop
  /-- The handle keeps its file, where some file is at the path. -/
  | keeps {f g : Nat} (held : l.fileAt h = some g) (linked : l.disk.linked = some f) : Opens l h g l.disk
  /-- A handle without a file opens the one at the path. -/
  | joins {f : Nat} (held : l.fileAt h = none) (linked : l.disk.linked = some f) : Opens l h f l.disk
  /-- Where there is none, a file is made. -/
  | makes (unlinked : l.disk.linked = none) : Opens l h l.disk.files.length
      { l.disk with files := l.disk.files ++ [""], linked := some l.disk.files.length }

theorem opens_of_fileOf {disk : LogDisk} (found : l.fileOf h = some (f, disk)) : l.Opens h f disk := by
  unfold fileOf at found
  split at found
  · rename_i g k held linked
    cases found
    exact .keeps held linked
  · rename_i other
    unfold LogDisk.openFile at found
    split at found
    · rename_i k linked
      cases found
      refine .joins ?_ linked
      cases held : l.fileAt h with
      | none => rfl
      | some g => exact absurd linked (other g f held)
    · rename_i unlinked
      split at found
      · cases found
        exact .makes unlinked
      · cases found

/-- The log after a text was written through a handle. -/
def written (l : TraceLog) (h f : Nat) (disk : LogDisk) (text : String) : TraceLog :=
  { l with disk := disk.append f text, handles := l.handles.set h (some f) }

theorem write_eq_some {writer : Nat} (wrote : l.write writer text = some l') :
    ∃ h f disk, l.writers[writer]? = some h ∧ l.Opens h f disk ∧ l' = l.written h f disk text := by
  unfold write at wrote
  simp only [Option.bind_eq_bind, Option.bind_eq_some_iff, Option.pure_def, Option.some.injEq, Prod.exists] at wrote
  obtain ⟨h, writer_eq, f, disk, found, rfl⟩ := wrote
  exact ⟨h, f, disk, writer_eq, opens_of_fileOf found, rfl⟩

theorem fileAt_written (known : h < l.handles.length) (disk : LogDisk) (k : Nat) :
    (l.written h f disk text).fileAt k = if k = h then some f else l.fileAt k :=
  fileAt_set known _ k

theorem Records.uses_written (r : Records a l) (known : h < l.handles.length) (disk : LogDisk) (k : Nat) :
    ((l.written h f disk text).fileAt k).isSome ↔
      { a with recent := a.recent ++ [LogEntry.mk h text] }.Uses k := by
  rw [fileAt_written known, LogAccount.uses_concat, ← r.uses_iff k]
  by_cases same : k = h
  · rw [if_pos same]
    exact iff_of_true rfl (Or.inr same.symm)
  · rw [if_neg same]
    exact (or_iff_left (Ne.symm same)).symm

/-- What a handle writes reaches the file at the path exactly where that is the file to which it writes. -/
theorem Records.reaches_iff_eq (r : Records a l) (linked : l.disk.linked = some f)
    (target : l.fileAt h = some g ∨ l.fileAt h = none ∧ g = f) : a.reaches h = true ↔ g = f := by
  rw [LogAccount.reaches_iff, ← r.uses_iff h, ← r.holds_iff f linked h]
  rcases target with held | ⟨held, rfl⟩
  · simp [held]
  · simp [held]

/-- A text is written while a file is at the path: to that file, or to one that is deleted. -/
theorem Records.written_linked (r : Records a l) (known : h < l.handles.length)
    (linked : l.disk.linked = some f) (target : l.fileAt h = some g ∨ l.fileAt h = none ∧ g = f) :
    Records { a with recent := a.recent ++ [LogEntry.mk h text] } (l.written h g l.disk text) := by
  have nonempty : a.recent ≠ [] := fun nothing => by simp [r.unlinked_iff.mpr nothing] at linked
  have reaches := r.reaches_iff_eq linked target
  have kept := LogAccount.kept_concat (e := ⟨h, text⟩) nonempty
  have g_lt : g < l.disk.files.length := by
    rcases target with held | ⟨-, rfl⟩
    · exact r.file_lt h g held
    · exact (List.getElem?_eq_some_iff.mp (r.text_eq g linked)).1
  refine ⟨r.writers_eq, ?_, ?_, r.uses_written known _, ?_, ?_, ?_⟩
  · intro k mem
    exact Nat.lt_of_lt_of_eq (r.handle_lt k mem) List.length_set.symm
  · intro k f' held
    rw [fileAt_written known] at held
    refine Nat.lt_of_lt_of_eq ?_ (List.length_modify _ _ _).symm
    split at held
    · cases held
      exact g_lt
    · exact r.file_lt k f' held
  · exact iff_of_false (by simp [written, LogDisk.append, linked]) (by simp)
  · intro f' linked'
    obtain rfl : f = f' := Option.some.inj (linked.symm.trans linked')
    have text_eq : (l.written h g l.disk text).disk.files[f]? =
        some (if g = f then LogAccount.joined a.kept ++ text else LogAccount.joined a.kept) := by
      unfold written LogDisk.append
      rw [List.getElem?_modify, r.text_eq f linked]
      rfl
    rw [text_eq, kept]
    by_cases same : g = f
    · rw [if_pos same, if_pos (reaches.mpr same), LogAccount.joined_concat]
    · rw [if_neg same, if_neg (mt reaches.mp same), List.append_nil]
  · intro f' linked' k
    obtain rfl : f = f' := Option.some.inj (linked.symm.trans linked')
    rw [fileAt_written known, kept]
    have old := r.holds_iff f linked k
    by_cases same : g = f
    · rw [if_pos (reaches.mpr same), LogAccount.exists_mem_concat, ← old]
      by_cases own : k = h
      · rw [if_pos own, same]
        exact iff_of_true rfl (Or.inr own.symm)
      · rw [if_neg own]
        exact (or_iff_left (Ne.symm own)).symm
    · rw [if_neg (mt reaches.mp same), List.append_nil, ← old]
      by_cases own : k = h
      · -- The handle keeps a file that is deleted, before and after.
        have stale : l.fileAt h = some g := target.resolve_right fun joins => same joins.2
        rw [if_pos own, own, stale]
      · rw [if_neg own]

/-- A text is written where no file is at the path: to a new one, which is no file that a handle keeps. -/
theorem Records.written_unlinked (r : Records a l) (known : h < l.handles.length)
    (unlinked : l.disk.linked = none) :
    Records { a with recent := a.recent ++ [LogEntry.mk h text] } (l.written h l.disk.files.length
      { l.disk with files := l.disk.files ++ [""], linked := some l.disk.files.length } text) := by
  have nothing : a.recent = [] := r.unlinked_iff.mp unlinked
  have kept := LogAccount.kept_first (e := ⟨h, text⟩) nothing
  refine ⟨r.writers_eq, ?_, ?_, r.uses_written known _, ?_, ?_, ?_⟩
  · intro k mem
    exact Nat.lt_of_lt_of_eq (r.handle_lt k mem) List.length_set.symm
  · intro k f held
    rw [fileAt_written known] at held
    refine Nat.lt_of_lt_of_eq ?_ (List.length_modify _ _ _).symm
    rw [List.length_append]
    split at held
    · cases held
      exact Nat.lt_succ_self _
    · exact Nat.lt_succ_of_lt (r.file_lt k f held)
  · exact iff_of_false (by simp [written, LogDisk.append]) (by simp)
  · rintro f ⟨⟩
    unfold written LogDisk.append
    rw [List.getElem?_modify_eq, List.getElem?_concat_length, kept]
    simp [LogAccount.joined]
  · rintro f ⟨⟩ k
    rw [fileAt_written known, kept]
    simp only [List.mem_singleton, exists_eq_left]
    by_cases own : k = h
    · rw [if_pos own]
      exact iff_of_true rfl own.symm
    · rw [if_neg own]
      exact iff_of_false (fun held => Nat.lt_irrefl _ (r.file_lt k _ held)) (Ne.symm own)

/-- A step keeps what the account says. -/
theorem records_perform {step : LogStep} (r : Records a l) (made : l.perform step = some l') :
    Records (a.note step) l' := by
  cases step with
  | newHandle =>
    obtain rfl : l.addHandle = l' := Option.some.inj made
    have same : ∀ h, l.addHandle.fileAt h = l.fileAt h := by
      intro h
      unfold fileAt addHandle
      rw [List.getElem?_append]
      split
      · rfl
      · rename_i past
        rw [List.getElem?_eq_none (Nat.le_of_not_lt past)]
        rcases h - l.handles.length with _ | d <;> rfl
    exact {
      writers_eq := r.writers_eq
      handle_lt := fun h mem => by
        refine Nat.lt_of_lt_of_le (r.handle_lt h mem) ?_
        exact (List.sublist_append_left l.handles [none]).length_le
      file_lt := fun h f held => r.file_lt h f (same h ▸ held)
      uses_iff := fun h => (same h).symm ▸ r.uses_iff h
      unlinked_iff := r.unlinked_iff
      text_eq := r.text_eq
      holds_iff := fun f linked h => (same h).symm ▸ r.holds_iff f linked h }
  | newWriter handle =>
    rw [perform] at made
    split at made
    · rename_i known
      obtain rfl : l.addWriter handle = l' := Option.some.inj made
      exact { r with
        writers_eq := congrArg (· ++ [handle]) r.writers_eq
        handle_lt := fun h mem => by
          rcases List.mem_append.mp mem with old | new
          · exact r.handle_lt h old
          · exact List.mem_singleton.mp new ▸ known }
    · cases made
  | write writer text =>
    obtain ⟨h, f, disk, writer_eq, opens, rfl⟩ := write_eq_some made
    have known : h < l.handles.length := r.handle_lt h (List.mem_of_getElem? writer_eq)
    have note_eq : a.note (.write writer text) = { a with recent := a.recent ++ [LogEntry.mk h text] } := by
      rw [LogAccount.note, ← r.writers_eq, writer_eq]
      rfl
    rw [note_eq]
    cases opens with
    | keeps held linked => exact r.written_linked known linked (Or.inl held)
    | joins held linked => exact r.written_linked known linked (Or.inr ⟨held, rfl⟩)
    | makes unlinked => exact r.written_unlinked known unlinked
  | remove =>
    obtain rfl : { l with disk := l.disk.remove } = l' := Option.some.inj made
    exact {
      writers_eq := r.writers_eq
      handle_lt := r.handle_lt
      file_lt := r.file_lt
      uses_iff := fun h => by
        refine (r.uses_iff h).trans ?_
        unfold LogAccount.Uses LogAccount.note
        rw [List.append_nil]
      unlinked_iff := iff_of_true rfl rfl
      text_eq := nofun
      holds_iff := nofun }
  | makeFolder =>
    obtain rfl : { l with disk := l.disk.makeFolder } = l' := Option.some.inj made
    exact { r with }

/-- All steps keep what the account says. -/
theorem records_performAll {steps : List LogStep} (r : Records a l) (made : l.performAll steps = some l') :
    Records (steps.foldl LogAccount.note a) l' := by
  induction steps generalizing a l with
  | nil =>
    obtain rfl : l = l' := Option.some.inj made
    exact r
  | cons step rest ih =>
    obtain ⟨next, first, others⟩ := Option.bind_eq_some_iff.mp made
    exact ih (records_perform r first) others

/-! ## Result -/

/-- The file is there if and only if something was written since the last deletion, and has all of it. -/
def KeepsAll (l : TraceLog) (a : LogAccount) : Prop :=
  (l.disk.linked.isSome ↔ LogAccount.joined a.recent ≠ "") ∧
    (l.disk.linked.isSome → l.disk.text? = some (LogAccount.joined a.recent))

/-- **Whether a log keeps what is written to it, with deletions in between.** After any steps that can be made:

* there is a file at the path exactly where some write was made since the last deletion, of an empty text too;
* it holds, in order, the texts written since through each handle that was not written through before the last
  deletion, and through the handle that was the first to write since;
* so all is kept exactly where not only empty texts were written since, and what was written through the other
  handles is empty. -/
theorem log_keeps_all_iff {hasFolder : Bool} {steps : List LogStep}
    (made : (fresh hasFolder).performAll steps = some l) :
    (l.disk.linked.isSome ↔ (LogAccount.ofSteps steps).recent ≠ []) ∧
    (l.disk.linked.isSome → l.disk.text? = some (LogAccount.joined (LogAccount.ofSteps steps).kept)) ∧
    (l.KeepsAll (.ofSteps steps) ↔
      ((LogAccount.ofSteps steps).recent ≠ [] → ∃ e ∈ (LogAccount.ofSteps steps).recent, e.text ≠ "") ∧
      ∀ e ∈ (LogAccount.ofSteps steps).lost, e.text = "") := by
  have r : Records (.ofSteps steps) l := records_performAll (records_empty hasFolder) made
  set a := LogAccount.ofSteps steps
  have there : l.disk.linked.isSome ↔ a.recent ≠ [] := by
    rw [← not_iff_not, not_not, ← r.unlinked_iff, Option.not_isSome_iff_eq_none]
  have text_eq : l.disk.linked.isSome → l.disk.text? = some (LogAccount.joined a.kept) := by
    intro isThere
    obtain ⟨f, linked⟩ := Option.isSome_iff_exists.mp isThere
    unfold LogDisk.text?
    rw [linked]
    exact r.text_eq f linked
  refine ⟨there, text_eq, and_congr ?_ ?_⟩
  · rw [there, ne_eq (LogAccount.joined _), LogAccount.joined_eq_empty_iff]
    constructor
    · intro both nonempty
      simpa using both.mp nonempty
    · intro some_text
      refine ⟨fun nonempty => by simpa using some_text nonempty, fun some_text nothing => ?_⟩
      simp [nothing] at some_text
  · rw [LogAccount.lost, ← LogAccount.joined_filter_eq_iff]
    constructor
    · intro all
      cases linked : l.disk.linked with
      | none => simp [r.unlinked_iff.mp linked]
      | some f =>
        have isThere : l.disk.linked.isSome := by simp [linked]
        exact Option.some.inj ((text_eq isThere).symm.trans (all isThere))
    · intro same isThere
      exact (text_eq isThere).trans (congrArg some same)

/-- Two handles write in turn; the first one has written before the file was deleted. -/
def staleHandle : List LogStep :=
  [.newHandle, .newWriter 0, .newWriter 1, .write 0 "first\n", .remove, .write 1 "second\n", .write 0 "third\n"]

/-- The first handle keeps the file that is deleted. -/
theorem log_of_stale_handle_loses_text :
    ∃ l, (fresh true).performAll staleHandle = some l ∧ l.disk.linked.isSome ∧
      ¬ l.KeepsAll (.ofSteps staleHandle) := by
  obtain ⟨l, made⟩ := Option.isSome_iff_exists.mp (show ((fresh true).performAll staleHandle).isSome by decide)
  have ⟨there, _, keeps⟩ := log_keeps_all_iff made
  refine ⟨l, made, there.mpr (by decide), fun all => ?_⟩
  exact absurd ((keeps.mp all).2 ⟨0, "third\n"⟩ (by decide)) (by decide)

/-- Of two texts written since the deletion the file holds the first only; and an empty text makes a file. -/
theorem log_does_not_keep_all :
    (∃ l, (fresh true).performAll staleHandle = some l ∧ l.disk.text? = some "second\n" ∧
      LogAccount.joined (LogAccount.ofSteps staleHandle).recent = "second\nthird\n" ∧
      ¬ l.KeepsAll (.ofSteps staleHandle)) ∧
    ∃ l, (fresh true).performAll [.newWriter 0, .write 0 ""] = some l ∧ l.disk.text? = some "" ∧
      LogAccount.joined (LogAccount.ofSteps [.newWriter 0, .write 0 ""]).recent = "" ∧
      ¬ l.KeepsAll (.ofSteps [.newWriter 0, .write 0 ""]) := by
  refine ⟨⟨_, rfl, by decide, by decide, fun keeps => ?_⟩, ⟨_, rfl, by decide, by decide, fun keeps => ?_⟩⟩
  · exact absurd (keeps.2 rfl) (by decide)
  · exact keeps.1.mp rfl (by decide)

end TraceLog

end BeanMapping
