import BeanMapping.Event
import BeanMapping.Fault

/-!
# Narrated computations

A computation over a state that may be rejected and that tells what it does on the way. The state
that it leaves and what it has told survive a rejection.

* `run_pure`, `run_bind_ok`, `run_bind_error`, `run_tell`, …: what each operation does, as equations.
* `Narrated` is a lawful monad.
-/

namespace BeanMapping

/-- What a computation comes to: its result, the state that it leaves, and what it told. -/
structure Narration (ε ω σ α : Type) where
  result : Except ε α
  state : σ
  told : List ω

/-- A computation over a state that may be rejected and tells what it does. -/
structure Narrated (ε ω σ α : Type) where
  run : σ → Narration ε ω σ α

/-- A computation about mapping methods: it is rejected with a report and tells events. -/
abbrev Generation := Narrated Report Event

namespace Narrated

variable {ε ω σ τ α β : Type}

/-- Goes on with the result of a computation, unless it was rejected. -/
def andThen (x : Narrated ε ω σ α) (f : α → Narrated ε ω σ β) : Narrated ε ω σ β :=
  ⟨fun s =>
    let first := x.run s
    match first.result with
    | .error e => ⟨.error e, first.state, first.told⟩
    | .ok a =>
      let second := (f a).run first.state
      ⟨second.result, second.state, first.told ++ second.told⟩⟩

instance : Monad (Narrated ε ω σ) where
  pure a := ⟨fun s => ⟨.ok a, s, []⟩⟩
  bind := andThen

/-- Tells. -/
def tell (told : List ω) : Narrated ε ω σ Unit :=
  ⟨fun s => ⟨.ok (), s, told⟩⟩

/-- Rejects. -/
def reject (e : ε) : Narrated ε ω σ α :=
  ⟨fun s => ⟨.error e, s, []⟩⟩

/-- A result that may be an error. -/
def ofResult : Except ε α → Narrated ε ω σ α
  | .ok a => pure a
  | .error e => reject e

/-- The state. -/
def get : Narrated ε ω σ σ :=
  ⟨fun s => ⟨.ok s, s, []⟩⟩

/-- Changes the state. -/
def modify (f : σ → σ) : Narrated ε ω σ Unit :=
  ⟨fun s => ⟨.ok (), f s, []⟩⟩

/-- The result of a computation, be it a rejection. -/
def attempt (x : Narrated ε ω σ α) : Narrated ε ω σ (Except ε α) :=
  ⟨fun s =>
    let n := x.run s
    ⟨.ok n.result, n.state, n.told⟩⟩

/-- A computation over a part of the state. -/
def focus (part : σ → τ) (put : τ → σ → σ) (x : Narrated ε ω τ α) : Narrated ε ω σ α :=
  ⟨fun s =>
    let n := x.run (part s)
    ⟨n.result, put n.state s, n.told⟩⟩

/-- A computation with a state of its own, which it ends by giving. -/
def apart (t : τ) (x : Narrated ε ω τ Unit) : Narrated ε ω σ τ :=
  ⟨fun s =>
    let n := x.run t
    ⟨n.result.map fun _ => n.state, s, n.told⟩⟩

/-! ## Reports -/

/-- A result that may be a fault. -/
def ofExcept (r : Except Fault α) : Generation σ α :=
  ofResult (r.mapError .of)

/-- The computation, of which a rejection is reported from one place further out. -/
def within (place : String) (x : Generation σ α) : Generation σ α :=
  ⟨fun s =>
    let n := x.run s
    ⟨n.result.mapError (·.attach place), n.state, n.told⟩⟩

/-! ## Equations -/

@[simp] theorem run_pure (a : α) (s : σ) :
    (pure a : Narrated ε ω σ α).run s = ⟨.ok a, s, []⟩ := rfl

@[simp] theorem run_tell (told : List ω) (s : σ) :
    (tell told : Narrated ε ω σ Unit).run s = ⟨.ok (), s, told⟩ := rfl

@[simp] theorem run_reject (e : ε) (s : σ) :
    (reject e : Narrated ε ω σ α).run s = ⟨.error e, s, []⟩ := rfl

@[simp] theorem run_get (s : σ) : (get : Narrated ε ω σ σ).run s = ⟨.ok s, s, []⟩ := rfl

@[simp] theorem run_modify (f : σ → σ) (s : σ) :
    (modify f : Narrated ε ω σ Unit).run s = ⟨.ok (), f s, []⟩ := rfl

theorem run_bind_ok {x : Narrated ε ω σ α} {f : α → Narrated ε ω σ β} {s : σ} {a : α}
    (h : (x.run s).result = .ok a) :
    (x >>= f).run s = ⟨((f a).run (x.run s).state).result, ((f a).run (x.run s).state).state,
      (x.run s).told ++ ((f a).run (x.run s).state).told⟩ := by
  change (andThen x f).run s = _
  simp only [andThen, h]

theorem run_bind_error {x : Narrated ε ω σ α} {f : α → Narrated ε ω σ β} {s : σ} {e : ε}
    (h : (x.run s).result = .error e) :
    (x >>= f).run s = ⟨.error e, (x.run s).state, (x.run s).told⟩ := by
  change (andThen x f).run s = _
  simp only [andThen, h]

@[ext] theorem ext {x y : Narrated ε ω σ α} (h : ∀ s, x.run s = y.run s) : x = y := by
  cases x
  cases y
  congr
  exact funext h

theorem bind_pure_self (x : Narrated ε ω σ α) : x >>= pure = x := by
  ext1 s
  cases h : (x.run s).result with
  | ok a => rw [run_bind_ok h]; simp [← h]
  | error e => rw [run_bind_error h, ← h]

theorem bind_bind {γ : Type} (x : Narrated ε ω σ α) (f : α → Narrated ε ω σ β)
    (g : β → Narrated ε ω σ γ) : x >>= f >>= g = x >>= fun a => f a >>= g := by
  ext1 s
  cases h : (x.run s).result with
  | error e =>
    have h' : ((x >>= f).run s).result = .error e := by rw [run_bind_error h]
    rw [run_bind_error h', run_bind_error h, run_bind_error h]
  | ok a =>
    cases h2 : ((f a).run (x.run s).state).result with
    | error e =>
      have h' : ((x >>= f).run s).result = .error e := by rw [run_bind_ok h]; exact h2
      rw [run_bind_error h', run_bind_ok h, run_bind_ok h, run_bind_error h2]
    | ok b =>
      have h' : ((x >>= f).run s).result = .ok b := by rw [run_bind_ok h]; exact h2
      rw [run_bind_ok h', run_bind_ok h, run_bind_ok h, run_bind_ok h2]
      simp [List.append_assoc]

theorem pure_bind (a : α) (f : α → Narrated ε ω σ β) : pure a >>= f = f a := by
  ext1 s
  rw [run_bind_ok (a := a) rfl]
  simp

instance : LawfulMonad (Narrated ε ω σ) :=
  LawfulMonad.mk' (Narrated ε ω σ) (fun x => bind_pure_self x) pure_bind bind_bind

end Narrated

end BeanMapping
