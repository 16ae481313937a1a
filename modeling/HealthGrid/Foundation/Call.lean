import Mathlib.Data.List.Forall2
import Mathlib.Logic.Basic

/-!
# Calls that return or raise

A call runs on a state and either returns a value or raises.  What it did to
the state before it raised stays done, which is what separates a sequence of
autocommitted statements from one transaction.
-/

namespace HealthGrid.Foundation

def Call (ε σ α : Type) : Type := σ → Except ε α × σ

namespace Call

variable {ε σ α β : Type}

protected def pure (value : α) : Call ε σ α := fun s => (.ok value, s)

protected def bind (call : Call ε σ α) (next : α → Call ε σ β) : Call ε σ β :=
  fun s =>
    match call s with
    | (.ok value, s') => next value s'
    | (.error e, s') => (.error e, s')

instance : Monad (Call ε σ) where
  pure := Call.pure
  bind := Call.bind

def raise (e : ε) : Call ε σ α := fun s => (.error e, s)

def ofExcept (result : Except ε α) : Call ε σ α := fun s => (result, s)

def get : Call ε σ σ := fun s => (.ok s, s)

def modify (f : σ → σ) : Call ε σ Unit := fun s => (.ok (), f s)

/-- `try: body` with one handler for every exception. -/
def tryExcept (body : Call ε σ α) (handler : ε → Call ε σ α) : Call ε σ α :=
  fun s =>
    match body s with
    | (.ok value, s') => (.ok value, s')
    | (.error e, s') => handler e s'

def tryFinally (body : Call ε σ α) (cleanup : σ → σ) : Call ε σ α :=
  fun s => ((body s).1, cleanup (body s).2)

def zoom {τ : Type} (part : τ → σ) (put : σ → τ → τ) (call : Call ε σ α) :
    Call ε τ α :=
  fun t => ((call (part t)).1, put (call (part t)).2 t)

@[simp] theorem pure_run (value : α) (s : σ) :
    (pure value : Call ε σ α) s = (.ok value, s) := rfl

@[simp] theorem raise_run (e : ε) (s : σ) :
    (raise e : Call ε σ α) s = (.error e, s) := rfl

@[simp] theorem ofExcept_run (result : Except ε α) (s : σ) :
    ofExcept result s = (result, s) := rfl

@[simp] theorem get_run (s : σ) : (get : Call ε σ σ) s = (.ok s, s) := rfl

@[simp] theorem modify_run (f : σ → σ) (s : σ) :
    (modify f : Call ε σ Unit) s = (.ok (), f s) := rfl

@[simp] theorem tryFinally_run (body : Call ε σ α) (cleanup : σ → σ) (s : σ) :
    tryFinally body cleanup s = ((body s).1, cleanup (body s).2) := rfl

@[simp] theorem zoom_run {τ : Type} (part : τ → σ) (put : σ → τ → τ)
    (call : Call ε σ α) (t : τ) :
    zoom part put call t =
      ((call (part t)).1, put (call (part t)).2 t) := rfl

theorem bind_run (call : Call ε σ α) (next : α → Call ε σ β) (s : σ) :
    (call >>= next) s =
      match call s with
      | (.ok value, s') => next value s'
      | (.error e, s') => (.error e, s') := rfl

theorem bind_ok {call : Call ε σ α} {next : α → Call ε σ β} {s s' : σ}
    {value : α} (h : call s = (.ok value, s')) :
    (call >>= next) s = next value s' := by
  rw [bind_run, h]

theorem bind_error {call : Call ε σ α} {next : α → Call ε σ β} {s s' : σ}
    {e : ε} (h : call s = (.error e, s')) :
    (call >>= next) s = (.error e, s') := by
  rw [bind_run, h]

theorem tryExcept_ok {body : Call ε σ α} {handler : ε → Call ε σ α}
    {s s' : σ} {value : α} (h : body s = (.ok value, s')) :
    tryExcept body handler s = (.ok value, s') := by
  rw [tryExcept, h]

theorem tryExcept_error {body : Call ε σ α} {handler : ε → Call ε σ α}
    {s s' : σ} {e : ε} (h : body s = (.error e, s')) :
    tryExcept body handler s = handler e s' := by
  rw [tryExcept, h]

end Call

theorem of_bind_eq_ok {ε α β : Type} {first : Except ε α}
    {next : α → Except ε β} {value : β} (h : first >>= next = .ok value) :
    ∃ middle, first = .ok middle ∧ next middle = .ok value := by
  cases first with
  | error e => cases h
  | ok middle => exact ⟨middle, rfl, h⟩

end HealthGrid.Foundation
