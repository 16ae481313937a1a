import HealthGrid.Foundation.Run
import Mathlib.Logic.Function.Basic
import Mathlib.Order.Lattice

/-!
# A cache with time limits

Values are set for a key until a time, and dropped by request.  What a key
gives is the value of its last write, when that write was no drop and has not
expired.
-/

namespace HealthGrid.Foundation

variable {κ ν τ : Type}

abbrev Cache (κ ν τ : Type) := κ → Option (ν × τ)

def Cache.empty : Cache κ ν τ := fun _ => none

section Reading

variable [LinearOrder τ]

def Cache.get (cache : Cache κ ν τ) (now : τ) (k : κ) : Option ν :=
  match cache k with
  | none => none
  | some (value, expires) => if now < expires then some value else none

end Reading

inductive CacheWrite (κ ν τ : Type) where
  | set (k : κ) (value : ν) (expires : τ)
  | drop (k : κ)

def CacheWrite.key : CacheWrite κ ν τ → κ
  | .set k _ _ => k
  | .drop k => k

section Writing

variable [DecidableEq κ]

def Cache.write (cache : Cache κ ν τ) : CacheWrite κ ν τ → Cache κ ν τ
  | .set k value expires => Function.update cache k (some (value, expires))
  | .drop k => Function.update cache k none

def Cache.replay (writes : List (CacheWrite κ ν τ)) : Cache κ ν τ :=
  writes.foldl Cache.write .empty

theorem Cache.replay_append (writes : List (CacheWrite κ ν τ))
    (write : CacheWrite κ ν τ) :
    Cache.replay (writes ++ [write]) = (Cache.replay writes).write write := by
  simp [Cache.replay]

end Writing

end HealthGrid.Foundation
