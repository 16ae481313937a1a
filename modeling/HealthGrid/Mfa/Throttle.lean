import HealthGrid.Foundation.Run
import HealthGrid.Foundation.Throttle
import HealthGrid.Mfa.Sessions

/-!
# The failure counters of the sign-in views

Counters live in a cache that keeps the timeout they were added with, and that
all processes share.  Read at one time, the cache is the untimed table that the
sessions are modelled with.
-/

namespace HealthGrid.Mfa

open HealthGrid.Foundation

def loginThrottleLimit : Nat := 10

/-- Fifteen minutes, in microseconds. -/
def loginThrottleSeconds : Time := 15 * 60 * 1000000

abbrev Cache := String → Option (Counter Time)

variable (cache : Cache) (key : String) (now : Time)

/-- `cache.get(key, 0)` -/
def cacheGet : Nat := failures (cache key) now

/-- `cache.incr`: `none` is the `ValueError` on a missing key. -/
def cacheIncr : Option Cache :=
  match cache key with
  | none => none
  | some counter =>
      if now < counter.expires then
        some (Function.update cache key
          (some ⟨counter.count + 1, counter.expires⟩))
      else none

/-- `cache.add`, which leaves a live entry alone. -/
def cacheAdd (value : Nat) (timeout : Time) : Cache :=
  match cache key with
  | none => Function.update cache key (some ⟨value, now + timeout⟩)
  | some counter =>
      if now < counter.expires then cache
      else Function.update cache key (some ⟨value, now + timeout⟩)

def isThrottled : Bool := cacheGet cache key now ≥ loginThrottleLimit

def recordFailure : Cache :=
  match cacheIncr cache key now with
  | some cache => cache
  | none => cacheAdd cache key now 1 loginThrottleSeconds

def clearFailures : Cache := Function.update cache key none

variable {cache key now}

theorem recordFailure_eq :
    recordFailure cache key now = Function.update cache key
      (withFailure loginThrottleSeconds (cache key) now) := by
  unfold recordFailure cacheIncr cacheAdd withFailure
  cases cache key with
  | none => rfl
  | some counter => by_cases hlive : now < counter.expires <;> simp [hlive]

theorem isThrottled_iff :
    isThrottled cache key now = true ↔
      loginThrottleLimit ≤ failures (cache key) now := by
  simp [isThrottled, cacheGet]

theorem not_isThrottled_iff :
    isThrottled cache key now = false ↔
      failures (cache key) now < loginThrottleLimit := by
  rw [← Bool.not_eq_true, isThrottled_iff, not_le]

/-! ## The untimed table -/

theorem cacheGet_recordFailure (other : String) :
    cacheGet (recordFailure cache key now) other now =
      Function.update (fun key => cacheGet cache key now) key
        (cacheGet cache key now + 1) other := by
  rw [recordFailure_eq]
  unfold cacheGet
  by_cases heq : other = key
  · subst heq
    rw [Function.update_self, Function.update_self]
    have hnew : now < now + loginThrottleSeconds :=
      Int.lt_add_of_pos_right now (by decide)
    cases hentry : cache other with
    | none => simp [failures, withFailure, hnew]
    | some counter =>
        by_cases hlive : now < counter.expires <;>
          simp [failures, withFailure, hlive, hnew]
  · rw [Function.update_of_ne heq, Function.update_of_ne heq]

theorem cacheGet_clearFailures (other : String) :
    cacheGet (clearFailures cache key) other now =
      Function.update (fun key => cacheGet cache key now) key 0 other := by
  unfold cacheGet clearFailures
  by_cases heq : other = key
  · subst heq
    simp [failures]
  · rw [Function.update_of_ne heq, Function.update_of_ne heq]

theorem cacheGet_later {later : Time} (hle : now ≤ later)
    (hlive : cacheGet cache key later ≠ 0) :
    cacheGet cache key later = cacheGet cache key now := by
  unfold cacheGet failures at hlive ⊢
  cases hentry : cache key with
  | none => rfl
  | some counter =>
      rw [hentry] at hlive
      dsimp only at hlive ⊢
      split at hlive
      · rename_i hlater
        rw [if_pos hlater, if_pos (lt_of_le_of_lt hle hlater)]
      · exact absurd rfl hlive

structure TimedCache where
  cache : Cache
  now : Time

inductive CounterEvent where
  | failed (key : String)
  | cleared (key : String)
  | waited (later : Time)
  deriving DecidableEq, Repr

def TimedCache.step (c : TimedCache) : CounterEvent → TimedCache
  | .failed key => { c with cache := recordFailure c.cache key c.now }
  | .cleared key => { c with cache := clearFailures c.cache key }
  | .waited later => { c with now := max c.now later }

section Simulation

variable {δ : Type} {lib : AuthLibrary δ} {mfaRequired : Bool}

inductive CounterStep (lib : AuthLibrary δ) (mfaRequired : Bool) (w : Site δ) :
    CounterEvent → Site δ → Prop where
  | failed (key : String) :
      CounterStep lib mfaRequired w (.failed key) (w.recordFailure key)
  | cleared (key : String) :
      CounterStep lib mfaRequired w (.cleared key) (w.clearFailures key)
  | waited (later : Time) (keys : List String) :
      CounterStep lib mfaRequired w (.waited later)
        (w.step lib mfaRequired (.expire keys))

/-- The table is the cache read now, and `keys` has every key of the cache. -/
structure Mirrors (w : Site δ) (c : TimedCache) (keys : List String) :
    Prop where
  counts : ∀ key, w.failures key = cacheGet c.cache key c.now
  finite : ∀ key, c.cache key ≠ none → key ∈ keys

theorem Mirrors.step {w : Site δ} {c : TimedCache} {keys : List String}
    (h : Mirrors w c keys) (event : CounterEvent) :
    ∃ w' keys', CounterStep lib mfaRequired w event w' ∧
      Mirrors w' (c.step event) keys' := by
  have hcounts : w.failures = fun key => cacheGet c.cache key c.now :=
    funext h.counts
  cases event with
  | failed key =>
      refine ⟨_, key :: keys, .failed key, fun other => ?_, fun other hsome => ?_⟩
      · rw [Site.recordFailure, hcounts]
        exact (cacheGet_recordFailure other).symm
      · by_cases heq : other = key
        · rw [heq]
          exact List.mem_cons_self
        · refine List.mem_cons_of_mem _ (h.finite other fun hnone => hsome ?_)
          change recordFailure c.cache key c.now other = none
          rw [recordFailure_eq, Function.update_of_ne heq, hnone]
  | cleared key =>
      refine ⟨_, keys, .cleared key, fun other => ?_, fun other hsome => ?_⟩
      · rw [Site.clearFailures, hcounts]
        exact (cacheGet_clearFailures other).symm
      · refine h.finite other fun hnone => hsome ?_
        change Function.update c.cache key none other = none
        by_cases heq : other = key
        · rw [heq, Function.update_self]
        · rw [Function.update_of_ne heq, hnone]
  | waited later =>
      let expired := keys.filter fun key =>
        decide (cacheGet c.cache key (max c.now later) = 0)
      refine ⟨_, keys, .waited later expired, fun other => ?_, h.finite⟩
      unfold Site.step TimedCache.step
      dsimp only
      by_cases hlive : cacheGet c.cache other (max c.now later) = 0
      · rw [hlive]
        split
        · rfl
        · rename_i hnot
          rw [h.counts]
          have hnone : c.cache other = none := by
            by_contra hsome
            exact hnot (List.mem_filter.mpr
              ⟨h.finite other hsome, decide_eq_true hlive⟩)
          rw [cacheGet, hnone, failures]
      · have hkept : other ∉ expired := fun hmem =>
          hlive (of_decide_eq_true (List.mem_filter.mp hmem).2)
        rw [if_neg hkept, h.counts]
        exact (cacheGet_later (le_max_left _ _) hlive).symm

/-- The sessions' table can follow the cache, and refuses the same keys. -/
theorem cache_simulated {w : Site δ} {c : TimedCache} {keys : List String}
    (h : Mirrors w c keys) (events : List CounterEvent) :
    ∃ w', Run (CounterStep lib mfaRequired) w events w' ∧
      ∀ key, w'.isThrottled key = isThrottled (events.foldl TimedCache.step c).cache
        key (events.foldl TimedCache.step c).now := by
  suffices hmirrors : ∃ w' keys', Run (CounterStep lib mfaRequired) w events w' ∧
      Mirrors w' (events.foldl TimedCache.step c) keys' by
    obtain ⟨w', keys', run, h'⟩ := hmirrors
    refine ⟨w', run, fun key => ?_⟩
    unfold Site.isThrottled isThrottled loginThrottleLimit
    rw [h'.counts]
  induction events using List.reverseRecOn with
  | nil => exact ⟨w, keys, .refl w, h⟩
  | append_singleton events event ih =>
      obtain ⟨w', keys', run, h'⟩ := ih
      obtain ⟨w'', keys'', hstep, h''⟩ := h'.step event
      rw [List.foldl_append]
      exact ⟨w'', keys'', .snoc run hstep, h''⟩

end Simulation

end HealthGrid.Mfa
