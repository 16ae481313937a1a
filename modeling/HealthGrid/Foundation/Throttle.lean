import HealthGrid.Foundation.Run
import Mathlib.Order.Lattice

/-!
# Counting failures for a while

A counter lives for a fixed time from the failure that creates it, however many
failures follow.  Attempts are let past while the counter is below a limit.  A
success that the counter is told of removes it.
-/

namespace HealthGrid.Foundation

structure Counter (τ : Type) where
  count : Nat
  expires : τ
  deriving DecidableEq, Repr

structure Attempt (τ : Type) where
  now : τ
  good : Bool
  passed : Bool
  deriving DecidableEq, Repr

variable {τ : Type} [LinearOrder τ]

def failures (entry : Option (Counter τ)) (now : τ) : Nat :=
  match entry with
  | none => 0
  | some counter => if now < counter.expires then counter.count else 0

theorem failures_live {count : Nat} {now expires : τ} (h : now < expires) :
    failures (some ⟨count, expires⟩) now = count := if_pos h

def Expired (entry : Option (Counter τ)) (now : τ) : Prop :=
  ∀ counter, entry = some counter → counter.expires ≤ now

theorem expired_none (now : τ) : Expired none now := nofun

theorem Expired.mono {entry : Option (Counter τ)} {now later : τ}
    (h : Expired entry now) (hle : now ≤ later) : Expired entry later :=
  fun counter heq => (h counter heq).trans hle

theorem Expired.failures_eq {entry : Option (Counter τ)} {now : τ}
    (h : Expired entry now) : failures entry now = 0 := by
  cases entry with
  | none => rfl
  | some counter => exact if_neg (not_lt.mpr (h counter rfl))

def InOrder (attempts : List (Attempt τ)) : Prop :=
  attempts.Pairwise fun earlier later => earlier.now ≤ later.now

theorem InOrder.split {attempts : List (Attempt τ)} (h : InOrder attempts)
    (expires : τ) :
    ∃ inTime late, attempts = inTime ++ late ∧
      (∀ attempt ∈ inTime, attempt.now < expires) ∧
      ∀ attempt ∈ late, ¬ attempt.now < expires := by
  induction attempts with
  | nil => exact ⟨[], [], by simp⟩
  | cons attempt attempts ih =>
      obtain ⟨hfirst, horder⟩ := List.pairwise_cons.mp h
      by_cases hnow : attempt.now < expires
      · obtain ⟨inTime, late, rfl, hinTime, hlate⟩ := ih horder
        exact ⟨attempt :: inTime, late, by simp, by simpa [hnow] using hinTime,
          hlate⟩
      · refine ⟨[], attempt :: attempts, by simp, by simp, ?_⟩
        intro other hmem
        rcases List.mem_cons.mp hmem with rfl | hmem
        · exact hnow
        · exact fun hother => hnow (lt_of_le_of_lt (hfirst other hmem) hother)

variable [Add τ]

def withFailure (seconds : τ) (entry : Option (Counter τ)) (now : τ) :
    Option (Counter τ) :=
  match entry with
  | none => some ⟨1, now + seconds⟩
  | some counter =>
      if now < counter.expires then some ⟨counter.count + 1, counter.expires⟩
      else some ⟨1, now + seconds⟩

inductive AttemptStep (limit : Nat) (seconds : τ) :
    Option (Counter τ) → Attempt τ → Option (Counter τ) → Prop
  | refused {entry : Option (Counter τ)} {now : τ} (good : Bool) :
      limit ≤ failures entry now →
      AttemptStep limit seconds entry ⟨now, good, false⟩ entry
  | failed {entry : Option (Counter τ)} {now : τ} :
      failures entry now < limit →
      AttemptStep limit seconds entry ⟨now, false, true⟩
        (withFailure seconds entry now)
  | accepted {entry : Option (Counter τ)} {now : τ} :
      failures entry now < limit →
      AttemptStep limit seconds entry ⟨now, true, true⟩ none
  /-- a success that the counter is not told of -/
  | unnoticed {entry : Option (Counter τ)} {now : τ} :
      failures entry now < limit →
      AttemptStep limit seconds entry ⟨now, true, true⟩ entry

variable {limit : Nat} {seconds expires : τ}
  {entry entry' : Option (Counter τ)} {attempts : List (Attempt τ)}

theorem Expired.withFailure_eq {now : τ} (h : Expired entry now) :
    withFailure seconds entry now = some ⟨1, now + seconds⟩ := by
  cases entry with
  | none => rfl
  | some counter => exact if_neg (not_lt.mpr (h counter rfl))

theorem expired_of_no_failure {start : τ} (hstart : Expired entry start)
    (run : Run (AttemptStep limit seconds) entry attempts entry')
    (hgood : ∀ attempt ∈ attempts, attempt.passed = true →
      attempt.good = true) : Expired entry' start := by
  induction run with
  | refl => exact hstart
  | snoc _ hstep ih =>
      have hexpired := ih fun attempt hmem => hgood attempt (by simp [hmem])
      cases hstep with
      | refused => exact hexpired
      | accepted => exact expired_none start
      | unnoticed => exact hexpired
      | failed =>
          cases hgood _ (List.mem_append_right _ (List.mem_singleton_self _))
            rfl

/-- While the counter lives it counts every attempt that is let past. -/
theorem counts_passed {count : Nat} (hcount : count ≤ limit)
    (run : Run (AttemptStep limit seconds) (some ⟨count, expires⟩) attempts
      entry)
    (hbad : ∀ attempt ∈ attempts,
      ¬ (attempt.passed = true ∧ attempt.good = true))
    (hlive : ∀ attempt ∈ attempts, attempt.now < expires) :
    entry = some ⟨count + attempts.countP (·.passed), expires⟩ ∧
      count + attempts.countP (·.passed) ≤ limit ∧
      (count + attempts.countP (·.passed) = limit ∨
        attempts.countP (·.passed) = attempts.length) := by
  induction run with
  | refl => simpa using hcount
  | @snoc before after attempts attempt _ hstep ih =>
      obtain ⟨hentry, hle, hfull⟩ :=
        ih (fun other hmem => hbad other (by simp [hmem]))
          fun other hmem => hlive other (by simp [hmem])
      have hnow := hlive attempt (by simp)
      have hattempt := hbad attempt (by simp)
      rw [List.countP_append, List.countP_singleton, List.length_append,
        List.length_singleton]
      cases hstep with
      | refused good hthrottled =>
          rw [hentry, failures_live hnow] at hthrottled
          refine ⟨by simpa using hentry, by simpa using hle, .inl ?_⟩
          simp
          omega
      | failed hbelow =>
          rw [hentry, failures_live hnow] at hbelow
          rw [if_pos rfl]
          refine ⟨?_, by omega, .inr (by omega)⟩
          simp [withFailure, hentry, hnow, Nat.add_assoc]
      | accepted => simp at hattempt
      | unnoticed => simp at hattempt

theorem full_refuses
    (run : Run (AttemptStep limit seconds) (some ⟨limit, expires⟩) attempts
      entry) (hlive : ∀ attempt ∈ attempts, attempt.now < expires) :
    entry = some ⟨limit, expires⟩ ∧
      ∀ attempt ∈ attempts, attempt.passed = false := by
  induction run with
  | refl => simp
  | @snoc before after attempts attempt _ hstep ih =>
      obtain ⟨rfl, hrefused⟩ := ih fun other hmem => hlive other (by simp [hmem])
      have hnow := hlive attempt (by simp)
      cases hstep with
      | refused =>
          refine ⟨rfl, fun other hmem => ?_⟩
          rcases List.mem_append.mp hmem with hold | hlast
          · exact hrefused other hold
          · rw [List.mem_singleton.mp hlast]
      | failed hbelow =>
          rw [failures_live hnow] at hbelow
          omega
      | accepted hbelow =>
          rw [failures_live hnow] at hbelow
          omega
      | unnoticed hbelow =>
          rw [failures_live hnow] at hbelow
          omega

theorem started {first : Attempt τ} (hlimit : 0 < limit)
    (hstart : Expired entry first.now)
    (hstep : AttemptStep limit seconds entry first entry')
    (hbad : first.good = false) :
    first.passed = true ∧ entry' = some ⟨1, first.now + seconds⟩ := by
  cases hstep with
  | refused good hthrottled =>
      rw [hstart.failures_eq] at hthrottled
      omega
  | failed => exact ⟨rfl, hstart.withFailure_eq⟩
  | accepted => cases hbad
  | unnoticed => cases hbad

/--
After as many failures in a row as the limit, nothing is let past until the
counter that the first of them started has expired.
-/
theorem blocked_after_failures (hlimit : 0 < limit) {first : Attempt τ}
    {before rest later : List (Attempt τ)} {start : τ}
    (hstart : Expired entry start) (hclock : start ≤ first.now)
    (run : Run (AttemptStep limit seconds) entry
      (before ++ (first :: rest ++ later)) entry')
    (horder : InOrder (before ++ (first :: rest ++ later)))
    (hbefore : ∀ attempt ∈ before, attempt.good = true)
    (hbad : ∀ attempt ∈ first :: rest, attempt.good = false)
    (hmany : limit ≤ (first :: rest).length) {attempt : Attempt τ}
    (hmem : attempt ∈ later) (hnow : attempt.now < first.now + seconds) :
    attempt.passed = false := by
  obtain ⟨earlier, after, rfl⟩ := List.append_of_mem hmem
  have horder' := (List.pairwise_append.mp horder).2.1
  have hlive : ∀ other ∈ first :: rest ++ (earlier ++ [attempt]),
      other.now < first.now + seconds := by
    intro other hother
    refine lt_of_le_of_lt ?_ hnow
    rw [show first :: rest ++ (earlier ++ attempt :: after) =
      (first :: rest ++ earlier) ++ attempt :: after by simp] at horder'
    rw [← List.append_assoc, List.mem_append, List.mem_singleton] at hother
    rcases hother with hother | rfl
    · exact (List.pairwise_append.mp horder').2.2 other hother attempt (by simp)
    · exact le_refl _
  obtain ⟨idle, hfront, run⟩ := run.append_inv
  have hidle := (expired_of_no_failure hstart hfront
    fun other hother _ => hbefore other hother).mono hclock
  rw [show first :: rest ++ (earlier ++ attempt :: after) =
    [first] ++ (rest ++ ((earlier ++ [attempt]) ++ after)) by simp] at run
  obtain ⟨counter, hone, run⟩ := run.append_inv
  obtain ⟨-, rfl⟩ := started hlimit hidle hone.single_inv (hbad first (by simp))
  obtain ⟨full, hcounted, run⟩ := run.append_inv
  obtain ⟨rfl, hle, hfull⟩ := counts_passed hlimit hcounted
    (fun other hother => by simp [hbad other (by simp [hother])])
    fun other hother => hlive other (by simp [hother])
  have hcount : 1 + rest.countP (·.passed) = limit := by
    simp only [List.length_cons] at hmany
    omega
  obtain ⟨last, hlater, -⟩ := run.append_inv
  rw [hcount] at hlater
  exact (full_refuses hlater fun other hother => hlive other (by
    rw [List.mem_append]
    exact .inr hother)).2 attempt (by simp)

/-- No more failures than the limit are let past while the counter lives. -/
theorem passed_failures_le (hlimit : 0 < limit) {first : Attempt τ}
    {before rest : List (Attempt τ)} {start : τ}
    (hstart : Expired entry start) (hclock : start ≤ first.now)
    (run : Run (AttemptStep limit seconds) entry (before ++ first :: rest)
      entry')
    (horder : InOrder (before ++ first :: rest))
    (hbefore : ∀ attempt ∈ before, attempt.passed = true → attempt.good = true)
    (hfirst : first.good = false)
    (hrest : ∀ attempt ∈ rest, ¬ (attempt.passed = true ∧ attempt.good = true)) :
    (first :: rest).countP (fun attempt => attempt.passed && !attempt.good &&
      decide (attempt.now < first.now + seconds)) ≤ limit := by
  have horder' := (List.pairwise_append.mp horder).2.1
  obtain ⟨inTime, late, rfl, hinTime, hlate⟩ :=
    InOrder.split (List.pairwise_cons.mp horder').2 (first.now + seconds)
  obtain ⟨idle, hfront, run⟩ := run.append_inv
  have hidle := (expired_of_no_failure hstart hfront hbefore).mono hclock
  rw [show first :: (inTime ++ late) = [first] ++ (inTime ++ late) by simp]
    at run
  obtain ⟨counter, hone, run⟩ := run.append_inv
  obtain ⟨-, rfl⟩ := started hlimit hidle hone.single_inv hfirst
  obtain ⟨full, hcounted, -⟩ := run.append_inv
  have hle := (counts_passed hlimit hcounted
    (fun other hother => hrest other (by simp [hother])) hinTime).2.1
  have hlateNone : late.countP (fun attempt => attempt.passed &&
      !attempt.good && decide (attempt.now < first.now + seconds)) = 0 := by
    rw [List.countP_eq_zero]
    intro other hother
    simp [hlate other hother]
  have hinTimeLe : inTime.countP (fun attempt => attempt.passed &&
      !attempt.good && decide (attempt.now < first.now + seconds)) ≤
        inTime.countP (·.passed) := by
    apply List.countP_mono_left
    intro other _ hcounts
    simp only [Bool.and_eq_true] at hcounts
    exact hcounts.1.1
  rw [List.countP_cons, List.countP_append, hlateNone]
  split <;> omega

/-! ## A counter inside a larger system -/

structure Subject (τ : Type) where
  entry : Option (Counter τ)
  attempts : List (Attempt τ)
  clock : τ

/-- A step of the system makes at most one attempt for the subject. -/
inductive SubjectStep (limit : Nat) (seconds : τ) (before after : Subject τ) :
    Prop
  | kept : after.attempts = before.attempts → after.entry = before.entry →
      before.clock ≤ after.clock → SubjectStep limit seconds before after
  | attempted (attempt : Attempt τ) :
      after.attempts = before.attempts ++ [attempt] →
      AttemptStep limit seconds before.entry attempt after.entry →
      before.clock ≤ attempt.now → attempt.now = after.clock →
      SubjectStep limit seconds before after

/-- The attempts of a subject are a run of its counter, in order of time. -/
structure Subject.Follows (limit : Nat) (seconds : τ)
    (start subject : Subject τ) : Prop where
  run : Run (AttemptStep limit seconds) start.entry subject.attempts
    subject.entry
  inOrder : InOrder subject.attempts
  since : ∀ attempt ∈ subject.attempts, start.clock ≤ attempt.now
  past : ∀ attempt ∈ subject.attempts, attempt.now ≤ subject.clock
  clock : start.clock ≤ subject.clock

theorem Subject.Follows.step {start before after : Subject τ}
    (h : Follows limit seconds start before)
    (hstep : SubjectStep limit seconds before after) :
    Follows limit seconds start after := by
  cases hstep with
  | kept hattempts hentry hclock =>
      refine ⟨by rw [hattempts, hentry]; exact h.run, by rw [hattempts]; exact
        h.inOrder, by rw [hattempts]; exact h.since, ?_, h.clock.trans hclock⟩
      rw [hattempts]
      exact fun attempt hmem => (h.past attempt hmem).trans hclock
  | attempted attempt hattempts hentry hclock hnow =>
      refine ⟨by rw [hattempts]; exact h.run.snoc hentry, ?_, ?_, ?_, ?_⟩
      · rw [hattempts]
        refine List.pairwise_append.mpr ⟨h.inOrder, List.pairwise_singleton _ _,
          fun earlier hmem later hlater => ?_⟩
        rw [List.mem_singleton.mp hlater]
        exact (h.past earlier hmem).trans hclock
      · rw [hattempts]
        simp only [List.mem_append, List.mem_singleton]
        rintro other (hmem | rfl)
        · exact h.since other hmem
        · exact h.clock.trans hclock
      · rw [hattempts]
        simp only [List.mem_append, List.mem_singleton]
        rintro other (hmem | rfl)
        · exact ((h.past other hmem).trans hclock).trans hnow.le
        · exact hnow.le
      · exact (h.clock.trans hclock).trans hnow.le

theorem follows_run {σ ι : Type} {step : σ → ι → σ → Prop}
    (subject : σ → Subject τ) {s t : σ} {inputs : List ι}
    (hstep : ∀ s input t, step s input t →
      SubjectStep limit seconds (subject s) (subject t))
    (hstart : (subject s).attempts = []) (run : Run step s inputs t) :
    Subject.Follows limit seconds (subject s) (subject t) := by
  refine run.invariant
    (fun u => Subject.Follows limit seconds (subject s) (subject u))
    (fun u input v hu huv => hu.step (hstep u input v huv))
    ⟨?_, ?_, ?_, ?_, le_refl _⟩
  · rw [hstart]
    exact .refl _
  · rw [hstart]
    exact .nil
  · simp [hstart]
  · simp [hstart]

end HealthGrid.Foundation
