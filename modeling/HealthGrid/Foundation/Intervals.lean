import Mathlib.Data.List.Induction
import Mathlib.Data.List.Nodup
import Mathlib.Data.List.Forall2
import Mathlib.Tactic.Cases

/-!
# Observations encoded as intervals

Something is observed at a sequence of times, each time present or absent.
`encode` keeps one interval for each time it appeared and stayed, by opening,
extending and closing.  The intervals are exactly the maximal runs of
consecutive observations that found it present.
-/

namespace HealthGrid.Foundation

/-! ## Maximal runs of a list of flags -/

/-- Positions `i` to `j` are all true, and neither end can be moved outwards. -/
structure IsMaximalRun (flags : List Bool) (i j : Nat) : Prop where
  nonempty : i ≤ j
  present : ∀ k, i ≤ k → k ≤ j → flags[k]? = some true
  left : ∀ p, p + 1 = i → flags[p]? = some false
  right : flags[j + 1]? ≠ some true

def extendRuns (n : Nat) (runs : List (Nat × Nat)) (flag : Bool) :
    List (Nat × Nat) :=
  if flag then
    if runs.any (fun run => run.2 + 1 == n) then
      runs.map fun run => if run.2 + 1 = n then (run.1, n) else run
    else runs ++ [(n, n)]
  else runs

def maximalRuns (flags : List Bool) : List (Nat × Nat) :=
  (flags.foldl (fun acc flag => (acc.1 + 1, extendRuns acc.1 acc.2 flag))
    (0, [])).2

@[simp] theorem maximalRuns_nil : maximalRuns [] = [] := rfl

theorem maximalRuns_append (flags : List Bool) (flag : Bool) :
    maximalRuns (flags ++ [flag]) =
      extendRuns flags.length (maximalRuns flags) flag := by
  have hcount : ∀ (flags : List Bool) (acc : Nat × List (Nat × Nat)),
      (flags.foldl (fun acc flag => (acc.1 + 1, extendRuns acc.1 acc.2 flag))
        acc).1 = acc.1 + flags.length := by
    intro flags
    induction flags with
    | nil => intro acc; rfl
    | cons flag flags ih =>
        intro acc
        rw [List.foldl_cons, ih, List.length_cons]
        omega
  simp [maximalRuns, List.foldl_append, hcount]

namespace IsMaximalRun

variable {flags : List Bool} {i j : Nat}

theorem lt_length (h : IsMaximalRun flags i j) : j < flags.length :=
  (List.getElem?_eq_some_iff.mp (h.present j h.nonempty (Nat.le_refl _))).1

theorem append_false (flags : List Bool) (i j : Nat) :
    IsMaximalRun (flags ++ [false]) i j ↔ IsMaximalRun flags i j := by
  constructor
  · intro h
    have hj : j < flags.length := by
      have hlast := h.present j h.nonempty (Nat.le_refl _)
      rw [List.getElem?_append] at hlast
      split at hlast
      · assumption
      · rename_i hge
        have hone := h.lt_length
        simp only [List.length_append, List.length_singleton] at hone
        have : j - flags.length = 0 := by omega
        simp [this] at hlast
    refine ⟨h.nonempty, ?_, ?_, ?_⟩
    · intro k hi hk
      have hflag := h.present k hi hk
      rwa [List.getElem?_append_left (by omega)] at hflag
    · intro p hp
      have hflag := h.left p hp
      have := h.nonempty
      rwa [List.getElem?_append_left (by omega)] at hflag
    · intro hright
      have hlt := (List.getElem?_eq_some_iff.mp hright).1
      exact h.right (by rwa [List.getElem?_append_left hlt])
  · intro h
    have hj := h.lt_length
    refine ⟨h.nonempty, ?_, ?_, ?_⟩
    · intro k hi hk
      rw [List.getElem?_append_left (by omega)]
      exact h.present k hi hk
    · intro p hp
      have := h.nonempty
      rw [List.getElem?_append_left (by omega)]
      exact h.left p hp
    · by_cases hlt : j + 1 < flags.length
      · rw [List.getElem?_append_left hlt]
        exact h.right
      · have : j + 1 = flags.length := by omega
        simp [this]

theorem append_true (flags : List Bool) (i j : Nat) :
    IsMaximalRun (flags ++ [true]) i j ↔
      (j + 1 < flags.length ∧ IsMaximalRun flags i j) ∨
      (j = flags.length ∧ ∃ e, e + 1 = flags.length ∧ IsMaximalRun flags i e) ∨
      (j = flags.length ∧ i = flags.length ∧
        ∀ e, e + 1 = flags.length → flags[e]? = some false) := by
  constructor
  · intro h
    have hj := h.lt_length
    simp only [List.length_append, List.length_singleton] at hj
    have hpresent : ∀ k, i ≤ k → k ≤ j → k < flags.length →
        flags[k]? = some true := by
      intro k hi hk hlt
      have hflag := h.present k hi hk
      rwa [List.getElem?_append_left hlt] at hflag
    have hleft : ∀ p, p + 1 = i → flags[p]? = some false := by
      intro p hp
      have hflag := h.left p hp
      have := h.nonempty
      rwa [List.getElem?_append_left (by omega)] at hflag
    by_cases hend : j = flags.length
    · right
      by_cases hstart : i = flags.length
      · exact .inr ⟨hend, hstart, fun e he => hleft e (by omega)⟩
      · have := h.nonempty
        refine .inl ⟨hend, flags.length - 1, by omega, ?_⟩
        refine ⟨by omega, ?_, hleft, ?_⟩
        · intro k hi hk
          exact hpresent k hi (by omega) (by omega)
        · simp [show flags.length - 1 + 1 = flags.length by omega]
    · left
      have hnext : j + 1 ≠ flags.length := by
        intro hnext
        have hright := h.right
        simp [hnext] at hright
      refine ⟨by omega, h.nonempty, ?_, hleft, ?_⟩
      · intro k hi hk
        exact hpresent k hi hk (by omega)
      · have hright := h.right
        rwa [List.getElem?_append_left (by omega)] at hright
  · rintro (⟨hlt, h⟩ | ⟨rfl, e, he, h⟩ | ⟨rfl, rfl, hfalse⟩)
    · refine ⟨h.nonempty, ?_, ?_, ?_⟩
      · intro k hi hk
        rw [List.getElem?_append_left (by omega)]
        exact h.present k hi hk
      · intro p hp
        have := h.nonempty
        rw [List.getElem?_append_left (by omega)]
        exact h.left p hp
      · rw [List.getElem?_append_left hlt]
        exact h.right
    · have := h.nonempty
      refine ⟨by omega, ?_, ?_, by simp⟩
      · intro k hi hk
        by_cases hlast : k = flags.length
        · simp [hlast]
        · rw [List.getElem?_append_left (by omega)]
          exact h.present k hi (by omega)
      · intro p hp
        rw [List.getElem?_append_left (by omega)]
        exact h.left p hp
    · refine ⟨(Nat.le_refl _), ?_, ?_, by simp⟩
      · intro k hi hk
        have : k = flags.length := by omega
        simp [this]
      · intro p hp
        rw [List.getElem?_append_left (by omega)]
        exact hfalse p hp

end IsMaximalRun

theorem exists_run_start {flags : List Bool} {e : Nat}
    (h : flags[e]? = some true) :
    ∃ i, i ≤ e ∧ (∀ k, i ≤ k → k ≤ e → flags[k]? = some true) ∧
      ∀ p, p + 1 = i → flags[p]? = some false := by
  induction e with
  | zero =>
      refine ⟨0, Nat.le_refl _, ?_, by omega⟩
      intro k _ hk
      rwa [Nat.le_zero.mp hk]
  | succ e ih =>
      have hlt := (List.getElem?_eq_some_iff.mp h).1
      cases hprev : flags[e]? with
      | none =>
          have := List.getElem?_eq_none_iff.mp hprev
          omega
      | some flag =>
          cases flag with
          | false =>
              refine ⟨e + 1, Nat.le_refl _, ?_, ?_⟩
              · intro k hi hk
                rwa [show k = e + 1 by omega]
              · intro p hp
                rwa [show p = e by omega]
          | true =>
              obtain ⟨i, hi, hpresent, hleft⟩ := ih hprev
              refine ⟨i, by omega, ?_, hleft⟩
              intro k hik hk
              by_cases hlast : k = e + 1
              · rwa [hlast]
              · exact hpresent k hik (by omega)

theorem exists_run_to_end {flags : List Bool} {e : Nat}
    (he : e + 1 = flags.length) (h : flags[e]? = some true) :
    ∃ i, IsMaximalRun flags i e := by
  obtain ⟨i, hi, hpresent, hleft⟩ := exists_run_start h
  exact ⟨i, hi, hpresent, hleft, by simp [he]⟩

theorem mem_maximalRuns {flags : List Bool} {i j : Nat} :
    (i, j) ∈ maximalRuns flags ↔ IsMaximalRun flags i j := by
  induction flags using List.reverseRecOn generalizing i j with
  | nil =>
      simp only [maximalRuns_nil, List.not_mem_nil, false_iff]
      intro h
      simpa using h.present i (Nat.le_refl _) h.nonempty
  | append_singleton flags flag ih =>
      rw [maximalRuns_append]
      cases flag with
      | false =>
          rw [IsMaximalRun.append_false, ← ih]
          simp [extendRuns]
      | true =>
          rw [IsMaximalRun.append_true]
          simp only [extendRuns, if_true, List.any_eq_true, beq_iff_eq]
          split
          · rename_i hopen
            obtain ⟨⟨i₀, e₀⟩, hmem, hend⟩ := hopen
            have hrun := ih.mp hmem
            have hflag : flags[e₀]? = some true :=
              hrun.present e₀ hrun.nonempty (Nat.le_refl _)
            rw [List.mem_map]
            constructor
            · rintro ⟨⟨i', j'⟩, hmem', heq⟩
              by_cases hlast : j' + 1 = flags.length
              · rw [if_pos hlast] at heq
                cases heq
                exact .inr (.inl ⟨rfl, j', hlast, ih.mp hmem'⟩)
              · rw [if_neg hlast] at heq
                cases heq
                have hrun' := ih.mp hmem'
                have := hrun'.lt_length
                exact .inl ⟨by omega, hrun'⟩
            · rintro (⟨hlt, h⟩ | ⟨rfl, e, he, h⟩ | ⟨-, -, hfalse⟩)
              · refine ⟨(i, j), ih.mpr h, ?_⟩
                rw [if_neg (by simp; omega)]
              · exact ⟨(i, e), ih.mpr h, by simp [he]⟩
              · simp [hfalse e₀ hend] at hflag
          · rename_i hnone
            have hclosed : ∀ i' j', (i', j') ∈ maximalRuns flags →
                j' + 1 ≠ flags.length := fun i' j' hmem hend =>
              hnone ⟨(i', j'), hmem, hend⟩
            simp only [List.mem_append, List.mem_singleton, Prod.mk.injEq]
            constructor
            · rintro (hmem | ⟨rfl, rfl⟩)
              · have hrun := ih.mp hmem
                have := hrun.lt_length
                have := hclosed i j hmem
                exact .inl ⟨by omega, hrun⟩
              · refine .inr (.inr ⟨rfl, rfl, ?_⟩)
                intro e he
                cases hflag : flags[e]? with
                | none =>
                    have := List.getElem?_eq_none_iff.mp hflag
                    omega
                | some flag =>
                    cases flag with
                    | false => rfl
                    | true =>
                        obtain ⟨i', hrun⟩ := exists_run_to_end he hflag
                        exact absurd he (hclosed i' e (ih.mpr hrun))
            · rintro (⟨-, h⟩ | ⟨-, e, he, h⟩ | ⟨rfl, rfl, -⟩)
              · exact .inl (ih.mpr h)
              · exact absurd he (hclosed i e (ih.mpr h))
              · exact .inr ⟨rfl, rfl⟩

theorem maximalRuns_starts_nodup (flags : List Bool) :
    ((maximalRuns flags).map Prod.fst).Nodup := by
  induction flags using List.reverseRecOn with
  | nil => simp
  | append_singleton flags flag ih =>
      rw [maximalRuns_append]
      unfold extendRuns
      split
      · split
        · rw [List.map_map]
          convert ih using 2
          funext run
          dsimp only [Function.comp]
          split <;> rfl
        · rw [List.map_append, List.nodup_append]
          refine ⟨ih, by simp, ?_⟩
          intro a ha b hb
          simp only [List.map_cons, List.map_nil, List.mem_singleton] at hb
          obtain ⟨⟨i, j⟩, hmem, rfl⟩ := List.mem_map.mp ha
          have hrun := mem_maximalRuns.mp hmem
          have := hrun.nonempty
          have := hrun.lt_length
          subst hb
          dsimp only
          omega
      · exact ih

/-! ## Encoding observations -/

structure Period (τ : Type) where
  first : τ
  last : τ
  stop : Option τ
  deriving DecidableEq, Repr

variable {τ : Type}

def Period.isOpen (interval : Period τ) : Bool := interval.stop.isNone

def observe (intervals : List (Period τ)) (observation : τ × Bool) :
    List (Period τ) :=
  if observation.2 then
    if intervals.any Period.isOpen then
      intervals.map fun interval =>
        if interval.isOpen then { interval with last := observation.1 }
        else interval
    else intervals ++ [⟨observation.1, observation.1, none⟩]
  else
    intervals.map fun interval =>
      if interval.isOpen then { interval with stop := some observation.1 }
      else interval

@[simp] theorem any_open_observe (intervals : List (Period τ))
    (observation : τ × Bool) :
    (observe intervals observation).any Period.isOpen = observation.2 := by
  obtain ⟨now, flag⟩ := observation
  cases flag with
  | false =>
      simp only [observe, Bool.false_eq_true, if_false, List.any_map,
        List.any_eq_false]
      intro interval _
      dsimp only [Function.comp]
      split
      · exact Bool.false_ne_true
      · assumption
  | true =>
      simp only [observe, if_true]
      split
      · rename_i hopen
        rw [List.any_map]
        rw [List.any_eq_true] at hopen ⊢
        obtain ⟨interval, hmem, hopen⟩ := hopen
        refine ⟨interval, hmem, ?_⟩
        dsimp only [Function.comp]
        rw [if_pos hopen]
        exact hopen
      · simp [Period.isOpen]

def encode (observations : List (τ × Bool)) : List (Period τ) :=
  observations.foldl observe []

theorem encode_append (observations : List (τ × Bool))
    (observation : τ × Bool) :
    encode (observations ++ [observation]) =
      observe (encode observations) observation := by
  simp [encode, List.foldl_append]

structure Period.Records (times : List τ) (interval : Period τ)
    (run : Nat × Nat) : Prop where
  first : times[run.1]? = some interval.first
  last : times[run.2]? = some interval.last
  stop : times[run.2 + 1]? = interval.stop

namespace Period.Records

variable {times : List τ} {interval : Period τ} {run : Nat × Nat} {now : τ}

theorem lt_length (h : interval.Records times run) :
    run.1 < times.length ∧ run.2 < times.length :=
  ⟨(List.getElem?_eq_some_iff.mp h.first).1,
    (List.getElem?_eq_some_iff.mp h.last).1⟩

theorem isOpen_iff (h : interval.Records times run) :
    interval.isOpen = true ↔ run.2 + 1 = times.length := by
  have hlt := h.lt_length
  have hstop := h.stop
  unfold Period.isOpen
  constructor
  · intro hopen
    rw [Option.isNone_iff_eq_none] at hopen
    rw [hopen, List.getElem?_eq_none_iff] at hstop
    omega
  · intro hend
    rw [← hstop, hend]
    simp

theorem keep (h : interval.Records times run)
    (hend : run.2 + 1 ≠ times.length) :
    interval.Records (times ++ [now]) run := by
  have hlt := h.lt_length
  refine ⟨?_, ?_, ?_⟩
  · rw [List.getElem?_append_left hlt.1, h.first]
  · rw [List.getElem?_append_left hlt.2, h.last]
  · rw [List.getElem?_append_left (by omega), h.stop]

theorem extend (h : interval.Records times run)
    (hend : run.2 + 1 = times.length) :
    ({ interval with last := now } : Period τ).Records (times ++ [now])
      (run.1, times.length) := by
  have hlt := h.lt_length
  have hstop := h.stop
  rw [hend] at hstop
  refine ⟨?_, by simp, ?_⟩
  · rw [List.getElem?_append_left hlt.1, h.first]
  · rw [← hstop]
    simp

theorem close (h : interval.Records times run)
    (hend : run.2 + 1 = times.length) :
    ({ interval with stop := some now } : Period τ).Records (times ++ [now])
      run := by
  have hlt := h.lt_length
  refine ⟨?_, ?_, by simp [hend]⟩
  · rw [List.getElem?_append_left hlt.1, h.first]
  · rw [List.getElem?_append_left hlt.2, h.last]

end Period.Records

theorem any_open_iff {times : List τ} {intervals : List (Period τ)}
    {runs : List (Nat × Nat)}
    (h : List.Forall₂ (Period.Records times) intervals runs) :
    intervals.any Period.isOpen = true ↔
      (runs.any fun run => run.2 + 1 == times.length) = true := by
  induction h with
  | nil => simp
  | cons hrecords _ ih =>
      simp only [List.any_cons, Bool.or_eq_true, ih, hrecords.isOpen_iff,
        beq_iff_eq]

private theorem keep_all {times : List τ} {intervals : List (Period τ)}
    {runs : List (Nat × Nat)} {now : τ}
    (h : List.Forall₂ (Period.Records times) intervals runs)
    (hclosed : ∀ run ∈ runs, run.2 + 1 ≠ times.length) :
    List.Forall₂ (Period.Records (times ++ [now])) intervals runs := by
  induction h with
  | nil => exact .nil
  | cons hrecords _ ih =>
      refine .cons (hrecords.keep (hclosed _ (by simp))) (ih ?_)
      intro run hmem
      exact hclosed run (by simp [hmem])

theorem encode_records (observations : List (τ × Bool)) :
    List.Forall₂ (Period.Records (observations.map Prod.fst))
      (encode observations) (maximalRuns (observations.map Prod.snd)) := by
  induction observations using List.reverseRecOn with
  | nil => exact .nil
  | append_singleton observations observation ih =>
      obtain ⟨now, flag⟩ := observation
      have hlength : (observations.map Prod.snd).length =
          (observations.map Prod.fst).length := by simp
      rw [encode_append, List.map_append, List.map_append, List.map_cons,
        List.map_nil, List.map_cons, List.map_nil, maximalRuns_append, hlength]
      cases flag with
      | false =>
          simp only [observe, extendRuns, Bool.false_eq_true, if_false]
          rw [List.forall₂_map_left_iff]
          refine ih.imp ?_
          intro interval run h
          by_cases hend : run.2 + 1 = (observations.map Prod.fst).length
          · rw [if_pos (h.isOpen_iff.mpr hend)]
            exact h.close hend
          · rw [if_neg (mt h.isOpen_iff.mp hend)]
            exact h.keep hend
      | true =>
          simp only [observe, extendRuns, if_true, any_open_iff ih]
          split
          · rw [List.forall₂_map_left_iff, List.forall₂_map_right_iff]
            refine ih.imp ?_
            intro interval run h
            by_cases hend : run.2 + 1 = (observations.map Prod.fst).length
            · rw [if_pos (h.isOpen_iff.mpr hend), if_pos hend]
              exact h.extend hend
            · rw [if_neg (mt h.isOpen_iff.mp hend), if_neg hend]
              exact h.keep hend
          · rename_i hnone
            have hclosed : ∀ run ∈ maximalRuns (observations.map Prod.snd),
                run.2 + 1 ≠ (observations.map Prod.fst).length := by
              intro run hmem hend
              exact hnone (List.any_eq_true.mpr ⟨run, hmem, by simpa using hend⟩)
            refine List.rel_append (keep_all ih hclosed) ?_
            exact .cons ⟨by simp, by simp, by simp⟩ .nil

end HealthGrid.Foundation
