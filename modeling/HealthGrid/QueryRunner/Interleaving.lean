import HealthGrid.QueryRunner.TargetData
import Mathlib.Data.Fintype.Basic

/-!
# Concurrent commits and discards of one execution

Each request reads the execution as pending, then a commit runs its statement
on the target, then the new status is saved.  The steps of different requests
interleave.  The target is the journal of the statements applied to it, so
that applying a statement twice shows.  As for single calls, an `execute` that
raises has applied nothing, and a `commit` that raises on PostgreSQL neither.
-/

namespace HealthGrid.QueryRunner

open HealthGrid.Foundation HealthGrid.Db HealthGrid.Views

inductive Resolution where
  | commit
  | discard
  deriving DecidableEq, Repr

structure ResolveRequest where
  resolution : Resolution
  user : Requester
  deriving DecidableEq, Repr

inductive Phase where
  | waiting
  | loaded (sql : String)
  | ran (result : Except String Int)
  | finished
  deriving Repr

def Phase.inFlight : Phase → Bool
  | .loaded _ | .ran _ => true
  | .waiting | .finished => false

structure World (ρ : Type) where
  execution : QueryRunnerExecution
  target : List String
  phase : ρ → Phase

inductive StepInput (ρ : Type) where
  | read (r : ρ)
  | run (r : ρ) (calls : QueryRunnerCalls)
  | save (r : ρ) (now : Time)

variable {ρ : Type} [DecidableEq ρ]

def World.setPhase (w : World ρ) (r : ρ) (phase : Phase) : World ρ :=
  { w with phase := Function.update w.phase r phase }

@[simp] theorem World.setPhase_self (w : World ρ) (r : ρ) (phase : Phase) :
    (w.setPhase r phase).phase r = phase := by
  simp [World.setPhase]

theorem World.setPhase_of_ne (w : World ρ) {r r' : ρ} (phase : Phase)
    (h : r' ≠ r) : (w.setPhase r phase).phase r' = w.phase r' := by
  simp [World.setPhase, h]

@[simp] theorem World.setPhase_execution (w : World ρ) (r : ρ)
    (phase : Phase) : (w.setPhase r phase).execution = w.execution := rfl

@[simp] theorem World.setPhase_target (w : World ρ) (r : ρ) (phase : Phase) :
    (w.setPhase r phase).target = w.target := rfl

/-- The guards of a route up to the read of the pending execution. -/
def readPending (inst : RDSInstance) (request : ResolveRequest)
    (execution : QueryRunnerExecution) : Phase :=
  match ownPendingExecution request.user inst execution.pk [execution] with
  | .error _ => .finished
  | .ok loaded =>
      if admitted request.user &&
          (request.resolution == .discard || request.user.mfaPassed) then
        .loaded loaded.sql
      else .finished

/--
A commit request's call of `commit_write_query`.  Only a `ConnectionError` is
caught; any other exception ends the request with nothing saved.
-/
def runLoaded (drivers : Drivers) (inst : RDSInstance)
    (calls : QueryRunnerCalls) (sql : String) (target : List String) :
    Phase × List String :=
  match commitWriteQuery drivers journal calls inst sql target with
  | (.ok rowcount, target') => (.ran (.ok rowcount), target')
  | (.error (.connectionError message), target') =>
      (.ran (.error message), target')
  | (.error _, target') => (.finished, target')

def saveResult (request : ResolveRequest) (phase : Phase) (now : Time)
    (execution : QueryRunnerExecution) : Option QueryRunnerExecution :=
  match request.resolution, phase with
  | .commit, .ran (.ok rowcount) => some (markCommitted rowcount now execution)
  | .commit, .ran (.error message) => some (markFailed message now execution)
  | .discard, .loaded _ => some (markDiscarded now execution)
  | _, _ => none

def step (drivers : Drivers) (inst : RDSInstance)
    (requests : ρ → ResolveRequest) (w : World ρ) :
    StepInput ρ → Option (World ρ)
  | .read r =>
      match w.phase r with
      | .waiting => some
          (w.setPhase r (readPending inst (requests r) w.execution))
      | _ => none
  | .run r calls =>
      match (requests r).resolution, w.phase r with
      | .commit, .loaded sql =>
          let (phase, target) := runLoaded drivers inst calls sql w.target
          some ({ w with target := target }.setPhase r phase)
      | _, _ => none
  | .save r now =>
      (saveResult (requests r) (w.phase r) now w.execution).map
        fun execution =>
          { w with execution := execution }.setPhase r .finished

def World.start (execution : QueryRunnerExecution) : World ρ :=
  ⟨execution, [], fun _ => .waiting⟩

def bothDiscard (requests : ρ → ResolveRequest) (r r' : ρ) : Prop :=
  (requests r).resolution = .discard ∧ (requests r').resolution = .discard

/--
The guard on a step: a read that finds the execution pending happens only
while every request between its read and its save is a discard, as is the
reader; or while there is none.
-/
def NoOverlap (inst : RDSInstance) (requests : ρ → ResolveRequest)
    (w : World ρ) : StepInput ρ → Prop
  | .read r => (readPending inst (requests r) w.execution).inFlight = true →
      ∀ r', (w.phase r').inFlight = true → bothDiscard requests r r'
  | _ => True

instance [Fintype ρ] (inst : RDSInstance) (requests : ρ → ResolveRequest)
    (w : World ρ) : (input : StepInput ρ) → Decidable (NoOverlap inst requests w input)
  | .read r => inferInstanceAs (Decidable
      ((readPending inst (requests r) w.execution).inFlight = true →
        ∀ r', (w.phase r').inFlight = true →
          (requests r).resolution = .discard ∧
            (requests r').resolution = .discard))
  | .run .. | .save .. => inferInstanceAs (Decidable True)

/-! ## What each step can do -/

section Steps

variable {drivers : Drivers} {inst : RDSInstance}
  {requests : ρ → ResolveRequest} {w w' : World ρ}

theorem readPending_inFlight {request : ResolveRequest}
    {execution : QueryRunnerExecution}
    (h : (readPending inst request execution).inFlight = true) :
    execution.status = .pending ∧
      readPending inst request execution = .loaded execution.sql := by
  unfold readPending at h ⊢
  cases hown : ownPendingExecution request.user inst execution.pk
      [execution] with
  | error e => simp [hown, Phase.inFlight] at h
  | ok loaded =>
      obtain ⟨hmem, -, -, hstatus⟩ := ownPendingExecution_ok hown
      have hloaded : loaded = execution := List.mem_singleton.mp hmem
      subst hloaded
      refine ⟨hstatus, ?_⟩
      simp only [hown] at h ⊢
      split at h
      · rename_i hadmitted
        rw [if_pos hadmitted]
      · simp [Phase.inFlight] at h

theorem runLoaded_cases (drivers : Drivers) (hengine : inst.engine = .postgresql)
    (calls : QueryRunnerCalls) (sql : String) (target : List String) :
    (∃ rowcount statement,
        runLoaded drivers inst calls sql target =
          (.ran (.ok rowcount), target ++ [statement])) ∨
      ∃ phase, runLoaded drivers inst calls sql target = (phase, target) ∧
        (phase = .finished ∨ ∃ message, phase = .ran (.error message)) := by
  unfold runLoaded
  cases hrun : commitWriteQuery drivers journal calls inst sql target with
  | mk result target' =>
      cases result with
      | ok rowcount =>
          have hok : (commitWriteQuery drivers journal calls inst sql
              target).1 = .ok rowcount := by rw [hrun]
          obtain ⟨statement, -, hdata⟩ := commitWriteQuery_ok hok
          have htarget : target' = target ++ [statement] := by
            simpa [hrun, journal] using hdata
          exact .inl ⟨rowcount, statement, by rw [htarget]⟩
      | error e =>
          have herror : (commitWriteQuery drivers journal calls inst sql
              target).1 = .error e := by rw [hrun]
          have hdata := commitWriteQuery_error (.inl hengine) herror
          rw [hrun] at hdata
          simp only at hdata
          subst hdata
          right
          cases e <;> simp

theorem step_cases {input : StepInput ρ}
    (h : step drivers inst requests w input = some w') :
    (∃ r, input = .read r ∧ w.phase r = .waiting ∧
      w' = w.setPhase r (readPending inst (requests r) w.execution)) ∨
    (∃ r calls sql, input = .run r calls ∧
      (requests r).resolution = .commit ∧ w.phase r = .loaded sql ∧
      w' = { w with
          target := (runLoaded drivers inst calls sql w.target).2 }.setPhase r
        (runLoaded drivers inst calls sql w.target).1) ∨
    ∃ r now execution, input = .save r now ∧
      saveResult (requests r) (w.phase r) now w.execution = some execution ∧
      w' = { w with execution := execution }.setPhase r .finished := by
  cases input with
  | read r =>
      simp only [step] at h
      split at h
      · rename_i hphase
        exact .inl ⟨r, rfl, hphase, (Option.some.inj h).symm⟩
      · cases h
  | run r calls =>
      simp only [step] at h
      split at h
      · rename_i sql hcommit hphase
        exact .inr (.inl ⟨r, calls, sql, rfl, hcommit, hphase,
          (Option.some.inj h).symm⟩)
      · cases h
  | save r now =>
      simp only [step, Option.map_eq_some_iff] at h
      obtain ⟨execution, hsave, rfl⟩ := h
      exact .inr (.inr ⟨r, now, execution, rfl, hsave, rfl⟩)

theorem saveResult_cases {request : ResolveRequest} {phase : Phase}
    {now : Time} {execution saved : QueryRunnerExecution}
    (h : saveResult request phase now execution = some saved) :
    (∃ rowcount, request.resolution = .commit ∧
      phase = .ran (.ok rowcount) ∧ saved.status = .committed) ∨
    (∃ message, request.resolution = .commit ∧
      phase = .ran (.error message) ∧ saved.status = .failed) ∨
    ∃ sql, request.resolution = .discard ∧ phase = .loaded sql ∧
      saved.status = .discarded := by
  unfold saveResult at h
  split at h
  · rename_i _ rowcount hres
    cases h
    exact .inl ⟨rowcount, hres, rfl, rfl⟩
  · rename_i _ message hres
    cases h
    exact .inr (.inl ⟨message, hres, rfl, rfl⟩)
  · rename_i _ sql hres
    cases h
    exact .inr (.inr ⟨sql, hres, rfl, rfl⟩)
  · cases h

end Steps

/-! ## One request taken alone is the view -/

theorem readPending_loaded {inst : RDSInstance} {request : ResolveRequest}
    {execution : QueryRunnerExecution} {sql : String}
    (h : readPending inst request execution = .loaded sql) :
    sql = execution.sql ∧ admitted request.user = true ∧
      (request.resolution = .commit → request.user.mfaPassed = true) ∧
      ownPendingExecution request.user inst execution.pk [execution] =
        .ok execution := by
  unfold readPending at h
  cases hown : ownPendingExecution request.user inst execution.pk
      [execution] with
  | error e => simp [hown] at h
  | ok loaded =>
      obtain rfl : loaded = execution :=
        List.mem_singleton.mp (ownPendingExecution_ok hown).1
      simp only [hown] at h
      split at h
      · rename_i hadmitted
        simp only [Bool.and_eq_true, Bool.or_eq_true, beq_iff_eq] at hadmitted
        refine ⟨(Phase.loaded.inj h).symm, hadmitted.1, ?_, rfl⟩
        intro hcommit
        rcases hadmitted.2 with hdiscard | hmfa
        · simp [hcommit] at hdiscard
        · exact hmfa
      · cases h

section Alone

variable {Site : Type} [DecidableEq Site] {drivers : Drivers}
  {site : RDSInstance → Site} {inst : RDSInstance} {user : Requester}
  {execution : QueryRunnerExecution} {sql : String}
  {data : Site → List String} {nextPk : Nat} {auditLog : List AuditLog}
  {now : Time}

theorem commitQuery_alone {calls : QueryRunnerCalls}
    (h : readPending inst ⟨.commit, user⟩ execution = .loaded sql) :
    (commitQuery drivers ⟨site, fun _ => journal⟩ calls quietApp user inst
        execution.pk now ⟨data, [execution], nextPk, auditLog⟩).2.data
        (site inst) =
      (runLoaded drivers inst calls sql (data (site inst))).2 ∧
    (commitQuery drivers ⟨site, fun _ => journal⟩ calls quietApp user inst
        execution.pk now ⟨data, [execution], nextPk, auditLog⟩).2.executions =
      [(saveResult ⟨.commit, user⟩
        (runLoaded drivers inst calls sql (data (site inst))).1 now
        execution).getD execution] := by
  obtain ⟨rfl, hadmitted, hmfa, hown⟩ := readPending_loaded h
  have hpassed : user.mfaPassed = true := hmfa rfl
  have hguard := requireQueryRunner_ok hadmitted
    (⟨data, [execution], nextPk, auditLog⟩ :
      QueryRunnerState Site (List String))
  rw [commitQuery, Call.bind_ok hguard,
    Call.bind_ok (getOwnPendingExecution_run hown)]
  simp only [hpassed, Bool.not_true, Bool.false_eq_true, if_false,
    Call.tryExcept, Call.bind_run, onTarget, Call.zoom_run, runLoaded]
  cases hrun : commitWriteQuery drivers journal calls inst execution.sql
      (data (site inst)) with
  | mk result target' =>
      cases result with
      | ok rowcount =>
          simp [saveExecution, logAudit, saveResult, quietApp]
      | error e =>
          cases e <;>
            simp [saveExecution, logAudit, saveResult, Call.bind_run, quietApp]

omit [DecidableEq Site] in
theorem discardQuery_alone
    (h : readPending inst ⟨.discard, user⟩ execution = .loaded sql) :
    (discardQuery quietApp user inst execution.pk now
        ⟨data, [execution], nextPk, auditLog⟩).2.executions =
      [(saveResult ⟨.discard, user⟩ (.loaded sql) now execution).getD
        execution] := by
  obtain ⟨rfl, hadmitted, -, hown⟩ := readPending_loaded h
  have hguard := requireQueryRunner_ok hadmitted
    (⟨data, [execution], nextPk, auditLog⟩ :
      QueryRunnerState Site (List String))
  rw [discardQuery, Call.bind_ok hguard,
    Call.bind_ok (getOwnPendingExecution_run hown)]
  simp [Call.bind_run, saveExecution, logAudit, saveResult, quietApp]

end Alone

/-! ## The stages of a run without overlap -/

def Busy (w : World ρ) (r : ρ) : Prop := (w.phase r).inFlight = true

omit [DecidableEq ρ] in
theorem busy_of_loaded {w : World ρ} {r : ρ} {sql : String}
    (h : w.phase r = .loaded sql) : Busy w r := by
  simp [Busy, h, Phase.inFlight]

omit [DecidableEq ρ] in
theorem busy_of_ran {w : World ρ} {r : ρ} {result : Except String Int}
    (h : w.phase r = .ran result) : Busy w r := by
  simp [Busy, h, Phase.inFlight]

theorem busy_setPhase {w : World ρ} {r r' : ρ} {phase : Phase}
    (h : Busy (w.setPhase r phase) r') :
    r' = r ∧ phase.inFlight = true ∨ r' ≠ r ∧ Busy w r' := by
  by_cases hr : r' = r
  · subst hr
    exact .inl ⟨rfl, by simpa [Busy] using h⟩
  · exact .inr ⟨hr, by simpa [Busy, World.setPhase_of_ne _ _ hr] using h⟩

/--
Where a run without overlap can be: only discards in flight, one commit that
has read, one commit that has its answer, or nothing in flight any more.
-/
inductive Stage (requests : ρ → ResolveRequest) (w : World ρ) : Prop
  | collecting
      (discards : ∀ r, Busy w r → (requests r).resolution = .discard)
      (unapplied : w.target = [])
      (status : w.execution.status = .pending ∨
        w.execution.status = .discarded)
  | committing (r : ρ) (sql : String) (alone : ∀ r', Busy w r' → r' = r)
      (commit : (requests r).resolution = .commit)
      (loaded : w.phase r = .loaded sql)
      (unapplied : w.target = [])
      (status : w.execution.status = .pending)
  | answered (r : ρ) (result : Except String Int)
      (alone : ∀ r', Busy w r' → r' = r)
      (commit : (requests r).resolution = .commit)
      (ran : w.phase r = .ran result)
      (applied : (∃ rowcount, result = .ok rowcount) ∧
          (∃ statement, w.target = [statement]) ∨
        (∃ message, result = .error message) ∧ w.target = [])
      (status : w.execution.status = .pending)
  | closed (idle : ∀ r, ¬ Busy w r)
      (resolved : w.execution.status ≠ .pending)
      (applied : w.execution.status = .committed ↔ w.target ≠ [])
      (once : w.target.length ≤ 1)

namespace Stage

variable {drivers : Drivers} {inst : RDSInstance}
  {requests : ρ → ResolveRequest} {w w' : World ρ}

omit [DecidableEq ρ] in
theorem start {execution : QueryRunnerExecution}
    (h : execution.status = .pending) :
    Stage requests (World.start execution) := by
  refine .collecting ?_ rfl (.inl h)
  intro r hbusy
  simp [World.start, Busy, Phase.inFlight] at hbusy

theorem stop (hw : Stage requests w) {r : ρ} {phase : Phase}
    (hidle : ¬ Busy w r) (hphase : phase.inFlight = false) :
    Stage requests (w.setPhase r phase) := by
  have hbusy : ∀ r', Busy (w.setPhase r phase) r' → Busy w r' := by
    intro r' h
    rcases busy_setPhase h with ⟨-, hin⟩ | ⟨-, hold⟩
    · simp [hphase] at hin
    · exact hold
  have hne : ∀ r', Busy w r' → r' ≠ r := by
    rintro r' h rfl
    exact hidle h
  cases hw with
  | collecting discards unapplied status =>
      exact .collecting (fun r' h => discards r' (hbusy r' h)) unapplied status
  | committing r₀ sql alone commit loaded unapplied status =>
      have hr₀ := hne r₀ (busy_of_loaded loaded)
      exact .committing r₀ sql (fun r' h => alone r' (hbusy r' h)) commit
        (by rw [World.setPhase_of_ne _ _ hr₀, loaded]) unapplied status
  | answered r₀ result alone commit ran applied status =>
      have hr₀ := hne r₀ (busy_of_ran ran)
      exact .answered r₀ result (fun r' h => alone r' (hbusy r' h)) commit
        (by rw [World.setPhase_of_ne _ _ hr₀, ran]) applied status
  | closed idle resolved applied once =>
      exact .closed (fun r' h => idle r' (hbusy r' h)) resolved applied once

theorem read (hw : Stage requests w) {r : ρ} (hwaiting : w.phase r = .waiting)
    (hguard : NoOverlap inst requests w (.read r)) :
    Stage requests
      (w.setPhase r (readPending inst (requests r) w.execution)) := by
  have hidle : ¬ Busy w r := by simp [Busy, hwaiting, Phase.inFlight]
  by_cases hload : (readPending inst (requests r) w.execution).inFlight = true
  swap
  · exact hw.stop hidle (by simpa using hload)
  obtain ⟨hpending, hloaded⟩ := readPending_inFlight hload
  have hboth := hguard hload
  cases hw with
  | collecting discards unapplied status =>
      cases hres : (requests r).resolution with
      | discard =>
          refine .collecting ?_ unapplied status
          intro r' h
          rcases busy_setPhase h with ⟨rfl, -⟩ | ⟨-, hold⟩
          · exact hres
          · exact discards r' hold
      | commit =>
          -- a commit reads only while nobody is in flight
          refine .committing r w.execution.sql ?_ hres ?_ unapplied hpending
          · intro r' h
            rcases busy_setPhase h with ⟨rfl, -⟩ | ⟨-, hold⟩
            · rfl
            · have hdiscard := (hboth r' hold).1
              simp [hres] at hdiscard
          · rw [World.setPhase_self, hloaded]
  | committing r₀ sql alone commit loaded unapplied status =>
      have hdiscard := (hboth r₀ (busy_of_loaded loaded)).2
      simp [commit] at hdiscard
  | answered r₀ result alone commit ran applied status =>
      have hdiscard := (hboth r₀ (busy_of_ran ran)).2
      simp [commit] at hdiscard
  | closed idle resolved applied once => exact absurd hpending resolved

theorem run (hw : Stage requests w) (hengine : inst.engine = .postgresql)
    {r : ρ} {calls : QueryRunnerCalls} {sql : String}
    (hcommit : (requests r).resolution = .commit)
    (hphase : w.phase r = .loaded sql) :
    Stage requests
      ({ w with
          target := (runLoaded drivers inst calls sql w.target).2 }.setPhase r
        (runLoaded drivers inst calls sql w.target).1) := by
  have hbusy := busy_of_loaded hphase
  cases hw with
  | collecting discards unapplied status =>
      have hdiscard := discards r hbusy
      simp [hcommit] at hdiscard
  | committing r₀ sql₀ alone commit loaded unapplied status =>
      obtain rfl := alone r hbusy
      have honly : ∀ phase target r', Busy (({ w with target := target }
          : World ρ).setPhase r phase) r' → r' = r := by
        intro phase target r' h
        rcases busy_setPhase h with ⟨rfl, -⟩ | ⟨-, hold⟩
        · rfl
        · exact alone r' hold
      rcases runLoaded_cases drivers hengine calls sql w.target
        with ⟨rowcount, statement, hrun⟩ | ⟨phase, hrun, hend⟩
      · rw [hrun]
        refine .answered r (.ok rowcount) (honly _ _) hcommit (by simp)
          (.inl ⟨⟨rowcount, rfl⟩, statement, ?_⟩) status
        simp [unapplied]
      · rw [hrun]
        rcases hend with rfl | ⟨message, rfl⟩
        · refine .collecting ?_ unapplied (.inl status)
          intro r' h
          obtain rfl := honly _ _ r' h
          simp [Busy, Phase.inFlight] at h
        · exact .answered r (.error message) (honly _ _) hcommit (by simp)
            (.inr ⟨⟨message, rfl⟩, unapplied⟩) status
  | answered r₀ result alone commit ran applied status =>
      obtain rfl := alone r hbusy
      simp [hphase] at ran
  | closed idle resolved applied once => exact absurd hbusy (idle r)

theorem save (hw : Stage requests w) {r : ρ} {now : Time}
    {saved : QueryRunnerExecution}
    (hsave : saveResult (requests r) (w.phase r) now w.execution =
      some saved) :
    Stage requests ({ w with execution := saved }.setPhase r .finished) := by
  have hrest : ∀ r', Busy (({ w with execution := saved } : World ρ).setPhase
      r .finished) r' → r' ≠ r ∧ Busy w r' := by
    intro r' h
    rcases busy_setPhase h with ⟨-, hin⟩ | hold
    · simp [Phase.inFlight] at hin
    · exact hold
  rcases saveResult_cases hsave with
    ⟨rowcount, hres, hphase, hstatus⟩ | ⟨message, hres, hphase, hstatus⟩ |
      ⟨sql, hres, hphase, hstatus⟩
  · have hbusy := busy_of_ran hphase
    cases hw with
    | collecting discards _ _ => simp [discards r hbusy] at hres
    | committing r₀ sql alone commit loaded _ _ =>
        obtain rfl := alone r hbusy
        simp [hphase] at loaded
    | answered r₀ result alone commit ran applied status =>
        obtain rfl := alone r hbusy
        obtain rfl : Except.ok rowcount = result := by simpa [hphase] using ran
        rcases applied with ⟨-, statement, htarget⟩ | ⟨⟨m, hm⟩, -⟩
        · refine .closed ?_ (by simp [hstatus]) (by simp [hstatus, htarget])
            (by simp [htarget])
          intro r' h
          exact (hrest r' h).1 (alone r' (hrest r' h).2)
        · cases hm
    | closed idle _ _ _ => exact absurd hbusy (idle r)
  · have hbusy := busy_of_ran hphase
    cases hw with
    | collecting discards _ _ => simp [discards r hbusy] at hres
    | committing r₀ sql alone commit loaded _ _ =>
        obtain rfl := alone r hbusy
        simp [hphase] at loaded
    | answered r₀ result alone commit ran applied status =>
        obtain rfl := alone r hbusy
        obtain rfl : Except.error message = result := by
          simpa [hphase] using ran
        rcases applied with ⟨⟨n, hn⟩, -⟩ | ⟨-, htarget⟩
        · cases hn
        · refine .closed ?_ (by simp [hstatus]) (by simp [hstatus, htarget])
            (by simp [htarget])
          intro r' h
          exact (hrest r' h).1 (alone r' (hrest r' h).2)
    | closed idle _ _ _ => exact absurd hbusy (idle r)
  · have hbusy := busy_of_loaded hphase
    cases hw with
    | collecting discards unapplied status =>
        exact .collecting (fun r' h => discards r' (hrest r' h).2) unapplied
          (.inr hstatus)
    | committing r₀ sql₀ alone commit loaded _ _ =>
        obtain rfl := alone r hbusy
        simp [hres] at commit
    | answered r₀ result alone commit ran _ _ =>
        obtain rfl := alone r hbusy
        simp [hres] at commit
    | closed idle _ _ _ => exact absurd hbusy (idle r)

theorem step {input : StepInput ρ} (hengine : inst.engine = .postgresql)
    (hw : Stage requests w) (hguard : NoOverlap inst requests w input)
    (hstep : QueryRunner.step drivers inst requests w input = some w') :
    Stage requests w' := by
  rcases step_cases hstep with
    ⟨r, rfl, hwaiting, rfl⟩ | ⟨r, calls, sql, rfl, hcommit, hphase, rfl⟩ |
      ⟨r, now, saved, rfl, hsave, rfl⟩
  · exact hw.read hwaiting hguard
  · exact hw.run hengine hcommit hphase
  · exact hw.save hsave

omit [DecidableEq ρ] in
theorem target_length_le (hw : Stage requests w) : w.target.length ≤ 1 := by
  cases hw with
  | collecting _ unapplied _ => simp [unapplied]
  | committing _ _ _ _ _ unapplied _ => simp [unapplied]
  | answered _ _ _ _ _ applied _ =>
      rcases applied with ⟨-, statement, htarget⟩ | ⟨-, htarget⟩ <;>
        simp [htarget]
  | closed _ _ _ once => exact once

omit [DecidableEq ρ] in
theorem committed_iff (hw : Stage requests w) (hidle : ∀ r, ¬ Busy w r) :
    w.execution.status = .committed ↔ w.target ≠ [] := by
  cases hw with
  | collecting _ unapplied status =>
      rcases status with hstatus | hstatus <;> simp [hstatus, unapplied]
  | committing r _ _ _ loaded _ _ =>
      exact absurd (busy_of_loaded loaded) (hidle r)
  | answered r _ _ _ ran _ _ => exact absurd (busy_of_ran ran) (hidle r)
  | closed _ _ applied _ => exact applied

theorem status_stable {input : StepInput ρ} (hw : Stage requests w)
    (hresolved : w.execution.status ≠ .pending)
    (hstep : QueryRunner.step drivers inst requests w input = some w') :
    w'.execution.status = w.execution.status := by
  rcases step_cases hstep with
    ⟨r, rfl, -, rfl⟩ | ⟨r, calls, sql, rfl, -, -, rfl⟩ |
      ⟨r, now, saved, rfl, hsave, rfl⟩
  · rfl
  · rfl
  · -- a save by a commit would need the status to be pending still
    rcases saveResult_cases hsave with
      ⟨rowcount, hres, hphase, -⟩ | ⟨message, hres, hphase, -⟩ |
        ⟨sql, hres, hphase, hstatus⟩
    · have hbusy := busy_of_ran hphase
      cases hw with
      | collecting discards _ _ => simp [discards r hbusy] at hres
      | committing _ _ _ _ _ _ status => exact absurd status hresolved
      | answered _ _ _ _ _ _ status => exact absurd status hresolved
      | closed idle _ _ _ => exact absurd hbusy (idle r)
    · have hbusy := busy_of_ran hphase
      cases hw with
      | collecting discards _ _ => simp [discards r hbusy] at hres
      | committing _ _ _ _ _ _ status => exact absurd status hresolved
      | answered _ _ _ _ _ _ status => exact absurd status hresolved
      | closed idle _ _ _ => exact absurd hbusy (idle r)
    · have hbusy := busy_of_loaded hphase
      cases hw with
      | collecting _ _ status =>
          rcases status with hpending | hdiscarded
          · exact absurd hpending hresolved
          · simp [hstatus, hdiscarded]
      | committing _ _ _ _ _ _ status => exact absurd status hresolved
      | answered _ _ _ _ _ _ status => exact absurd status hresolved
      | closed idle _ _ _ => exact absurd hbusy (idle r)

end Stage

abbrev SettledRun (drivers : Drivers) (inst : RDSInstance)
    (requests : ρ → ResolveRequest) :=
  Run (Guarded (NoOverlap inst requests) (Enabled (step drivers inst requests)))

/--
In every run whose reads meet the guard, the statement is applied at most once,
the status never changes after it has left `pending`, and with no request in
flight it is `committed` exactly when the statement was applied.
-/
theorem execution_resolved_once (drivers : Drivers) (inst : RDSInstance)
    (requests : ρ → ResolveRequest) (execution : QueryRunnerExecution)
    (hengine : inst.engine = .postgresql)
    (hpending : execution.status = .pending) (inputs : List (StepInput ρ))
    (w : World ρ)
    (run : SettledRun drivers inst requests (World.start execution) inputs w) :
    w.target.length ≤ 1 ∧
    (∀ later w', SettledRun drivers inst requests w later w' →
      w.execution.status ≠ .pending →
      w'.execution.status = w.execution.status) ∧
    ((∀ r, ¬ Busy w r) →
      (w.execution.status = .committed ↔ w.target ≠ [])) := by
  have hstep : ∀ u input v, Stage requests u →
      Guarded (NoOverlap inst requests) (Enabled (step drivers inst requests))
        u input v → Stage requests v :=
    fun _ _ _ hu h => hu.step hengine h.1 h.2
  have hw : Stage requests w :=
    run.invariant (Stage requests) hstep (Stage.start hpending)
  refine ⟨hw.target_length_le, ?_, hw.committed_iff⟩
  intro later w' hrun hresolved
  have hlast := hrun.invariant
    (fun v => Stage requests v ∧ v.execution.status = w.execution.status)
    (fun u input v hu h => ⟨hstep u input v hu.1 h,
      (hu.1.status_stable (hu.2 ▸ hresolved) h.2).trans hu.2⟩)
    ⟨hw, rfl⟩
  exact hlast.2

def pendingExecution : QueryRunnerExecution :=
  ⟨4, 1, some 7, "UPDATE orders SET paid = 1", .pending, some 3, "", none⟩

def doubleClick : Fin 2 → ResolveRequest := fun _ => ⟨.commit, operator⟩

theorem double_click_commits_twice :
    ¬ ∀ (inputs : List (StepInput (Fin 2))) (w : World (Fin 2)),
      Run (Enabled (step openDrivers (sampleInstance .postgresql) doubleClick))
        (World.start pendingExecution) inputs w →
      w.target.length ≤ 1 := by
  intro h
  let inputs : List (StepInput (Fin 2)) :=
    [.read 0, .read 1, .run 0 quietCalls, .run 1 quietCalls]
  let last := execute
    (step openDrivers (sampleInstance .postgresql) doubleClick)
    (World.start pendingExecution) inputs
  have htwice : last.map (·.target.length) = some 2 := by decide
  obtain ⟨w, hw, hlength⟩ := Option.map_eq_some_iff.mp htwice
  have honce := h inputs w (run_of_execute hw)
  omega

theorem execution_resolved_once_in_turn :
    ∃ inputs w, SettledRun openDrivers (sampleInstance .postgresql) doubleClick
        (World.start pendingExecution) inputs w ∧
      w.execution.status = .committed ∧ w.target.length ≤ 1 := by
  -- the second click reads after the first has saved, and finds no pending row
  let inputs : List (StepInput (Fin 2)) :=
    [.read 0, .run 0 quietCalls, .save 0 90, .read 1]
  let last := execute (fun w input =>
    if NoOverlap (sampleInstance .postgresql) doubleClick w input then
      step openDrivers (sampleInstance .postgresql) doubleClick w input
    else none) (World.start pendingExecution) inputs
  have hstatus : last.map (·.execution.status) = some .committed := by decide
  obtain ⟨w, hw, hcommitted⟩ := Option.map_eq_some_iff.mp hstatus
  have run := run_of_execute_guarded hw
  exact ⟨inputs, w, run, hcommitted,
    (execution_resolved_once openDrivers _ doubleClick pendingExecution rfl rfl
      inputs w run).1⟩

end HealthGrid.QueryRunner
