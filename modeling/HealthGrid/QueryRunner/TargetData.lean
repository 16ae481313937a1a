import HealthGrid.Views.QueryRunner

/-!
# What the query runner does to the monitored data

A preview is meant to leave the data alone and a commit is meant to apply its
statement exactly when it reports success.  Both depend on the transaction
mode the connection was opened in, so both are settled per call with the exact
condition, and then for whole runs of requests on any number of targets.

Of the drivers this takes what they document: an `execute` that raises has
changed nothing, and a `commit` that raises on PostgreSQL has committed nothing.
-/

namespace HealthGrid.QueryRunner

open HealthGrid.Foundation HealthGrid.Db HealthGrid.Views

variable {Site Data : Type}

def Executes (drivers : Drivers) (calls : QueryRunnerCalls)
    (inst : RDSInstance) (sql statement : String) : Prop :=
  validateWriteStatement sql = .ok statement ∧
    (∃ conn, getQueryRunnerConnection drivers inst = .ok conn) ∧
    ∃ rowcount, calls.execute = .ok rowcount

/-- Off PostgreSQL, an executed preview must happen to change nothing. -/
def PreviewHarmless (drivers : Drivers) (effect : String → Data → Data)
    (calls : QueryRunnerCalls) (inst : RDSInstance) (sql : String)
    (data : Data) : Prop :=
  inst.engine = .postgresql ∨
    ∀ statement, Executes drivers calls inst sql statement →
      effect statement data = data

/-- Off PostgreSQL, `conn.commit()` must not fail after a statement that matters. -/
def CommitReported (drivers : Drivers) (effect : String → Data → Data)
    (calls : QueryRunnerCalls) (inst : RDSInstance) (sql : String)
    (data : Data) : Prop :=
  inst.engine = .postgresql ∨ calls.commit = .ok () ∨
    ∀ statement, Executes drivers calls inst sql statement →
      effect statement data = data

section Calls

variable {drivers : Drivers} {effect : String → Data → Data}
  {calls : QueryRunnerCalls} {inst : RDSInstance} {sql : String}
  {data : Data}

theorem executes_iff_prepare {statement : String} :
    Executes drivers calls inst sql statement ↔
      (∃ conn, prepare drivers inst sql = .ok (statement, conn)) ∧
        ∃ rowcount, calls.execute = .ok rowcount := by
  simp only [Executes, prepare_eq_ok]
  constructor
  · rintro ⟨hvalidate, ⟨conn, hconn⟩, hexecute⟩
    exact ⟨⟨conn, hvalidate, hconn⟩, hexecute⟩
  · rintro ⟨⟨conn, hvalidate, hconn⟩, hexecute⟩
    exact ⟨hvalidate, ⟨conn, hconn⟩, hexecute⟩

theorem not_executes_of_prepare_error {e : Exn}
    (h : prepare drivers inst sql = .error e) (statement : String) :
    ¬ Executes drivers calls inst sql statement := by
  rw [executes_iff_prepare, h]
  simp

theorem executes_prepared {statement body : String} {conn : ConnectArgs}
    (h : prepare drivers inst sql = .ok (statement, conn)) :
    Executes drivers calls inst sql body ↔
      body = statement ∧ ∃ rowcount, calls.execute = .ok rowcount := by
  rw [executes_iff_prepare, h]
  simp [eq_comm]

theorem prepared_autocommit {statement : String} {conn : ConnectArgs}
    (h : prepare drivers inst sql = .ok (statement, conn)) :
    conn.autocommit = true ↔ inst.engine ≠ .postgresql :=
  getQueryRunnerConnection_autocommit (prepare_eq_ok.mp h).2

theorem previewWriteQuery_data_iff :
    (previewWriteQuery drivers effect calls inst sql data).2 = data ↔
      PreviewHarmless drivers effect calls inst sql data := by
  rw [previewWriteQuery_data, PreviewHarmless]
  cases hprepare : prepare drivers inst sql with
  | error e =>
      have hnone : ∀ statement,
          ¬ Executes drivers calls inst sql statement :=
        not_executes_of_prepare_error hprepare
      simp [hnone]
  | ok prepared =>
      obtain ⟨statement, conn⟩ := prepared
      have hauto := prepared_autocommit hprepare
      simp only [executes_prepared hprepare]
      cases hexecute : calls.execute with
      | error message => simp
      | ok rowcount =>
          by_cases hengine : inst.engine = .postgresql
          · have hoff : conn.autocommit = false := by
              simpa [hengine] using hauto
            simp [hengine, hoff]
          · have hon : conn.autocommit = true := hauto.mpr hengine
            simp [hengine, hon]

theorem commitWriteQuery_ok {rowcount : Int}
    (h : (commitWriteQuery drivers effect calls inst sql data).1 =
      .ok rowcount) :
    ∃ statement, Executes drivers calls inst sql statement ∧
      (commitWriteQuery drivers effect calls inst sql data).2 =
        effect statement data := by
  rw [commitWriteQuery_run] at h ⊢
  cases hprepare : prepare drivers inst sql with
  | error e => simp [hprepare] at h
  | ok prepared =>
      obtain ⟨statement, conn⟩ := prepared
      simp only [hprepare] at h ⊢
      refine ⟨statement, ?_, ?_⟩
      · refine (executes_prepared hprepare).mpr ⟨rfl, ?_⟩
        cases hexecute : calls.execute with
        | error message => simp [hexecute] at h
        | ok n => exact ⟨n, rfl⟩
      · cases hexecute : calls.execute with
        | error message => simp [hexecute] at h
        | ok n =>
            cases hcommit : calls.commit with
            | error message => simp [hexecute, hcommit] at h
            | ok _ => rfl

theorem commitWriteQuery_error {e : Exn}
    (hreported : CommitReported drivers effect calls inst sql data)
    (h : (commitWriteQuery drivers effect calls inst sql data).1 =
      .error e) :
    (commitWriteQuery drivers effect calls inst sql data).2 = data := by
  rw [commitWriteQuery_run] at h ⊢
  cases hprepare : prepare drivers inst sql with
  | error e => rfl
  | ok prepared =>
      obtain ⟨statement, conn⟩ := prepared
      simp only [hprepare] at h ⊢
      have hauto := prepared_autocommit hprepare
      cases hexecute : calls.execute with
      | error message => rfl
      | ok n =>
          cases hcommit : calls.commit with
          | ok _ => simp [hexecute, hcommit] at h
          | error message =>
              dsimp only
              split
              · rename_i hon
                rcases hreported with hengine | hok | hsame
                · exact absurd hengine (hauto.mp hon)
                · simp [hcommit] at hok
                · exact hsame statement
                    ((executes_prepared hprepare).mpr ⟨rfl, n, hexecute⟩)
              · rfl

end Calls

/-! ## Runs of requests -/

inductive Request where
  | preview (calls : QueryRunnerCalls) (app : AppCalls) (user : Requester)
      (inst : RDSInstance) (sql : String)
  | commit (calls : QueryRunnerCalls) (app : AppCalls) (user : Requester)
      (inst : RDSInstance) (executionId : Nat) (now : Time)
  | discard (app : AppCalls) (user : Requester) (inst : RDSInstance)
      (executionId : Nat) (now : Time)

def Request.inst : Request → RDSInstance
  | .preview _ _ _ inst _ => inst
  | .commit _ _ _ inst _ _ => inst
  | .discard _ _ inst _ _ => inst

def handle [DecidableEq Site] (drivers : Drivers)
    (targets : Targets Site Data) :
    Request → Handler Site Data Unit
  | .preview calls app user inst sql =>
      previewQuery drivers targets calls app user inst sql
  | .commit calls app user inst executionId now =>
      commitQuery drivers targets calls app user inst executionId now
  | .discard app user inst executionId now =>
      discardQuery app user inst executionId now

inductive TargetCall where
  | preview (calls : QueryRunnerCalls) (inst : RDSInstance) (sql : String)
  | commit (calls : QueryRunnerCalls) (inst : RDSInstance) (sql : String)

def admitted (user : Requester) : Bool := user.canView && user.canRunQueries

def targetCall? (executions : List QueryRunnerExecution) :
    Request → Option TargetCall
  | .preview calls _ user inst sql =>
      if admitted user && user.mfaPassed then some (.preview calls inst sql)
      else none
  | .commit calls _ user inst executionId _ =>
      match ownPendingExecution user inst executionId executions with
      | .ok execution =>
          if admitted user && user.mfaPassed then
            some (.commit calls inst execution.sql)
          else none
      | .error _ => none
  | .discard .. => none

namespace TargetCall

def inst : TargetCall → RDSInstance
  | .preview _ inst _ => inst
  | .commit _ inst _ => inst

def run (drivers : Drivers) (effect : String → Data → Data)
    (data : Data) : TargetCall → Data
  | .preview calls inst sql =>
      (previewWriteQuery drivers effect calls inst sql data).2
  | .commit calls inst sql =>
      (commitWriteQuery drivers effect calls inst sql data).2

def committed (drivers : Drivers) (effect : String → Data → Data)
    (data : Data) : TargetCall → List String
  | .preview .. => []
  | .commit calls inst sql =>
      match (commitWriteQuery drivers effect calls inst sql data).1,
        validateWriteStatement sql with
      | .ok _, .ok statement => [statement]
      | _, _ => []

def Faithful (drivers : Drivers) (effect : String → Data → Data)
    (data : Data) : TargetCall → Prop
  | .preview calls inst sql =>
      PreviewHarmless drivers effect calls inst sql data
  | .commit calls inst sql =>
      CommitReported drivers effect calls inst sql data

theorem run_eq_apply_committed {drivers : Drivers}
    {effect : String → Data → Data} {data : Data} {call : TargetCall}
    (h : call.Faithful drivers effect data) :
    call.run drivers effect data =
      (call.committed drivers effect data).foldl
        (fun data statement => effect statement data) data := by
  cases call with
  | preview calls inst sql => exact previewWriteQuery_data_iff.mpr h
  | commit calls inst sql =>
      simp only [run, committed]
      cases hresult :
          (commitWriteQuery drivers effect calls inst sql data).1 with
      | error e => exact commitWriteQuery_error h hresult
      | ok rowcount =>
          obtain ⟨statement, hexecutes, hdata⟩ := commitWriteQuery_ok hresult
          simp [hexecutes.1, hdata]

theorem faithful_of_postgresql {drivers : Drivers}
    {effect : String → Data → Data} {data : Data} {call : TargetCall}
    (h : call.inst.engine = .postgresql) :
    call.Faithful drivers effect data := by
  cases call with
  | preview calls inst sql => exact .inl h
  | commit calls inst sql => exact .inl h

end TargetCall

section Requests

variable {drivers : Drivers} {targets : Targets Site Data}

theorem requireQueryRunner_ok {user : Requester} (h : admitted user = true)
    (s : QueryRunnerState Site Data) :
    requireQueryRunner user s = (.ok (), s) := by
  simp only [admitted, Bool.and_eq_true] at h
  simp [requireQueryRunner, h]

private theorem requireQueryRunner_run (user : Requester)
    (s : QueryRunnerState Site Data) :
    (∃ e, requireQueryRunner user s = (.error e, s)) ∧ admitted user = false ∨
      requireQueryRunner user s = (.ok (), s) ∧ admitted user = true := by
  unfold requireQueryRunner admitted
  cases user.canView <;> cases user.canRunQueries <;> simp

@[simp] theorem logAudit_data (app : AppCalls) (inst : RDSInstance)
    (user : Requester) (query : String) (result : AuditResult)
    (detail : String) (s : QueryRunnerState Site Data) :
    (logAudit app inst user query result detail s).2.data = s.data := by
  unfold logAudit
  cases app.audit <;> rfl

@[simp] theorem saveExecution_data (app : AppCalls) (executionId : Nat)
    (change : QueryRunnerExecution → QueryRunnerExecution)
    (s : QueryRunnerState Site Data) :
    (saveExecution app executionId change s).2.data = s.data := by
  unfold saveExecution
  cases app.save <;> rfl

@[simp] theorem createExecution_data (app : AppCalls) (user : Requester)
    (inst : RDSInstance) (statement : String) (rowcount : Int)
    (s : QueryRunnerState Site Data) :
    (createExecution app user inst statement rowcount s).2.data = s.data := by
  unfold createExecution
  cases app.save <;> rfl

variable [DecidableEq Site]

theorem handle_data (request : Request) (s : QueryRunnerState Site Data) :
    (handle drivers targets request s).2.data =
      match targetCall? s.executions request with
      | none => s.data
      | some call =>
          Function.update s.data (targets.site call.inst)
            (call.run drivers (targets.effect (targets.site call.inst))
              (s.data (targets.site call.inst))) := by
  cases request with
  | preview calls app user inst sql =>
      rcases requireQueryRunner_run user s with ⟨⟨e, hguard⟩, hno⟩ | ⟨hguard, hyes⟩
      · simp [handle, previewQuery, Call.bind_error hguard, targetCall?, hno]
      · rw [handle, previewQuery, Call.bind_ok hguard]
        cases hmfa : user.mfaPassed with
        | false => simp [targetCall?, hmfa]
        | true =>
            have htarget : targetCall? s.executions
                (.preview calls app user inst sql) =
                some (.preview calls inst sql) := by
              simp [targetCall?, hyes, hmfa]
            rw [htarget]
            simp only [Bool.not_true, Bool.false_eq_true, if_false,
              Call.tryExcept, Call.bind_run, onTarget, Call.zoom_run,
              TargetCall.run, TargetCall.inst]
            cases hresult : (previewWriteQuery drivers
                (targets.effect (targets.site inst)) calls inst sql
                (s.data (targets.site inst))).1 with
            | error e => cases e <;> simp
            | ok value =>
                obtain ⟨statement, rowcount⟩ := value
                cases hsave : app.save with
                | ok _ => cases haudit : app.audit <;>
                    simp [createExecution, logAudit, hsave, haudit]
                | error message => simp [createExecution, hsave]
  | commit calls app user inst executionId now =>
      rcases requireQueryRunner_run user s with ⟨⟨e, hguard⟩, hno⟩ | ⟨hguard, hyes⟩
      · rw [handle, commitQuery, Call.bind_error hguard]
        cases hown : ownPendingExecution user inst executionId s.executions <;>
          simp [targetCall?, hno, hown]
      · rw [handle, commitQuery, Call.bind_ok hguard,
          Call.bind_run, getOwnPendingExecution_run rfl]
        cases hown : ownPendingExecution user inst executionId
            s.executions with
        | error e => simp [targetCall?, hown]
        | ok execution =>
            cases hmfa : user.mfaPassed with
            | false => simp [targetCall?, hown, hmfa]
            | true =>
                have htarget : targetCall? s.executions
                    (.commit calls app user inst executionId now) =
                    some (.commit calls inst execution.sql) := by
                  simp [targetCall?, hown, hyes, hmfa]
                rw [htarget]
                simp only [Bool.not_true, Bool.false_eq_true, if_false,
                  Call.tryExcept, Call.bind_run, onTarget, Call.zoom_run,
                  TargetCall.run, TargetCall.inst]
                cases hresult : (commitWriteQuery drivers
                    (targets.effect (targets.site inst)) calls inst
                    execution.sql (s.data (targets.site inst))).1 with
                | ok rowcount =>
                    cases hsave : app.save with
                    | ok _ => cases haudit : app.audit <;>
                        simp [saveExecution, logAudit, hsave, haudit]
                    | error message => simp [saveExecution, hsave]
                | error e =>
                    cases e <;> cases hsave : app.save <;>
                      simp [saveExecution, hsave, Call.bind_run]
  | discard app user inst executionId now =>
      rcases requireQueryRunner_run user s with ⟨⟨e, hguard⟩, -⟩ | ⟨hguard, -⟩
      · simp [handle, discardQuery, Call.bind_error hguard, targetCall?]
      · rw [handle, discardQuery, Call.bind_ok hguard,
          Call.bind_run, getOwnPendingExecution_run rfl]
        cases hown : ownPendingExecution user inst executionId
            s.executions with
        | error e => simp [targetCall?]
        | ok execution =>
            cases hsave : app.save <;>
              simp [Call.bind_run, targetCall?, saveExecution, hsave]

end Requests

section Runs

variable [DecidableEq Site]

def Handles (drivers : Drivers) (targets : Targets Site Data)
    (s : QueryRunnerState Site Data) (request : Request)
    (t : QueryRunnerState Site Data) : Prop :=
  t = (handle drivers targets request s).2

def FaithfulRequest (drivers : Drivers) (targets : Targets Site Data)
    (s : QueryRunnerState Site Data) (request : Request) : Prop :=
  ∀ call, targetCall? s.executions request = some call →
    call.Faithful drivers (targets.effect (targets.site call.inst))
      (s.data (targets.site call.inst))

def serve (drivers : Drivers) (targets : Targets Site Data)
    (s : QueryRunnerState Site Data) (requests : List Request) :
    QueryRunnerState Site Data :=
  requests.foldl (fun s request => (handle drivers targets request s).2) s

def committedStatements (drivers : Drivers) (targets : Targets Site Data)
    (site : Site) : QueryRunnerState Site Data → List Request → List String
  | _, [] => []
  | s, request :: requests =>
      (match targetCall? s.executions request with
        | none => []
        | some call =>
            if targets.site call.inst = site then
              call.committed drivers (targets.effect site) (s.data site)
            else []) ++
      committedStatements drivers targets site
        (handle drivers targets request s).2 requests

variable {drivers : Drivers} {targets : Targets Site Data}
  {s t : QueryRunnerState Site Data} {requests : List Request}

theorem committedStatements_append (site : Site) (request : Request) :
    committedStatements drivers targets site s (requests ++ [request]) =
      committedStatements drivers targets site s requests ++
        committedStatements drivers targets site
          (serve drivers targets s requests) [request] := by
  induction requests generalizing s with
  | nil => simp [committedStatements, serve]
  | cons first rest ih =>
      simp only [List.cons_append, committedStatements, ih, List.append_assoc]
      rfl

theorem handled_serve (run : Run (Handles drivers targets) s requests t) :
    t = serve drivers targets s requests := by
  induction run with
  | refl => rfl
  | snoc _ hstep ih =>
      rw [serve, List.foldl_append]
      change _ = (handle drivers targets _ (serve drivers targets s _)).2
      rw [← ih]
      exact hstep

theorem handle_data_site {request : Request}
    (h : FaithfulRequest drivers targets s request) (site : Site) :
    (handle drivers targets request s).2.data site =
      (committedStatements drivers targets site s [request]).foldl
        (fun data statement => targets.effect site statement data)
        (s.data site) := by
  rw [handle_data]
  simp only [committedStatements, List.append_nil]
  cases hcall : targetCall? s.executions request with
  | none => rfl
  | some call =>
      dsimp only
      by_cases hsite : targets.site call.inst = site
      · subst hsite
        rw [Function.update_self, if_pos rfl]
        exact TargetCall.run_eq_apply_committed (h call hcall)
      · rw [Function.update_of_ne (Ne.symm hsite), if_neg hsite]
        rfl

theorem run_data
    (run : Run (Guarded (FaithfulRequest drivers targets)
      (Handles drivers targets)) s requests t) (site : Site) :
    t.data site =
      (committedStatements drivers targets site s requests).foldl
        (fun data statement => targets.effect site statement data)
        (s.data site) := by
  induction run with
  | refl => rfl
  | @snoc t u requests request hrun hstep ih =>
      obtain ⟨hfaithful, rfl⟩ := hstep
      have hserve := handled_serve (hrun.mono fun _ _ _ h => h.2)
      rw [committedStatements_append, ← hserve, List.foldl_append, ← ih]
      exact handle_data_site hfaithful site

omit [DecidableEq Site] in
theorem faithful_of_postgresql {request : Request}
    (hengine : request.inst.engine = .postgresql) :
    FaithfulRequest drivers targets s request := by
  intro call hcall
  refine TargetCall.faithful_of_postgresql ?_
  cases request with
  | preview calls app user inst sql =>
      simp only [targetCall?] at hcall
      split at hcall
      · cases hcall
        exact hengine
      · cases hcall
  | commit calls app user inst executionId now =>
      simp only [targetCall?] at hcall
      split at hcall
      · split at hcall
        · cases hcall
          exact hengine
        · cases hcall
      · cases hcall
  | discard => cases hcall

theorem run_of_postgresql
    (hengine : ∀ request ∈ requests, request.inst.engine = .postgresql) :
    Run (Guarded (FaithfulRequest drivers targets) (Handles drivers targets))
      s requests (serve drivers targets s requests) := by
  induction requests using List.reverseRecOn with
  | nil => exact .refl s
  | append_singleton front last ih =>
      have hlast := hengine last (by simp)
      have hfront := ih fun request hmem =>
        hengine request (List.mem_append_left _ hmem)
      rw [serve, List.foldl_append]
      exact .snoc hfront ⟨faithful_of_postgresql hlast, rfl⟩

end Runs

/--
A preview leaves the data alone exactly when it is harmless, and in a run
whose previews are harmless and whose commits report their failures the data
of every target is the result of the statements whose commit there succeeded,
in order.
-/
theorem queryRunner_data [DecidableEq Site] (drivers : Drivers)
    (targets : Targets Site Data) :
    (∀ site calls inst sql data,
      (previewWriteQuery drivers (targets.effect site) calls inst sql data).2 =
          data ↔
        PreviewHarmless drivers (targets.effect site) calls inst sql data) ∧
    ∀ s t requests,
      Run (Guarded (FaithfulRequest drivers targets) (Handles drivers targets))
        s requests t →
      ∀ site, t.data site =
        (committedStatements drivers targets site s requests).foldl
          (fun data statement => targets.effect site statement data)
          (s.data site) :=
  ⟨fun _ _ _ _ _ => previewWriteQuery_data_iff, fun _ _ _ => run_data⟩

def journal (statement : String) (applied : List String) : List String :=
  applied ++ [statement]

def quietCalls : QueryRunnerCalls := ⟨.ok 3, .ok (), .ok (), .ok ()⟩

def quietApp : AppCalls := ⟨.ok (), .ok ()⟩

def operator : Requester := ⟨7, false, true, true, true⟩

theorem mysql_preview_changes_data :
    ¬ ∀ (engine : Engine) (sql : String) (calls : QueryRunnerCalls),
      (previewWriteQuery openDrivers journal calls (sampleInstance engine) sql
        []).2 = [] := by
  intro h
  have hmysql := h .mysql "UPDATE orders SET paid = 1" quietCalls
  revert hmysql
  decide

def journals : Targets String (List String) where
  site inst := inst.host
  effect _ := journal

def paidOrders : List Request :=
  let orders := sampleInstance .postgresql
  [.preview quietCalls quietApp operator orders "UPDATE orders SET paid = 1;",
    .preview quietCalls quietApp operator orders "UPDATE orders SET paid = 0",
    .commit quietCalls quietApp operator orders 1 80,
    .discard quietApp operator orders 2 90,
    .preview quietCalls quietApp operator orders "INSERT INTO log VALUES (1)",
    .commit quietCalls quietApp operator orders 3 100]

theorem queryRunner_data_postgresql :
    (previewWriteQuery openDrivers journal quietCalls
        (sampleInstance .postgresql) "UPDATE orders SET paid = 1" []).2 = [] ∧
    (serve openDrivers journals ⟨fun _ => [], [], 1, []⟩ paidOrders).data
      "db.internal" =
        ["UPDATE orders SET paid = 1", "INSERT INTO log VALUES (1)"] := by
  have h := queryRunner_data openDrivers journals
  refine ⟨(h.1 "db.internal" _ _ _ _).mpr (.inl rfl), ?_⟩
  have hengine : ∀ request ∈ paidOrders,
      request.inst.engine = .postgresql := by decide
  rw [h.2 ⟨fun _ => [], [], 1, []⟩ _ _ (run_of_postgresql hengine)]
  decide

end HealthGrid.QueryRunner
