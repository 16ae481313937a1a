import HealthGrid.Kill.SessionContract
import HealthGrid.Views.Kill

/-!
# Who terminated what

The kill routes against a server whose statements answer from a script.  Kills
take effect one by one and stay done when a later statement raises; the audit
row and the marks on incidents are written only after all of them returned.
-/

namespace HealthGrid.Kill

open HealthGrid.Foundation HealthGrid.Db HealthGrid.Views.Kill

inductive KillOutcome where
  | terminated
  | notTerminated
  | sqlError (message : String)
  deriving DecidableEq, Repr

def KillOutcome.raises : KillOutcome → Bool
  | .sqlError _ => true
  | _ => false

/-- Scripts for the three statements and what has been terminated so far. -/
structure ScriptedServer where
  counts : List (Except String Nat)
  kills : List (Except String Unit)
  outcomes : List KillOutcome
  terminated : List Int

namespace ScriptedServer

def nextOutcome (server : ScriptedServer) : KillOutcome :=
  server.outcomes.headD .notTerminated

def advance (server : ScriptedServer) (pid : Int) : ScriptedServer :=
  { server with
    outcomes := server.outcomes.tail
    terminated := server.terminated ++
      if server.nextOutcome = .terminated then [pid] else [] }

end ScriptedServer

def scriptServer : TerminationServer ScriptedServer where
  countSessions _ _ := fun server =>
    (server.counts.headD (.ok 0), { server with counts := server.counts.tail })
  kill pid := fun server =>
    match server.kills with
    | .ok () :: kills =>
        (.ok (), { server with
          kills := kills
          terminated := server.terminated ++ [pid] })
    | .error message :: kills =>
        (.error message, { server with kills := kills })
    | [] => (.error "Unknown thread id", server)
  guardedTerminate _ _ pid := fun server =>
    (match server.nextOutcome with
      | .terminated => .ok true
      | .notTerminated => .ok false
      | .sqlError message => .error message,
      server.advance pid)

/-! ## The statements of one request -/

def plan : List Int → List KillOutcome → List (Int × KillOutcome)
  | [], _ => []
  | pid :: pids, outcomes =>
      (pid, outcomes.headD .notTerminated) :: plan pids outcomes.tail

def reached (entries : List (Int × KillOutcome)) : List (Int × KillOutcome) :=
  entries.takeWhile fun entry => !entry.2.raises

def terminatedBy (entries : List (Int × KillOutcome)) : List Int :=
  ((reached entries).filter fun entry => entry.2 == .terminated).map Prod.fst

def lastOutcome : List (Int × KillOutcome) → Int → Option KillOutcome
  | [], _ => none
  | (pid, outcome) :: entries, other =>
      (lastOutcome entries other).or (if pid = other then some outcome else none)

def answers : List (Int × KillOutcome) → Dict Int Bool → Dict Int Bool
  | [], results => results
  | (pid, outcome) :: entries, results =>
      answers entries (results.set pid (outcome == .terminated))

theorem reached_cons {pid : Int} {outcome : KillOutcome}
    (entries : List (Int × KillOutcome)) (h : outcome.raises = false) :
    reached ((pid, outcome) :: entries) =
      (pid, outcome) :: reached entries :=
  List.takeWhile_cons_of_pos (by simp [h])

theorem reached_raises {pid : Int} {outcome : KillOutcome}
    (entries : List (Int × KillOutcome)) (h : outcome.raises = true) :
    reached ((pid, outcome) :: entries) = [] :=
  List.takeWhile_cons_of_neg (by simp [h])

theorem terminatedBy_cons {pid : Int} {outcome : KillOutcome}
    (entries : List (Int × KillOutcome)) (h : outcome.raises = false) :
    terminatedBy ((pid, outcome) :: entries) =
      (if outcome = .terminated then [pid] else []) ++
        terminatedBy entries := by
  unfold terminatedBy
  rw [reached_cons entries h]
  by_cases hterminated : outcome = .terminated
  · rw [List.filter_cons_of_pos (by simp [hterminated]), if_pos hterminated]
    rfl
  · rw [List.filter_cons_of_neg (by simp [hterminated]), if_neg hterminated]
    rfl

theorem mem_terminatedBy {entries : List (Int × KillOutcome)} {pid : Int} :
    pid ∈ terminatedBy entries ↔ (pid, .terminated) ∈ reached entries := by
  unfold terminatedBy
  rw [List.mem_map]
  constructor
  · rintro ⟨⟨pid', outcome⟩, hmem, rfl⟩
    rw [List.mem_filter, beq_iff_eq] at hmem
    obtain ⟨hreached, rfl⟩ := hmem
    exact hreached
  · intro hmem
    exact ⟨(pid, .terminated), List.mem_filter.mpr ⟨hmem, rfl⟩, rfl⟩

theorem answers_get? (entries : List (Int × KillOutcome))
    (results : Dict Int Bool) (pid : Int) :
    (answers entries results).get? pid =
      ((lastOutcome entries pid).map (· == .terminated)).or
        (results.get? pid) := by
  induction entries generalizing results with
  | nil => rfl
  | cons entry entries ih =>
      obtain ⟨other, outcome⟩ := entry
      rw [answers, ih, lastOutcome, Dict.get?_set]
      cases lastOutcome entries pid with
      | some last => rfl
      | none =>
          by_cases heq : other = pid
          · simp [heq]
          · simp [heq, Ne.symm heq]

theorem mem_answered {results : Dict Int Bool} {pid : Int} {answer : Bool} :
    pid ∈ answered results answer ↔ results.get? pid = some answer := by
  rw [Dict.get?_eq_some_iff, answered, List.mem_map]
  constructor
  · rintro ⟨⟨pid', value⟩, hmem, rfl⟩
    rw [List.mem_filter, beq_iff_eq] at hmem
    obtain ⟨hentry, rfl⟩ := hmem
    exact hentry
  · intro hmem
    exact ⟨(pid, answer), List.mem_filter.mpr ⟨hmem, by simp⟩, rfl⟩

theorem mem_answered_answers {entries : List (Int × KillOutcome)} {pid : Int} :
    pid ∈ answered (answers entries .empty) true ↔
      lastOutcome entries pid = some .terminated := by
  have hempty : (Dict.empty : Dict Int Bool).get? pid = none := rfl
  rw [mem_answered, answers_get?, hempty, Option.or_none,
    Option.map_eq_some_iff]
  constructor
  · rintro ⟨outcome, hlast, hterminated⟩
    rw [hlast, beq_iff_eq.mp hterminated]
  · intro hlast
    exact ⟨.terminated, hlast, rfl⟩

/-! ## What the two functions do to the scripted server -/

section Effects

variable (conn : ConnectArgs) (allowReplication : Bool) {s : ScriptedServer}

theorem killGuarded_ok (pid : Int) (h : s.nextOutcome.raises = false) :
    killGuarded scriptServer conn allowReplication pid s =
      (.ok (s.nextOutcome == .terminated), s.advance pid) := by
  unfold killGuarded runStatement scriptServer
  dsimp only
  cases houtcome : s.nextOutcome with
  | terminated => rfl
  | notTerminated => rfl
  | sqlError message =>
      rw [houtcome] at h
      cases h

theorem killGuarded_error (pid : Int) (h : s.nextOutcome.raises = true) :
    ∃ message, killGuarded scriptServer conn allowReplication pid s =
      (.error (.driverError message), s.advance pid) := by
  unfold killGuarded runStatement scriptServer
  dsimp only
  cases houtcome : s.nextOutcome with
  | terminated =>
      rw [houtcome] at h
      cases h
  | notTerminated =>
      rw [houtcome] at h
      cases h
  | sqlError message => exact ⟨message, rfl⟩

/--
The loop raises exactly when a statement does, and what was terminated before
stays terminated.
-/
theorem killLoop_script (pids : List Int) (results : Dict Int Bool)
    (s : ScriptedServer) :
    ∃ s' : ScriptedServer,
      s'.terminated = s.terminated ++ terminatedBy (plan pids s.outcomes) ∧
      ((reached (plan pids s.outcomes) = plan pids s.outcomes ∧
          killLoop (killGuarded scriptServer conn allowReplication) pids
            results s = (.ok (answers (plan pids s.outcomes) results), s')) ∨
        (reached (plan pids s.outcomes) ≠ plan pids s.outcomes ∧
          ∃ message,
            killLoop (killGuarded scriptServer conn allowReplication) pids
              results s = (.error (.driverError message), s'))) := by
  induction pids generalizing results s with
  | nil => exact ⟨s, (List.append_nil _).symm, .inl ⟨rfl, rfl⟩⟩
  | cons pid pids ih =>
      change ∃ s' : ScriptedServer, s'.terminated = s.terminated ++ terminatedBy
        ((pid, s.nextOutcome) :: plan pids (s.advance pid).outcomes) ∧ _
      cases hraises : s.nextOutcome.raises with
      | false =>
          have hstep := killGuarded_ok conn allowReplication pid hraises
          obtain ⟨s', hterminated, hloop⟩ := ih
            (results.set pid (s.nextOutcome == .terminated)) (s.advance pid)
          refine ⟨s', ?_, ?_⟩
          · rw [hterminated, terminatedBy_cons _ hraises, ← List.append_assoc]
            rfl
          · have hreached : reached (plan (pid :: pids) s.outcomes) =
                (pid, s.nextOutcome) ::
                  reached (plan pids (s.advance pid).outcomes) :=
              reached_cons _ hraises
            rw [killLoop, Call.bind_ok hstep, hreached]
            rcases hloop with ⟨hall, hok⟩ | ⟨hsome, herror⟩
            · rw [hall]
              exact .inl ⟨rfl, hok⟩
            · refine .inr ⟨?_, herror⟩
              intro heq
              exact hsome (List.cons.inj heq).2
      | true =>
          obtain ⟨message, hstep⟩ :=
            killGuarded_error conn allowReplication pid hraises
          have hreached : reached (plan (pid :: pids) s.outcomes) = [] :=
            reached_raises _ hraises
          have hnot : s.nextOutcome ≠ .terminated := by
            intro heq
            rw [heq] at hraises
            cases hraises
          refine ⟨s.advance pid, ?_, .inr ⟨?_, message, Call.bind_error hstep⟩⟩
          · rw [terminatedBy, reached_raises _ hraises,
              ScriptedServer.advance, if_neg hnot]
            rfl
          · rw [hreached]
            exact (List.cons_ne_nil _ _).symm

theorem killPid_script (drivers : Drivers) (inst : RDSInstance) (pid : Int)
    (s : ScriptedServer) :
    ((killPid scriptServer drivers inst pid allowReplication s).1 = .ok true ∧
        (killPid scriptServer drivers inst pid allowReplication s).2.terminated =
          s.terminated ++ [pid]) ∨
      (killPid scriptServer drivers inst pid allowReplication s).2.terminated =
        s.terminated := by
  cases hconn : getConnection drivers inst with
  | error e =>
      unfold killPid
      rw [hconn, Call.bind_error (Call.ofExcept_run _ s)]
      exact .inr rfl
  | ok conn =>
      by_cases hengine : inst.engine = .postgresql
      · rw [killPid_postgresql scriptServer hconn hengine]
        cases hraises : s.nextOutcome.raises with
        | true =>
            obtain ⟨message, hrun⟩ :=
              killGuarded_error conn allowReplication pid hraises
            have hnot : s.nextOutcome ≠ .terminated := by
              intro heq
              simp [heq, KillOutcome.raises] at hraises
            rw [hrun, ScriptedServer.advance, if_neg hnot]
            exact .inr (List.append_nil _)
        | false =>
            rw [killGuarded_ok conn allowReplication pid hraises]
            by_cases hterminated : s.nextOutcome = .terminated
            · rw [ScriptedServer.advance, if_pos hterminated]
              exact .inl ⟨by simp [hterminated], rfl⟩
            · rw [ScriptedServer.advance, if_neg hterminated]
              exact .inr (List.append_nil _)
      · obtain ⟨e, hrun⟩ := killPid_mapping scriptServer hconn hengine pid
          allowReplication s
        rw [hrun]
        exact .inr rfl

theorem killPids_idle {drivers : Drivers} {inst : RDSInstance}
    (h : inst.engine = .postgresql →
      ¬ ∃ conn, getConnection drivers inst = .ok conn)
    (pids : List Int) (s : ScriptedServer) :
    (killPids scriptServer drivers inst pids allowReplication s).2.terminated =
      s.terminated := by
  by_cases hengine : inst.engine = .postgresql
  · cases hconn : getConnection drivers inst with
    | error e =>
        unfold killPids
        rw [hconn, Call.bind_error (Call.ofExcept_run _ s)]
    | ok conn => exact absurd ⟨conn, hconn⟩ (h hengine)
  · exact killPids_mapping scriptServer ScriptedServer.terminated
      (fun _ _ _ => rfl) hengine pids allowReplication s

end Effects

/-! ## What the routes record -/

theorem chainDetail_inj {pids terminated notRunning pids' terminated'
    notRunning' : List Int}
    (h : chainDetail pids terminated notRunning =
      chainDetail pids' terminated' notRunning') :
    terminated = terminated' := by
  have hchars := congrArg String.toList h
  simp only [chainDetail, String.toList_append, List.append_assoc] at hchars
  have hpids := PyText.listText_inj (List.append_cancel_left hchars)
  exact (PyText.listText_inj (List.append_cancel_left hpids.2)).1

def Names (row : AuditLog) (pid : Int) : Prop :=
  row.targetPid = some pid ∨
    (row.targetPid = none ∧ ∃ pids terminated notRunning,
      row.detail = chainDetail pids terminated notRunning ∧ pid ∈ terminated)

structure Recorded (request : KillRequest) (s s' : KillState ScriptedServer)
    (pid : Int) : Prop where
  audited : ∃ row ∈ s'.auditLog.drop s.auditLog.length,
    row.result = .success ∧ Names row pid
  marked : ∀ alert ∈ s'.lockAlerts.rows,
    alert.instancePk = request.inst.pk → alert.resolvedAt = none →
      involves [pid] alert = true →
        alert.clearReason = "manual_kill" ∧
          alert.clearedBy = request.user.username

def Attributed (request : KillRequest) (s s' : KillState ScriptedServer) :
    Prop :=
  ∀ pid ∈ s'.server.terminated.drop s.server.terminated.length,
    Recorded request s s' pid

/--
A statement that terminates is followed by none that raises, and by none for
the same PID that does not terminate.
-/
def Accounted (entries : List (Int × KillOutcome)) : Prop :=
  ∀ pid, (pid, .terminated) ∈ reached entries →
    reached entries = entries ∧ lastOutcome entries pid = some .terminated

section Routes

variable {drivers : Drivers} {request : KillRequest} {conn : ConnectArgs}
  {s s' : KillState ScriptedServer}

theorem attributed_of_idle
    (h : s'.server.terminated = s.server.terminated) :
    Attributed request s s' := by
  intro pid hmem
  rw [h, List.drop_length] at hmem
  cases hmem

theorem markManualKill_marks {pids : List Int} {pid : Int} (hmem : pid ∈ pids)
    (t : KillState ScriptedServer) :
    ∀ alert ∈ (markManualKill request.inst pids request.user t).2.lockAlerts.rows,
      alert.instancePk = request.inst.pk → alert.resolvedAt = none →
        involves [pid] alert = true →
          alert.clearReason = "manual_kill" ∧
            alert.clearedBy = request.user.username := by
  intro alert halert hinstance hopen hinvolves
  obtain ⟨old, -, heq⟩ := List.mem_map.mp halert
  have hwider : involves pids alert = true := by
    simp only [involves, Bool.or_eq_true, List.contains_iff_mem,
      List.mem_singleton] at hinvolves ⊢
    rcases hinvolves with hblocked | hblocking
    · exact .inl (hblocked ▸ hmem)
    · exact .inr (hblocking ▸ hmem)
  by_cases hchosen : old.instancePk = request.inst.pk ∧
      old.resolvedAt = none ∧ involves pids old = true
  · rw [if_pos hchosen] at heq
    rw [← heq]
    exact ⟨rfl, rfl⟩
  · rw [if_neg hchosen] at heq
    rw [heq] at hchosen
    exact absurd ⟨hinstance, hopen, hwider⟩ hchosen

theorem recorded_of_row {t : KillState ScriptedServer} {row : AuditLog}
    {pids : List Int} {pid : Int}
    (haudit : t.auditLog = s.auditLog ++ [row]) (hresult : row.result = .success)
    (hnames : Names row pid) (hmem : pid ∈ pids)
    (hmarks : t.lockAlerts =
      (markManualKill request.inst pids request.user s').2.lockAlerts) :
    Recorded request s t pid where
  audited := by
    refine ⟨row, ?_, hresult, hnames⟩
    rw [haudit, List.drop_left]
    exact List.mem_singleton_self row
  marked := by
    rw [hmarks]
    exact markManualKill_marks hmem s'

theorem attributed_session (pid : Int) :
    Attributed request s
      (terminateSession scriptServer drivers request pid s).2 := by
  have heffect := killPid_script request.user.mayTerminateSlots drivers
    request.inst pid s.server
  generalize hkill : killPid scriptServer drivers request.inst pid
    request.user.mayTerminateSlots s.server = outcome at heffect
  have hserver := terminateSession_server hkill
  rcases heffect with ⟨hanswer, hterminated⟩ | hidle
  · have htrue : killPid scriptServer drivers request.inst pid
        request.user.mayTerminateSlots s.server = (.ok true, outcome.2) := by
      rw [hkill, ← hanswer]
    intro other hmem
    rw [hserver, hterminated, List.drop_left, List.mem_singleton] at hmem
    subst hmem
    obtain ⟨t, hrecord, -, hdone⟩ := recordSession_run request other true
      { s with server := outcome.2 }
    obtain ⟨⟨row, haudit, hresult, hpid⟩, hmarks⟩ := hdone rfl
    rw [terminateSession_ok htrue, hrecord]
    exact recorded_of_row haudit hresult (.inl hpid)
      (List.mem_singleton_self other) hmarks
  · exact attributed_of_idle (by rw [hserver, hidle])

theorem not_recorded_of_silent {pid : Int} (h : s'.auditLog = s.auditLog) :
    ¬ Recorded request s s' pid := by
  intro hrecorded
  obtain ⟨row, hmem, -⟩ := hrecorded.audited
  rw [h, List.drop_length] at hmem
  cases hmem

theorem attributed_iff_accounted {entries : List (Int × KillOutcome)}
    (hterminated : s'.server.terminated =
      s.server.terminated ++ terminatedBy entries)
    (hrecorded : ∀ pid, (pid, .terminated) ∈ reached entries →
      (Recorded request s s' pid ↔
        reached entries = entries ∧
          lastOutcome entries pid = some .terminated)) :
    Attributed request s s' ↔ Accounted entries := by
  unfold Attributed Accounted
  rw [hterminated, List.drop_left]
  apply forall_congr'
  intro pid
  rw [mem_terminatedBy]
  apply imp_congr_right
  exact hrecorded pid

theorem recorded_chain_iff {action : AuditAction} {pids : List Int}
    {results : Dict Int Bool} {t : KillState ScriptedServer}
    (haudit : t.auditLog = s.auditLog) (pid : Int) :
    Recorded request s (recordChain request action pids results t).2 pid ↔
      pid ∈ answered results true := by
  obtain ⟨u, hrecord, -, ⟨row, hrow, hsuccess, htarget, hdetail⟩, hmarks⟩ :=
    recordChain_run request action pids results t
  rw [hrecord]
  rw [haudit] at hrow
  constructor
  · intro hrecorded
    obtain ⟨other, hother, -, hnames⟩ := hrecorded.audited
    rw [hrow, List.drop_left, List.mem_singleton] at hother
    subst hother
    rcases hnames with hpid | ⟨-, pids', listed, rest, htext, hlisted⟩
    · rw [htarget] at hpid
      cases hpid
    · rw [hdetail] at htext
      rw [chainDetail_inj htext]
      exact hlisted
  · intro hanswered
    have hne : answered results true ≠ [] := List.ne_nil_of_mem hanswered
    have hnames : Names row pid :=
      .inr ⟨htarget, _, _, _, hdetail, hanswered⟩
    exact recorded_of_row hrow (hsuccess hne) hnames hanswered (hmarks hne)

theorem attributed_chain (hconn : getConnection drivers request.inst = .ok conn)
    (hengine : request.inst.engine = .postgresql) (action : AuditAction)
    (pids : List Int) :
    Attributed request s
        (terminateChain scriptServer drivers request action pids s).2 ↔
      Accounted (plan pids s.server.outcomes) := by
  obtain ⟨t, hterminated, hloop⟩ := killLoop_script conn
    request.user.mayTerminateSlots pids .empty s.server
  rw [← killPids_postgresql scriptServer hconn hengine] at hloop
  rcases hloop with ⟨hall, hrun⟩ | ⟨hsome, message, hrun⟩
  · apply attributed_iff_accounted
    · rw [terminateChain_server hrun, hterminated]
    · intro pid _
      have haudit : ({ s with server := t } : KillState _).auditLog =
          s.auditLog := rfl
      rw [terminateChain_ok hrun, recorded_chain_iff haudit,
        mem_answered_answers]
      exact (and_iff_right hall).symm
  · rw [terminateChain_driverError hrun]
    apply attributed_iff_accounted hterminated
    intro pid _
    exact iff_of_false (not_recorded_of_silent rfl) (fun h => hsome h.1)

end Routes

/-- The single routes always leave a record, the chain routes under a condition. -/
theorem attributed_iff (drivers : Drivers) (request : KillRequest)
    (form : KillForm) (s : KillState ScriptedServer) :
    Attributed request s (handle scriptServer drivers request form s).2 ↔
      ∀ chainMode pids checked, form = .chain chainMode pids →
        checkedPids request pids = some checked →
          request.inst.engine = .postgresql →
            (∃ conn, getConnection drivers request.inst = .ok conn) →
              Accounted (plan checked s.server.outcomes) := by
  cases form with
  | session pid =>
      have hattributed : Attributed request s
          (killSessionImpl scriptServer drivers request pid s).2 := by
        rcases killSessionImpl_checked s with
          ⟨checked, -, hrun⟩ | ⟨-, hserver⟩
        · rw [hrun]
          exact attributed_session checked
        · exact attributed_of_idle (by rw [hserver])
      refine iff_of_true hattributed ?_
      intro _ _ _ hform
      cases hform
  | chain chainMode pids =>
      change Attributed request s
        (killChainImpl scriptServer drivers request chainMode pids s).2 ↔ _
      rcases killChainImpl_checked s with
        ⟨checked, hchecked, hrun⟩ | ⟨hrefused, hserver⟩
      · rw [hrun]
        constructor
        · rintro hattributed _ _ checked' ⟨⟩ hchecked' hengine ⟨conn, hconn⟩
          rw [hchecked] at hchecked'
          cases hchecked'
          exact (attributed_chain hconn hengine _ checked).mp hattributed
        · intro haccounted
          by_cases hlive : request.inst.engine = .postgresql ∧
              ∃ conn, getConnection drivers request.inst = .ok conn
          · obtain ⟨hengine, conn, hconn⟩ := hlive
            exact (attributed_chain hconn hengine _ checked).mpr
              (haccounted chainMode pids checked rfl hchecked hengine
                ⟨conn, hconn⟩)
          · refine attributed_of_idle ?_
            rw [terminateChain_server rfl]
            exact killPids_idle _ (fun hengine hconn => hlive ⟨hengine, hconn⟩)
              checked s.server
      · refine iff_of_true (attributed_of_idle (by rw [hserver])) ?_
        rintro _ _ checked ⟨⟩ hchecked
        rw [hrefused] at hchecked
        cases hchecked

def sampleOperator : Operator := ⟨1, "ops", true, true, true, false, true⟩

def bulkRequest : KillRequest where
  user := sampleOperator
  inst := sampleInstance .postgresql
  query := ""
  lockOnly := false
  fetch := .ok ([], [])

def refusingServer : ScriptedServer where
  counts := []
  kills := []
  outcomes := [.terminated, .sqlError "must be a member of the role"]
  terminated := []

theorem kill_without_record :
    ((handle scriptServer openDrivers bulkRequest
        (.chain false (some [1, 2])) ⟨refusingServer, .empty, []⟩).2.server.terminated
          = [1] ∧
      (handle scriptServer openDrivers bulkRequest
        (.chain false (some [1, 2])) ⟨refusingServer, .empty, []⟩).2.auditLog
          = []) ∧
      ¬ ∀ (drivers : Drivers) (request : KillRequest) (form : KillForm)
        (s : KillState ScriptedServer),
        Attributed request s (handle scriptServer drivers request form s).2 := by
  refine ⟨⟨rfl, rfl⟩, ?_⟩
  intro hall
  obtain ⟨row, hmem, -⟩ := (hall openDrivers bulkRequest
    (.chain false (some [1, 2])) ⟨refusingServer, .empty, []⟩ 1
    (List.mem_singleton_self 1)).audited
  cases hmem

end HealthGrid.Kill
