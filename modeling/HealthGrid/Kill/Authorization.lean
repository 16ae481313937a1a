import HealthGrid.Mfa.Codes
import HealthGrid.Views.Kill
import HealthGrid.Views.ReplicationSlots

/-!
# Who may terminate or drop

The six routes that act on sessions and slots of a monitored server, from the
user's records to the statements they issue.  The server records each such
statement with the catalog that it met.
-/

namespace HealthGrid.Kill

open HealthGrid.Foundation HealthGrid.Access HealthGrid.Db HealthGrid.Mfa
open HealthGrid.Views HealthGrid.Views.Kill

/-! ## The monitored server -/

/-- The rows of `pg_replication_slots` and `pg_stat_activity` that matter. -/
structure BackendCatalog where
  slots : List (String × Option Int)
  sessions : List (Int × String)
  deriving DecidableEq, Repr

def BackendCatalog.servesSlot (catalog : BackendCatalog) (pid : Int) : Bool :=
  catalog.slots.any fun slot => slot.2 == some pid

inductive Statement where
  | kill (pid : Int)
  | guardedTerminate (allowReplication : Bool) (pid : Int)
  | terminateBackend (pid : Int)
  | dropSlot (slotName : String)
  deriving DecidableEq, Repr

structure Issued where
  statement : Statement
  database : String
  catalog : BackendCatalog
  deriving DecidableEq, Repr

def Issued.signals (issued : Issued) : Option Int :=
  match issued.statement with
  | .kill pid | .terminateBackend pid => some pid
  | .guardedTerminate allowReplication pid =>
      if (allowReplication || !issued.catalog.servesSlot pid) &&
          issued.catalog.sessions.contains (pid, issued.database) then
        some pid
      else none
  | .dropSlot _ => none

/-- The catalog and the answer that each statement meets, by its number. -/
structure TargetServer where
  catalog : Nat → BackendCatalog
  answer : Nat → Except String Bool
  statements : Nat
  issued : List Issued

namespace TargetServer

def read (s : TargetServer) : TargetServer :=
  { s with statements := s.statements + 1 }

def issue (s : TargetServer) (statement : Statement) (database : String) :
    TargetServer :=
  { s with
    statements := s.statements + 1
    issued := s.issued ++ [⟨statement, database, s.catalog s.statements⟩] }

end TargetServer

def targetServer : TerminationServer TargetServer where
  countSessions database pid := fun s =>
    ((s.answer s.statements).map fun _ =>
      (s.catalog s.statements).sessions.count (pid, database), s.read)
  kill pid := fun s =>
    ((s.answer s.statements).map fun _ => (), s.issue (.kill pid) "")
  guardedTerminate database allowReplication pid := fun s =>
    let statement := Statement.guardedTerminate allowReplication pid
    ((s.answer s.statements).map fun answer =>
      answer && (Issued.mk statement database
        (s.catalog s.statements)).signals.isSome,
      s.issue statement database)

def slotServer : SlotServer TargetServer where
  activePid slotName := fun s =>
    ((s.answer s.statements).map fun _ =>
      (s.catalog s.statements).slots.lookup slotName, s.read)
  terminateBackend pid := fun s =>
    (s.answer s.statements, s.issue (.terminateBackend pid) "")
  dropSlot slotName := fun s =>
    ((s.answer s.statements).map fun _ => (), s.issue (.dropSlot slotName) "")

/-! ## Requests -/

inductive TerminationRoute where
  | killSession (pid : Option Int)
  | killLockSession (pid : Option Int)
  | killChain (chainMode : Bool) (pids : Option (List Int))
  | killLockChain (chainMode : Bool) (pids : Option (List Int))
  | killReplicationSlot (slotName : String)
  | dropReplicationSlot (slotName : String)
  deriving DecidableEq, Repr

structure TerminationRequest where
  tables : AccessTables
  user : Account
  profile : Option UserMFA
  inst : RDSInstance
  mfaCode : String
  query : String
  fetch : Except Exn (List ActivityRow × List LockRow)
  now : Time

structure TerminationState where
  server : TargetServer
  lockAlerts : OpenTable LockAlert
  auditLog : List AuditLog
  slotAudits : List ReplicationSlots.SlotAudit

variable (lib : MfaLibrary) (drivers : Drivers) (request : TerminationRequest)

/-- `require_mfa_for_action` with `require_code=True`. -/
def requireMfaForAction : Bool :=
  match request.profile with
  | none => false
  | some profile =>
      match (VerifyRequest.action request.mfaCode).submitted profile with
      | none => false
      | some code => verifyCode lib profile code true request.now != .refused

def TerminationRequest.operator : Operator where
  pk := request.user.pk
  username := request.user.username
  isStaff := request.user.isStaff
  canView := canViewInstance request.tables request.user request.inst
  canOperate := canOperateInstance request.tables request.user request.inst
  mayTerminateSlots :=
    canManageReplicationSlot request.tables request.user .terminate
  mfaPassed := requireMfaForAction lib request

def TerminationRequest.toKill (lockOnly : Bool) : KillRequest where
  user := request.operator lib
  inst := request.inst
  query := request.query
  lockOnly := lockOnly
  fetch := request.fetch

def handleKill (lockOnly : Bool) (form : KillForm) (s : TerminationState) :
    TerminationState :=
  let after := (handle targetServer drivers (request.toKill lib lockOnly) form
    ⟨s.server, s.lockAlerts, s.auditLog⟩).2
  { s with
    server := after.server
    lockAlerts := after.lockAlerts
    auditLog := after.auditLog }

def handleSlot (view : ReplicationSlots.Handler TargetServer Unit)
    (s : TerminationState) : TerminationState :=
  let after := (view ⟨s.server, s.slotAudits⟩).2
  { s with server := after.server, slotAudits := after.auditLog }

def handleTermination (route : TerminationRoute) (s : TerminationState) :
    TerminationState :=
  match route with
  | .killSession pid => handleKill lib drivers request false (.session pid) s
  | .killLockSession pid => handleKill lib drivers request true (.session pid) s
  | .killChain chainMode pids =>
      handleKill lib drivers request false (.chain chainMode pids) s
  | .killLockChain chainMode pids =>
      handleKill lib drivers request true (.chain chainMode pids) s
  | .killReplicationSlot slotName =>
      handleSlot (ReplicationSlots.killReplicationSlot slotServer drivers
        request.tables request.user request.inst slotName) s
  | .dropReplicationSlot slotName =>
      handleSlot (ReplicationSlots.dropReplicationSlot slotServer drivers
        request.tables request.user request.inst slotName
        (requireMfaForAction lib request)) s

/-! ## What the routes ask for -/

def CodeVerified : Prop :=
  ∃ profile code, request.profile = some profile ∧ profile.enabled = true ∧
    code = PyText.stripText request.mfaCode ∧ code ≠ "" ∧
    verifyCode lib profile code true request.now ≠ .refused

def MayManageSlots (t : AccessTables) (user : Account) (action : SlotAction) :
    Prop :=
  user.isSuperuser = true ∨ ∃ access,
    t.slotAccess.get? user.pk = some access ∧ access.allows action = true

def TerminatesListed (pids : List Int) (issued : Issued) : Prop :=
  ∃ pid ∈ pids, issued.statement = .guardedTerminate
    (canManageReplicationSlot request.tables request.user .terminate) pid

def InLockPairs (pids : List Int) : Prop :=
  ∃ activity blocking, request.fetch = .ok (activity, blocking) ∧
    ∀ pid ∈ pids, pid ∈ lockPids blocking

def RouteAuthorized (route : TerminationRoute) (issued : Issued) : Prop :=
  match route with
  | .killSession pid => CodeVerified lib request ∧
      TerminatesListed request pid.toList issued
  | .killLockSession pid => InLockPairs request pid.toList ∧
      TerminatesListed request pid.toList issued
  | .killChain _ pids => CodeVerified lib request ∧
      TerminatesListed request (pids.getD []) issued
  | .killLockChain _ pids => CodeVerified lib request ∧
      InLockPairs request (pids.getD []) ∧
      TerminatesListed request (pids.getD []) issued
  | .killReplicationSlot _ =>
      MayManageSlots request.tables request.user .terminate
  | .dropReplicationSlot slotName => CodeVerified lib request ∧
      MayManageSlots request.tables request.user .drop ∧
      issued.statement = .dropSlot slotName

structure Authorized (route : TerminationRoute) (issued : Issued) : Prop where
  active : request.user.isActive = true
  staff : request.user.isStaff = true
  operates : canOperateInstance request.tables request.user request.inst = true
  route : RouteAuthorized lib request route issued
  slots : ∀ pid, issued.signals = some pid →
    issued.catalog.servesSlot pid = true →
      MayManageSlots request.tables request.user .terminate

/-! ## Permissions behind the checks -/

section Permissions

variable {lib drivers request} {user : Account} {t : AccessTables}
  {inst : RDSInstance}

theorem canManageReplicationSlot_true {action : SlotAction}
    (h : canManageReplicationSlot t user action = true) :
    user.isActive = true ∧ user.isStaff = true ∧
      MayManageSlots t user action := by
  unfold canManageReplicationSlot at h
  split at h
  · cases h
  · rename_i hstaff
    simp only [Bool.not_eq_true, Bool.not_eq_false', Bool.and_eq_true]
      at hstaff
    refine ⟨hstaff.1, hstaff.2, ?_⟩
    split at h
    · rename_i hsuperuser
      exact .inl hsuperuser
    · split at h
      · cases h
      · rename_i access hget
        exact .inr ⟨access, hget, h⟩

theorem canOperateInstance_active
    (h : canOperateInstance t user inst = true) : user.isActive = true := by
  cases hactive : user.isActive with
  | true => rfl
  | false =>
      unfold canOperateInstance instanceRole at h
      rw [hactive] at h
      cases h

theorem requireOperator_ok {operator : Operator}
    (h : requireOperator operator = .ok ()) :
    operator.isStaff = true ∧ operator.canOperate = true := by
  unfold requireOperator at h
  split at h
  · cases h
  · rename_i hstaff
    split at h
    · cases h
    · split at h
      · cases h
      · rename_i hoperate
        exact ⟨by simpa using hstaff, by simpa using hoperate⟩

theorem requireMfaForAction_true (h : requireMfaForAction lib request = true) :
    CodeVerified lib request := by
  unfold requireMfaForAction at h
  split at h
  · cases h
  · rename_i profile hprofile
    split at h
    · cases h
    · rename_i code hsubmitted
      unfold VerifyRequest.submitted at hsubmitted
      dsimp only at hsubmitted
      split at hsubmitted
      · rename_i hcode
        cases hsubmitted
        simp only [Bool.and_eq_true, decide_eq_true_eq] at hcode
        exact ⟨profile, _, hprofile, hcode.1, rfl, hcode.2, by simpa using h⟩
      · cases hsubmitted

theorem requireSlotRoute_ok {action : SlotAction}
    (h : ReplicationSlots.requireSlotRoute t user inst action = .ok ()) :
    canManageReplicationSlot t user action = true ∧
      canOperateInstance t user inst = true := by
  obtain ⟨_, hslot, haccess⟩ := of_bind_eq_ok h
  constructor
  · unfold requireSlotPermission at hslot
    split at hslot
    · cases hslot
    · rename_i hallowed
      simpa using hallowed
  · unfold requireInstanceAccess at haccess
    split at haccess
    · cases haccess
    · split at haccess
      · cases haccess
      · rename_i hoperate
        simpa using hoperate

theorem terminatesListed_slots {pids : List Int} {issued : Issued}
    (h : TerminatesListed request pids issued) (pid : Int)
    (hsignals : issued.signals = some pid)
    (hserves : issued.catalog.servesSlot pid = true) :
    MayManageSlots request.tables request.user .terminate := by
  obtain ⟨pid', -, hstatement⟩ := h
  unfold Issued.signals at hsignals
  rw [hstatement] at hsignals
  dsimp only at hsignals
  split at hsignals
  · rename_i hguard
    cases hsignals
    rw [hserves, Bool.not_true, Bool.or_false, Bool.and_eq_true] at hguard
    exact (canManageReplicationSlot_true hguard.1).2.2
  · cases hsignals

end Permissions

/-! ## Statements of the kill functions -/

section Statements

variable {drivers} {inst : RDSInstance} {s : TargetServer}

theorem issued_issue {statement : Statement} {database : String}
    {issued : Issued} (h : issued ∈ (s.issue statement database).issued) :
    issued ∈ s.issued ∨ issued.statement = statement := by
  rcases List.mem_append.mp h with hold | hnew
  · exact .inl hold
  · cases List.mem_singleton.mp hnew
    exact .inr rfl

theorem killPid_issued (pid : Int) (allowReplication : Bool) :
    ∀ issued ∈ (killPid targetServer drivers inst pid allowReplication
        s).2.issued,
      issued ∈ s.issued ∨
        issued.statement = .guardedTerminate allowReplication pid := by
  intro issued hissued
  cases hconn : getConnection drivers inst with
  | error e =>
      rw [killPid, hconn, Call.bind_error (Call.ofExcept_run _ s)] at hissued
      exact .inl hissued
  | ok conn =>
      by_cases hengine : inst.engine = .postgresql
      · rw [killPid_postgresql targetServer hconn hengine] at hissued
        exact issued_issue hissued
      · obtain ⟨e, hkill⟩ := killPid_mapping targetServer hconn hengine pid
          allowReplication s
        rw [hkill] at hissued
        exact .inl hissued

theorem killLoop_issued {conn : ConnectArgs} {allowReplication : Bool}
    (pids : List Int) (results : Dict Int Bool) :
    ∀ issued ∈ (killLoop (killGuarded targetServer conn allowReplication) pids
        results s).2.issued,
      issued ∈ s.issued ∨ ∃ pid ∈ pids,
        issued.statement = .guardedTerminate allowReplication pid := by
  induction pids generalizing results s with
  | nil => exact fun issued hissued => .inl hissued
  | cons pid pids ih =>
      intro issued hissued
      unfold killLoop at hissued
      cases hkill : killGuarded targetServer conn allowReplication pid s with
      | mk result s' =>
          have hstep : issued ∈ s'.issued → issued ∈ s.issued ∨
              issued.statement = .guardedTerminate allowReplication pid := by
            intro hmem
            have hs' : s' = s.issue (.guardedTerminate allowReplication pid)
                conn.database := (congrArg Prod.snd hkill).symm
            rw [hs'] at hmem
            exact issued_issue hmem
          have hfirst : issued ∈ s'.issued → issued ∈ s.issued ∨
              ∃ other ∈ pid :: pids, issued.statement =
                .guardedTerminate allowReplication other := by
            intro hmem
            rcases hstep hmem with hold | hnew
            · exact .inl hold
            · exact .inr ⟨pid, List.mem_cons_self .., hnew⟩
          cases result with
          | error e =>
              rw [Call.bind_error hkill] at hissued
              exact hfirst hissued
          | ok terminated =>
              rw [Call.bind_ok hkill] at hissued
              rcases ih _ issued hissued with hmem | ⟨other, hother, hnew⟩
              · exact hfirst hmem
              · exact .inr ⟨other, List.mem_cons_of_mem _ hother, hnew⟩

theorem killPids_issued (pids : List Int) (allowReplication : Bool) :
    ∀ issued ∈ (killPids targetServer drivers inst pids allowReplication
        s).2.issued,
      issued ∈ s.issued ∨ ∃ pid ∈ pids,
        issued.statement = .guardedTerminate allowReplication pid := by
  intro issued hissued
  by_cases hengine : inst.engine = .postgresql
  · cases hconn : getConnection drivers inst with
    | error e =>
        rw [killPids, hconn, Call.bind_error (Call.ofExcept_run _ s)]
          at hissued
        exact .inl hissued
    | ok conn =>
        rw [killPids_postgresql targetServer hconn hengine] at hissued
        exact killLoop_issued pids _ issued hissued
  · rw [killPids_mapping targetServer TargetServer.issued
      (fun _ _ _ => rfl) hengine] at hissued
    exact .inl hissued

end Statements

/-! ## Statements of the routes -/

section Routes

variable {lib drivers request} {s : TerminationState} {issued : Issued}

theorem checkedPid_some {kill : KillRequest} {pid : Option Int} {checked : Int}
    (h : checkedPid kill pid = some checked) :
    requireOperator kill.user = .ok () ∧ pid = some checked ∧
      (if kill.lockOnly then ∃ activity blocking,
          kill.fetch = .ok (activity, blocking) ∧ checked ∈ lockPids blocking
        else kill.user.mfaPassed = true) := by
  unfold checkedPid at h
  split at h
  · rename_i pid hoperator
    split at h
    · rename_i hlock
      rw [if_pos hlock]
      split at h
      · rename_i activity blocking hfetch
        split at h
        · rename_i hmem
          cases h
          exact ⟨hoperator, rfl, activity, blocking, hfetch, hmem⟩
        · cases h
      · cases h
    · rename_i hlock
      rw [if_neg hlock]
      split at h
      · rename_i hmfa
        cases h
        exact ⟨hoperator, rfl, hmfa⟩
      · cases h
  · cases h

theorem checkedPids_some {kill : KillRequest} {pids : Option (List Int)}
    {checked : List Int} (h : checkedPids kill pids = some checked) :
    requireOperator kill.user = .ok () ∧ pids = some checked ∧
      kill.user.mfaPassed = true ∧
      (kill.lockOnly = true → ∃ activity blocking,
        kill.fetch = .ok (activity, blocking) ∧
          checked ⊆ lockPids blocking) := by
  unfold checkedPids at h
  split at h
  · rename_i pids hoperator
    split at h
    · cases h
    · split at h
      · cases h
      · rename_i hmfa
        have hpassed : kill.user.mfaPassed = true := by simpa using hmfa
        split at h
        · split at h
          · rename_i activity blocking hfetch
            split at h
            · rename_i hsub
              cases h
              exact ⟨hoperator, rfl, hpassed,
                fun _ => ⟨activity, blocking, hfetch, hsub⟩⟩
            · cases h
          · cases h
        · rename_i hlock
          cases h
          exact ⟨hoperator, rfl, hpassed, fun h => absurd h hlock⟩
  · cases h

theorem killSession_issued {lockOnly : Bool} {pid : Option Int}
    (h : issued ∈ (handleKill lib drivers request lockOnly (.session pid)
      s).server.issued) :
    issued ∈ s.server.issued ∨
      ∃ checked, checkedPid (request.toKill lib lockOnly) pid = some checked ∧
        TerminatesListed request [checked] issued := by
  have hserver : (∃ checked,
      checkedPid (request.toKill lib lockOnly) pid = some checked ∧
        (handleKill lib drivers request lockOnly (.session pid) s).server =
          (terminateSession targetServer drivers (request.toKill lib lockOnly)
            checked ⟨s.server, s.lockAlerts, s.auditLog⟩).2.server) ∨
      (handleKill lib drivers request lockOnly (.session pid) s).server =
        s.server := by
    unfold handleKill handle
    dsimp only
    rcases killSessionImpl_checked ⟨s.server, s.lockAlerts, s.auditLog⟩ with
      ⟨checked, hchecked, hrun⟩ | ⟨-, hrun⟩
    · exact .inl ⟨checked, hchecked, by rw [hrun]⟩
    · exact .inr hrun
  rcases hserver with ⟨checked, hchecked, hrun⟩ | hrun
  · rw [hrun, terminateSession_server rfl] at h
    rcases killPid_issued checked _ issued h with hold | hnew
    · exact .inl hold
    · exact .inr ⟨checked, hchecked, checked, List.mem_singleton_self _, hnew⟩
  · rw [hrun] at h
    exact .inl h

theorem killChain_issued {lockOnly chainMode : Bool}
    {pids : Option (List Int)}
    (h : issued ∈ (handleKill lib drivers request lockOnly
      (.chain chainMode pids) s).server.issued) :
    issued ∈ s.server.issued ∨
      ∃ checked,
        checkedPids (request.toKill lib lockOnly) pids = some checked ∧
        TerminatesListed request checked issued := by
  have hserver : (∃ checked action,
      checkedPids (request.toKill lib lockOnly) pids = some checked ∧
        (handleKill lib drivers request lockOnly (.chain chainMode pids)
          s).server =
          (terminateChain targetServer drivers (request.toKill lib lockOnly)
            action checked ⟨s.server, s.lockAlerts, s.auditLog⟩).2.server) ∨
      (handleKill lib drivers request lockOnly (.chain chainMode pids)
        s).server = s.server := by
    unfold handleKill handle
    dsimp only
    rcases killChainImpl_checked ⟨s.server, s.lockAlerts, s.auditLog⟩ with
      ⟨checked, hchecked, hrun⟩ | ⟨-, hrun⟩
    · exact .inl ⟨checked, _, hchecked, by rw [hrun]⟩
    · exact .inr hrun
  rcases hserver with ⟨checked, action, hchecked, hrun⟩ | hrun
  · rw [hrun, terminateChain_server rfl] at h
    rcases killPids_issued checked _ issued h with hold | hnew
    · exact .inl hold
    · exact .inr ⟨checked, hchecked, hnew⟩
  · rw [hrun] at h
    exact .inl h

theorem killSlot_issued {slotName : String}
    (h : issued ∈ (handleSlot (ReplicationSlots.killReplicationSlot slotServer
      drivers request.tables request.user request.inst slotName)
        s).server.issued) :
    issued ∈ s.server.issued ∨
      ReplicationSlots.requireSlotRoute request.tables request.user
        request.inst .terminate = .ok () := by
  unfold handleSlot at h
  dsimp only at h
  rcases ReplicationSlots.killReplicationSlot_server
      ⟨s.server, s.slotAudits⟩ with ⟨hroute, -⟩ | hserver
  · exact .inr hroute
  · rw [hserver] at h
    exact .inl h

theorem dropStatement_issued {inst : RDSInstance} {slotName : String}
    {server : TargetServer}
    (h : issued ∈ (Db.dropReplicationSlot slotServer drivers inst slotName
      server).2.issued) :
    issued ∈ server.issued ∨ issued.statement = .dropSlot slotName := by
  unfold Db.dropReplicationSlot at h
  split at h
  · exact .inl h
  · cases hconn : getConnection drivers inst with
    | error e =>
        rw [hconn, Call.bind_error (Call.ofExcept_run _ server)] at h
        exact .inl h
    | ok conn =>
        rw [hconn, Call.bind_ok (Call.ofExcept_run _ server)] at h
        cases hanswer : server.answer server.statements with
        | error message =>
            have hdrop : runStatement (slotServer.dropSlot slotName) server =
                (.error (.driverError message),
                  server.issue (.dropSlot slotName) "") := by
              unfold runStatement slotServer
              dsimp only
              rw [hanswer]
              rfl
            rw [Call.tryExcept_error (Call.bind_error hdrop)] at h
            exact issued_issue h
        | ok answer =>
            have hdrop : runStatement (slotServer.dropSlot slotName) server =
                (.ok (), server.issue (.dropSlot slotName) "") := by
              unfold runStatement slotServer
              dsimp only
              rw [hanswer]
              rfl
            have hbody : (do
                  runStatement (slotServer.dropSlot slotName)
                  pure (true, none) :
                Call Exn TargetServer (Bool × Option String)) server =
                  (.ok (true, none), server.issue (.dropSlot slotName) "") := by
              rw [Call.bind_ok hdrop]
              rfl
            rw [Call.tryExcept_ok hbody] at h
            exact issued_issue h

theorem dropSlot_issued {slotName : String} {mfaPassed : Bool}
    (h : issued ∈ (handleSlot (ReplicationSlots.dropReplicationSlot slotServer
      drivers request.tables request.user request.inst slotName mfaPassed)
        s).server.issued) :
    issued ∈ s.server.issued ∨
      (ReplicationSlots.requireSlotRoute request.tables request.user
        request.inst .drop = .ok () ∧ mfaPassed = true ∧
        issued.statement = .dropSlot slotName) := by
  unfold handleSlot at h
  dsimp only at h
  rcases ReplicationSlots.dropReplicationSlot_server
      ⟨s.server, s.slotAudits⟩ with ⟨hroute, hmfa, hserver⟩ | hserver
  · rw [hserver] at h
    rcases dropStatement_issued h with hold | hnew
    · exact .inl hold
    · exact .inr ⟨hroute, hmfa, hnew⟩
  · rw [hserver] at h
    exact .inl h

end Routes

/-! ## The six routes -/

section SixRoutes

variable {lib drivers request} {issued : Issued}

theorem authorized_kill {route : TerminationRoute} {pids : List Int}
    (hoperator : requireOperator (request.operator lib) = .ok ())
    (hlisted : TerminatesListed request pids issued)
    (hroute : RouteAuthorized lib request route issued) :
    Authorized lib request route issued := by
  obtain ⟨hstaff, hoperate⟩ := requireOperator_ok hoperator
  exact ⟨canOperateInstance_active hoperate, hstaff, hoperate, hroute,
    terminatesListed_slots hlisted⟩

theorem authorized_slot {route : TerminationRoute} {action : SlotAction}
    (hslot : ReplicationSlots.requireSlotRoute request.tables request.user
      request.inst action = .ok ())
    (hroute : RouteAuthorized lib request route issued)
    (hslots : ∀ pid, issued.signals = some pid →
      issued.catalog.servesSlot pid = true →
        MayManageSlots request.tables request.user .terminate) :
    Authorized lib request route issued := by
  obtain ⟨hallowed, hoperate⟩ := requireSlotRoute_ok hslot
  obtain ⟨hactive, hstaff, -⟩ := canManageReplicationSlot_true hallowed
  exact ⟨hactive, hstaff, hoperate, hroute, hslots⟩

end SixRoutes

theorem statements_authorized (route : TerminationRoute)
    (s : TerminationState) :
    ∀ issued ∈ (handleTermination lib drivers request route s).server.issued,
      issued ∈ s.server.issued ∨ Authorized lib request route issued := by
  intro issued hissued
  cases route with
  | killSession pid =>
      rcases killSession_issued hissued with hold | ⟨checked, hchecked, hlisted⟩
      · exact .inl hold
      · obtain ⟨hoperator, rfl, hmfa⟩ := checkedPid_some hchecked
        exact .inr (authorized_kill hoperator hlisted
          ⟨requireMfaForAction_true hmfa, hlisted⟩)
  | killLockSession pid =>
      rcases killSession_issued hissued with hold | ⟨checked, hchecked, hlisted⟩
      · exact .inl hold
      · obtain ⟨hoperator, rfl, activity, blocking, hfetch, hmem⟩ :=
          checkedPid_some hchecked
        refine .inr (authorized_kill hoperator hlisted ⟨?_, hlisted⟩)
        refine ⟨activity, blocking, hfetch, ?_⟩
        intro other hother
        cases List.mem_singleton.mp hother
        exact hmem
  | killChain chainMode pids =>
      rcases killChain_issued hissued with hold | ⟨checked, hchecked, hlisted⟩
      · exact .inl hold
      · obtain ⟨hoperator, rfl, hmfa, -⟩ := checkedPids_some hchecked
        exact .inr (authorized_kill hoperator hlisted
          ⟨requireMfaForAction_true hmfa, hlisted⟩)
  | killLockChain chainMode pids =>
      rcases killChain_issued hissued with hold | ⟨checked, hchecked, hlisted⟩
      · exact .inl hold
      · obtain ⟨hoperator, rfl, hmfa, hlock⟩ := checkedPids_some hchecked
        obtain ⟨activity, blocking, hfetch, hsub⟩ := hlock rfl
        exact .inr (authorized_kill hoperator hlisted
          ⟨requireMfaForAction_true hmfa, ⟨activity, blocking, hfetch, hsub⟩,
            hlisted⟩)
  | killReplicationSlot slotName =>
      rcases killSlot_issued hissued with hold | hroute
      · exact .inl hold
      · have hgrant := (canManageReplicationSlot_true
          (requireSlotRoute_ok hroute).1).2.2
        exact .inr (authorized_slot hroute hgrant fun _ _ _ => hgrant)
  | dropReplicationSlot slotName =>
      rcases dropSlot_issued hissued with hold | ⟨hroute, hmfa, hstatement⟩
      · exact .inl hold
      · have hgrant := (canManageReplicationSlot_true
          (requireSlotRoute_ok hroute).1).2.2
        refine .inr (authorized_slot hroute
          ⟨requireMfaForAction_true hmfa, hgrant, hstatement⟩ ?_)
        intro pid hsignals
        unfold Issued.signals at hsignals
        rw [hstatement] at hsignals
        cases hsignals

def sampleOperatorRequest : TerminationRequest where
  tables :=
    { accounts := .empty
      instanceAccess := Dict.empty.set (1, 1) ⟨.operator, false⟩
      scopes := .empty
      slotAccess := .empty
      queryRunnerGrants := [] }
  user := ⟨1, "maya", true, true, false⟩
  profile := none
  inst := sampleInstance .postgresql
  mfaCode := ""
  query := ""
  fetch := .ok ([], [⟨some 11, some 12, none, none, none, none, none⟩])
  now := 0

theorem lock_kill_authorized :
    let lib : MfaLibrary := ⟨Char.isDigit, id, fun _ _ _ => false,
      fun _ _ => false⟩
    let catalog : BackendCatalog := ⟨[("archive", some 12)], [(12, "orders")]⟩
    Authorized lib sampleOperatorRequest (.killLockSession (some 12))
      ⟨.guardedTerminate false 12, "orders", catalog⟩ := by
  intro lib catalog
  let start : TerminationState :=
    ⟨⟨fun _ => catalog, fun _ => .ok true, 0, []⟩, .empty, [], []⟩
  have hissued : ⟨.guardedTerminate false 12, "orders", catalog⟩ ∈
      (handleTermination lib openDrivers sampleOperatorRequest
        (.killLockSession (some 12)) start).server.issued := by decide
  rcases statements_authorized lib openDrivers sampleOperatorRequest
    (.killLockSession (some 12)) start _ hissued with hold | hauthorized
  · cases hold
  · exact hauthorized

end HealthGrid.Kill
