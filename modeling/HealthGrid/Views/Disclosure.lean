import HealthGrid.Views.SameCards

/-!
# What the pages disclose

Two dashboards that look alike to an account give it the same answer to every
request, as far as an answer may be known: the pages tell it nothing but what
it may know.
-/

namespace HealthGrid.Views.Reading

open HealthGrid.Foundation HealthGrid.Db HealthGrid.Access HealthGrid.Registry
open HealthGrid.Views.Overview

theorem LooksAlike.answer_seen {lib : ReadingLibrary} {drivers : Drivers}
    {redact : String → String} {user : Account} {w w' : Dashboard}
    (h : LooksAlike lib drivers redact user w w')
    (hactive : user.isActive = true) (request : PageRequest) :
    shown redact (answer lib drivers w user request) =
      shown redact (answer lib drivers w' user request) := by
  cases request with
  | instanceList => rw [h.instanceList_eq hactive]
  | instanceGroupCard groupId =>
      exact seen_bind (h.groupCard_seen hactive groupId) fun card card' _ _ hcard =>
        congrArg (fun card => Except.ok (PageAnswer.instanceGroupCard card)) hcard
  | instanceCard pk =>
      exact seen_bind (h.instanceCard_seen pk) fun card card' _ _ hcard =>
        congrArg Except.ok hcard
  | instanceDetail pk =>
      unfold answer
      dsimp only
      rw [h.instanceDetail_eq]
  | addInstance extend duplicate =>
      exact congrArg (shown redact) (h.addInstanceForm_eq extend duplicate)
  | apiInstances => rw [h.apiInstances hactive]
  | apiInstance pk => rw [h.apiInstance hactive]
  | apiAuditLogs instanceId =>
      unfold answer
      dsimp only
      rw [h.auditLogsOf_eq hactive]
  | apiAuditLog instanceId pk =>
      unfold answer
      dsimp only
      rw [h.auditLogsOf_eq hactive]

theorem pages_disclose_known_only {lib : ReadingLibrary} {drivers : Drivers}
    {redact : String → String} {user : Account} {w w' : Dashboard}
    (h : LooksAlike lib drivers redact user w w') (request : PageRequest) :
    shown redact (respond lib drivers w user.pk request) =
      shown redact (respond lib drivers w' user.pk request) := by
  unfold respond
  rw [h.account, h.account']
  dsimp only
  split
  · rename_i hactive
    exact h.answer_seen hactive request
  · rfl

/-! ## A reader of one instance -/

def sampleReading : ReadingLibrary where
  collate := compare
  casefold := id
  registry := openLibraries.registry
  isDigit := Char.isDigit

def reader : Account where
  pk := 7
  username := "reader"
  isActive := true
  isStaff := false
  isSuperuser := false

def readerTables : AccessTables :=
  { openTables with
    accounts := ⟨[reader], 8, by decide, by decide, by decide⟩
    instanceAccess := Dict.empty.set (7, 0) ⟨.readonly, false⟩ }

def dashboardOf (host password other : String) : Dashboard where
  tables := readerTables
  instances := insertRecord (insertRecord .empty
    { InstanceRecord.blank with
      name := "orders", host := host, passwordEncrypted := password })
    { InstanceRecord.blank with name := other }
  createdAt _ := 0
  grantPk grant := grant.1
  links := []
  auditLogs := []
  executions := []
  servers _ := quietCalls

def closedDrivers : Drivers where
  decrypt := .ok
  connect _ args := .error ("connection to " ++ args.host ++ " refused")

theorem reader_sees_one_mask :
    let w := dashboardOf "10.0.31.4" "s3cret=" "ledger"
    let w' := dashboardOf "10.0.77.9" "hunter2=" "payroll"
    let redact (_ : String) := ""
    shown redact (respond sampleReading closedDrivers w reader.pk (.instanceCard 0)) =
      shown redact
        (respond sampleReading closedDrivers w' reader.pk (.instanceCard 0)) := by
  intro w w' redact
  have halike : LooksAlike sampleReading closedDrivers redact reader w w' :=
    { account := by decide
      account' := by decide
      scope := rfl
      access := fun _ => rfl
      grants := rfl
      registered := by
        intro pk
        unfold OpenTable.findPk?
        rw [List.isSome_find?, List.isSome_find?]
        rfl
      viewable := by decide +kernel
      createdAt := fun _ _ => rfl
      connections := by decide +kernel
      servers := fun _ _ _ _ _ => rfl
      links := rfl
      auditLogs := by decide
      executions := by decide
      names := fun _ _ => rfl
      grantPks := fun _ _ _ => rfl }
  exact pages_disclose_known_only halike (.instanceCard 0)

/-- The card itself shows the message, and with it the host. -/
example :
    respond sampleReading closedDrivers (dashboardOf "10.0.31.4" "" "ledger")
        reader.pk (.instanceCard 0) ≠
      respond sampleReading closedDrivers (dashboardOf "10.0.77.9" "" "ledger")
        reader.pk (.instanceCard 0) := by
  decide +kernel

end HealthGrid.Views.Reading
