import HealthGrid.Background.ReportSchedule
import HealthGrid.Registry.Requests
import Mathlib.Logic.Function.Basic

/-!
# The settings row and its three writers

`notification_settings` saves the whole row that it loaded;
`maybe_send_weekly_report` and `cleanup_monitor_history` save their own marker.
Every load and every save is one step, and the calls interleave.
-/

namespace HealthGrid.Background

open HealthGrid.Foundation HealthGrid.Monitor HealthGrid.Db HealthGrid.Registry
open HealthGrid.Access

inductive RowCall where
  | idle
  | editing (loaded : SettingsRow) (managed : ManagedSettings)
  | reporting (call : ReportCall)
  | delivered (now : Time)
  | cleaning (loaded : SettingsRow) (now : Time)

/--
`written` is no part of the database: it has every field as the last call that
is there to set the field wrote it, the form its fields and the monitor its
markers.
-/
structure RowWorld where
  row : Option SettingsRow
  reports : List LockReport
  nextReportPk : Nat
  posts : List ReportPost
  monitor : MonitorState
  instances : InstanceTable
  calls : Nat → RowCall
  locked : Bool
  written : SettingsRow

namespace RowWorld

def config (w : RowWorld) : SettingsRow := w.row.getD .defaults

/-- `get_or_create(pk=1)` -/
def load (w : RowWorld) : RowWorld := { w with row := some w.config }

def enter (w : RowWorld) (id : Nat) (call : RowCall) : RowWorld :=
  { w with calls := Function.update w.calls id call }

def reportState (w : RowWorld) : ReportState :=
  ⟨w.config, w.reports, w.nextReportPk, w.posts⟩

def history (w : RowWorld) : StoredHistory :=
  ⟨w.monitor, w.reports, w.config.lastCleanupAt⟩

@[simp] theorem calls_enter (w : RowWorld) (id : Nat) (call : RowCall) :
    (w.enter id call).calls id = call := by
  simp [enter]

/-- `config.save()`: every column of the object. -/
def saveForm (w : RowWorld) (loaded : SettingsRow) (managed : ManagedSettings) :
    RowWorld :=
  { w with
    row := some (loaded.withManaged managed)
    written := w.written.withManaged managed }

/-- `config.save(update_fields=["last_weekly_report_at", "updated_at"])` -/
def saveReportMarker (w : RowWorld) (now : Time) : RowWorld :=
  { w with
    row := some { w.config with lastWeeklyReportAt := some now }
    written := { w.written with lastWeeklyReportAt := some now } }

/-- `config.save(update_fields=["last_cleanup_at", "updated_at"])` -/
def saveCleanupMarker (w : RowWorld) (now : Time) : RowWorld :=
  { w with
    row := some { w.config with lastCleanupAt := some now }
    written := { w.written with lastCleanupAt := some now } }

end RowWorld

instance (config : SettingsRow) (now : Time) : Decidable (IsDue config now) :=
  decidable_of_iff
    (config.weeklyReportEnabled = true ∧
      weekday (localDay now) = config.weeklyReportDay ∧
      (config.weeklyReportHour : Int) ≤ localHour now ∧
      ∀ last ∈ config.lastWeeklyReportAt,
        isoWeek (localDay last) ≠ isoWeek (localDay now))
    ⟨fun ⟨h₁, h₂, h₃, h₄⟩ => ⟨h₁, h₂, h₃, h₄⟩,
      fun ⟨h₁, h₂, h₃, h₄⟩ => ⟨h₁, h₂, h₃, h₄⟩⟩

structure CleansUp (config : SettingsRow) (now : Time) : Prop where
  rested : ∀ last ∈ config.lastCleanupAt, ¬ now - last < 24 * hour
  cutoff : ¬ now - days (max 1 config.resolvedAlertRetentionDays) < datetimeMin

instance (config : SettingsRow) (now : Time) : Decidable (CleansUp config now) :=
  decidable_of_iff
    ((∀ last ∈ config.lastCleanupAt, ¬ now - last < 24 * hour) ∧
      ¬ now - days (max 1 config.resolvedAlertRetentionDays) < datetimeMin)
    ⟨fun ⟨h₁, h₂⟩ => ⟨h₁, h₂⟩, fun ⟨h₁, h₂⟩ => ⟨h₁, h₂⟩⟩

/-! ## Steps -/

inductive RowEvent where
  | formLoad (id : Nat) (requester : Requester) (form : Form)
  | formSave (id : Nat)
  | reportLoad (id : Nat) (call : ReportCall)
  | reportSend (id : Nat)
  | reportSave (id : Nat)
  | cleanupLoad (id : Nat) (now : Time)
  | cleanupSave (id : Nat)
  /-- what cycles and other requests do to the other tables -/
  | elsewhere (monitor : MonitorState) (instances : InstanceTable)

section Steps

-- whether the database has row locks; SQLite has none
variable (rowLocks : Bool) (lib : SettingsLibrary)

def openForm (id : Nat) (requester : Requester) (form : Form) (w : RowWorld) :
    RowWorld :=
  match requireGlobalNotificationAccess requester.tables requester.user with
  | .error _ => w
  | .ok _ =>
      match checkSettings lib form with
      | .error _ => w.load
      | .ok managed => w.load.enter id (.editing w.config managed)

def sendReports (id : Nat) (call : ReportCall) (w : RowWorld) : RowWorld :=
  let sent := sendWeeklyReports w.instances w.monitor.lockAlerts call
    w.reportState
  { w.load.enter id (if sent.1 then .delivered call.now else .idle) with
    reports := sent.2.reports
    nextReportPk := sent.2.nextReportPk
    posts := sent.2.posts }

def deleteOld (loaded : SettingsRow) (now : Time) (w : RowWorld) : RowWorld :=
  let cleaned := (cleanupMonitorHistory now
    (some loaded.resolvedAlertRetentionDays)
    ⟨w.monitor, w.reports, loaded.lastCleanupAt⟩).2
  { w with monitor := cleaned.monitor, reports := cleaned.reports }

def rowStep (w : RowWorld) : RowEvent → Option RowWorld
  | .formLoad id requester form =>
      match w.calls id with
      | .idle => some (openForm lib id requester form w)
      | _ => none
  | .formSave id =>
      match w.calls id with
      | .editing loaded managed =>
          if w.locked then none
          else if lib.storable managed then
            some ((w.saveForm loaded managed).enter id .idle)
          else some (w.enter id .idle)
      | _ => none
  | .reportLoad id call =>
      match w.calls id with
      | .idle =>
          if IsDue w.config call.now then
            some (w.load.enter id (.reporting call))
          else some w.load
      | _ => none
  | .reportSend id =>
      match w.calls id with
      | .reporting call => some (sendReports id call w)
      | _ => none
  | .reportSave id =>
      match w.calls id with
      | .delivered now =>
          if w.locked then none
          else some ((w.saveReportMarker now).enter id .idle)
      | _ => none
  | .cleanupLoad id now =>
      match w.calls id with
      | .idle =>
          if w.locked then none
          else
            match w.row with
            | none => some w
            | some loaded =>
                if CleansUp loaded now then
                  some { w.enter id (.cleaning loaded now) with
                    locked := rowLocks }
                else some w
      | _ => none
  | .cleanupSave id =>
      match w.calls id with
      | .cleaning loaded now =>
          some { ((deleteOld loaded now w).saveCleanupMarker now).enter id
            .idle with locked := false }
      | _ => none
  | .elsewhere monitor instances =>
      some { w with monitor := monitor, instances := instances }

/-! ## A call that nothing interrupts -/

def attempt (w : RowWorld) (events : List RowEvent) : RowWorld :=
  events.foldl (fun w event => (rowStep rowLocks lib w event).getD w) w

variable {rowLocks lib} {w : RowWorld} {id : Nat}

theorem withManaged_eq_iff {row row' : SettingsRow} {managed : ManagedSettings} :
    row.withManaged managed = row'.withManaged managed ↔
      row.lastWeeklyReportAt = row'.lastWeeklyReportAt ∧
        row.lastCleanupAt = row'.lastCleanupAt := by
  simp [SettingsRow.withManaged, and_comm]

theorem notificationSettings_config {requester : Requester} {form : Form}
    {excludedIds : List String} {s : RegistryState} :
    (notificationSettings lib form requester excludedIds s).2.config =
      match requireGlobalNotificationAccess requester.tables requester.user with
      | .error _ => s.config
      | .ok _ =>
          match checkSettings lib form with
          | .error _ => s.config
          | .ok managed =>
              if lib.storable managed then s.config.withManaged managed
              else s.config := by
  unfold notificationSettings
  simp only [Call.bind_run, Call.ofExcept_run]
  cases requireGlobalNotificationAccess requester.tables requester.user with
  | error _ => rfl
  | ok _ =>
      cases checkSettings lib form with
      | error _ => rfl
      | ok managed =>
          cases hstorable : lib.storable managed with
          | false => simp [hstorable, Except.mapError, Call.bind_run]
          | true =>
              simp only [hstorable, Except.mapError, Bool.not_true,
                Bool.false_eq_true, ite_false, ite_true, Call.bind_run,
                Call.modify_run]
              split
              · cases (excludedIds.filter (isDigitText lib)).mapM
                  lib.parseInt <;> rfl
              · rfl

theorem attempt_form {requester : Requester} {form : Form}
    {excludedIds : List String} (hidle : w.calls id = .idle)
    (hfree : w.locked = false) :
    (attempt rowLocks lib w [.formLoad id requester form, .formSave id]).config =
      (notificationSettings lib form requester excludedIds
        ⟨w.config, w.instances⟩).2.config := by
  rw [notificationSettings_config]
  simp only [attempt, List.foldl_cons, List.foldl_nil, rowStep, hidle, openForm,
    Option.getD_some]
  cases requireGlobalNotificationAccess requester.tables requester.user with
  | error _ => simp [hidle]
  | ok _ =>
      cases checkSettings lib form with
      | error _ => simp [hidle, RowWorld.load, RowWorld.config]
      | ok managed =>
          have hopen : (w.load.enter id (.editing w.config managed)).locked =
              false := hfree
          simp only [RowWorld.calls_enter, hopen, Bool.false_eq_true, ite_false]
          split <;> rfl

theorem reportState_sendReports {call : ReportCall} :
    (sendReports id call w).reportState = (sendWeeklyReports w.instances
      w.monitor.lockAlerts call w.reportState).2 := by
  have hsends : Sends call (weeklyAlerts (reportNames w.instances) call.now none
      w.monitor.lockAlerts) w.reportState (reportRecipients w.instances)
      (sendWeeklyReports w.instances w.monitor.lockAlerts call
        w.reportState) := sends_weekly_reports
  have hconfig := hsends.config
  unfold sendReports
  generalize sendWeeklyReports w.instances w.monitor.lockAlerts call
    w.reportState = sent at hconfig ⊢
  obtain ⟨delivered, config, reports, nextReportPk, posts⟩ := sent
  simp only at hconfig
  subst hconfig
  rfl

theorem calls_sendReports {call : ReportCall} :
    (sendReports id call w).calls id =
      if (sendWeeklyReports w.instances w.monitor.lockAlerts call
        w.reportState).1 then .delivered call.now else .idle :=
  RowWorld.calls_enter _ _ _

theorem attempt_report {call : ReportCall} (hidle : w.calls id = .idle)
    (hfree : w.locked = false) :
    (attempt rowLocks lib w
      [.reportLoad id call, .reportSend id, .reportSave id]).reportState =
      (maybeSendWeeklyReport w.instances w.monitor.lockAlerts call
        w.reportState).2 := by
  simp only [attempt, List.foldl_cons, List.foldl_nil]
  by_cases hdue : IsDue w.config call.now
  · have hdue' : IsDue w.reportState.config call.now := hdue
    let loaded := w.load.enter id (.reporting call)
    let sent := sendReports id call loaded
    have hload : rowStep rowLocks lib w (.reportLoad id call) = some loaded := by
      simp only [rowStep, hidle, hdue, ite_true, loaded]
    have hsend : rowStep rowLocks lib loaded (.reportSend id) = some sent := by
      simp only [rowStep, loaded, RowWorld.calls_enter, sent]
    have hstate : sent.reportState = (sendWeeklyReports w.instances
        w.monitor.lockAlerts call w.reportState).2 := reportState_sendReports
    have hcall : sent.calls id = if (sendWeeklyReports w.instances
        w.monitor.lockAlerts call w.reportState).1 then .delivered call.now
        else .idle := calls_sendReports
    have hunlocked : sent.locked = false := hfree
    rw [maybeSendWeeklyReport_due hdue', hload, Option.getD_some, hsend,
      Option.getD_some, marked, ← hstate]
    split at hcall
    · rename_i hdelivered
      have hsave : rowStep rowLocks lib sent (.reportSave id) =
          some ((sent.saveReportMarker call.now).enter id .idle) := by
        simp [rowStep, hcall, hunlocked]
      rw [hsave, if_pos hdelivered]
      rfl
    · rename_i hundelivered
      have hsave : rowStep rowLocks lib sent (.reportSave id) = none := by
        simp [rowStep, hcall]
      rw [hsave, if_neg hundelivered]
      rfl
  · have hload : rowStep rowLocks lib w (.reportLoad id call) = some w.load := by
      simp only [rowStep, hidle, hdue, ite_false]
    have hidle' : w.load.calls id = .idle := hidle
    have hsend : rowStep rowLocks lib w.load (.reportSend id) = none := by
      simp [rowStep, hidle']
    have hsave : rowStep rowLocks lib w.load (.reportSave id) = none := by
      simp [rowStep, hidle']
    rw [hload, Option.getD_some, hsend, Option.getD_none, hsave,
      Option.getD_none]
    have hend : ReportEnd w.instances w.monitor.lockAlerts call w.reportState
        (maybeSendWeeklyReport w.instances w.monitor.lockAlerts call
          w.reportState) := maybeSendWeeklyReport_end
    generalize maybeSendWeeklyReport w.instances w.monitor.lockAlerts call
      w.reportState = result at hend ⊢
    cases hend with
    | notDue => rfl
    | undelivered hdue' => exact absurd hdue' hdue
    | delivered hdue' => exact absurd hdue' hdue

theorem cleanup_cleansUp (loaded : SettingsRow) (now : Time)
    (monitor : MonitorState) (reports : List LockReport) :
    (cleanupMonitorHistory now (some loaded.resolvedAlertRetentionDays)
      ⟨monitor, reports, loaded.lastCleanupAt⟩).2.lastCleanupAt =
        (if CleansUp loaded now then some now else loaded.lastCleanupAt) ∧
    (¬ CleansUp loaded now →
      (cleanupMonitorHistory now (some loaded.resolvedAlertRetentionDays)
        ⟨monitor, reports, loaded.lastCleanupAt⟩).2 =
        ⟨monitor, reports, loaded.lastCleanupAt⟩) := by
  unfold cleanupMonitorHistory
  dsimp only
  split
  · rename_i hrecent
    obtain ⟨last, hlast, hsoon⟩ := (Option.any_eq_true _ _).mp hrecent
    have hno : ¬ CleansUp loaded now := fun hclean =>
      hclean.rested last hlast (of_decide_eq_true hsoon)
    simp [hno]
  · rename_i hrested
    split
    · rename_i hcutoff
      have hno : ¬ CleansUp loaded now := fun hclean => hclean.cutoff hcutoff
      simp [hno]
    · rename_i hcutoff
      have hclean : CleansUp loaded now := by
        refine ⟨?_, hcutoff⟩
        intro last hlast hsoon
        apply hrested
        exact (Option.any_eq_true _ _).mpr ⟨last, hlast, decide_eq_true hsoon⟩
      simp [hclean]

theorem attempt_cleanup {now : Time} (hidle : w.calls id = .idle)
    (hfree : w.locked = false) :
    (attempt rowLocks lib w [.cleanupLoad id now, .cleanupSave id]).history =
      (cleanupMonitorHistory now (w.row.map fun row =>
        row.resolvedAlertRetentionDays) w.history).2 := by
  cases hrow : w.row with
  | none =>
      simp [attempt, rowStep, hidle, hfree, hrow, cleanupMonitorHistory]
  | some loaded =>
      have hconfig : w.config = loaded := by simp [RowWorld.config, hrow]
      obtain ⟨hmarker, hkept⟩ :=
        cleanup_cleansUp loaded now w.monitor w.reports
      simp only [attempt, List.foldl_cons, List.foldl_nil, Option.map_some]
      unfold RowWorld.history
      rw [hconfig]
      by_cases hclean : CleansUp loaded now
      · let locked := { w.enter id (.cleaning loaded now) with locked := rowLocks }
        have hload : rowStep rowLocks lib w (.cleanupLoad id now) =
            some locked := by
          simp [rowStep, hidle, hfree, hrow, hclean, locked]
        have hsave : rowStep rowLocks lib locked (.cleanupSave id) =
            some { ((deleteOld loaded now locked).saveCleanupMarker now).enter id
              .idle with locked := false } := by
          simp [rowStep, locked]
        rw [if_pos hclean] at hmarker
        rw [hload, Option.getD_some, hsave, Option.getD_some]
        exact congrArg (StoredHistory.mk _ _) hmarker.symm
      · have hload : rowStep rowLocks lib w (.cleanupLoad id now) = some w := by
          simp [rowStep, hidle, hfree, hrow, hclean]
        have hsave : rowStep rowLocks lib w (.cleanupSave id) = none := by
          simp [rowStep, hidle]
        rw [hload, Option.getD_some, hsave, Option.getD_none, hkept hclean,
          hconfig]

/-! ## Lost updates -/

/-- The row has every field as the call that is there to set it last wrote it. -/
def NothingLost (w : RowWorld) : Prop := w.config = w.written

def FreshMarkers (lib : SettingsLibrary) (w : RowWorld) : RowEvent → Prop
  | .formSave id =>
      match w.calls id with
      | .editing loaded managed => lib.storable managed = true →
          loaded.lastWeeklyReportAt = w.config.lastWeeklyReportAt ∧
            loaded.lastCleanupAt = w.config.lastCleanupAt
      | _ => True
  | _ => True

instance (lib : SettingsLibrary) (w : RowWorld) :
    (event : RowEvent) → Decidable (FreshMarkers lib w event)
  | .formSave id => by
      change Decidable (match w.calls id with
        | .editing _ managed => lib.storable managed = true → _ ∧ _
        | _ => True)
      split <;> infer_instance
  | .formLoad .. => .isTrue trivial
  | .reportLoad .. => .isTrue trivial
  | .reportSend _ => .isTrue trivial
  | .reportSave _ => .isTrue trivial
  | .cleanupLoad .. => .isTrue trivial
  | .cleanupSave _ => .isTrue trivial
  | .elsewhere .. => .isTrue trivial

variable {w' : RowWorld} {event : RowEvent}

inductive RowChange (lib : SettingsLibrary) (w : RowWorld) :
    RowEvent → RowWorld → Prop
  | kept {event : RowEvent} {w' : RowWorld} : FreshMarkers lib w event →
      w'.config = w.config → w'.written = w.written → RowChange lib w event w'
  | form {id : Nat} {loaded : SettingsRow} {managed : ManagedSettings}
      {w' : RowWorld} :
      w.calls id = .editing loaded managed → lib.storable managed = true →
      w'.config = loaded.withManaged managed →
      w'.written = w.written.withManaged managed →
      RowChange lib w (.formSave id) w'
  | reportMarker {id : Nat} {w' : RowWorld} (now : Time) :
      w'.config = { w.config with lastWeeklyReportAt := some now } →
      w'.written = { w.written with lastWeeklyReportAt := some now } →
      RowChange lib w (.reportSave id) w'
  | cleanupMarker {id : Nat} {w' : RowWorld} (now : Time) :
      w'.config = { w.config with lastCleanupAt := some now } →
      w'.written = { w.written with lastCleanupAt := some now } →
      RowChange lib w (.cleanupSave id) w'

theorem openForm_row {requester : Requester} {form : Form} :
    (openForm lib id requester form w).config = w.config ∧
      (openForm lib id requester form w).written = w.written := by
  unfold openForm
  split
  · exact ⟨rfl, rfl⟩
  · split <;> exact ⟨rfl, rfl⟩

theorem rowChange_of_step (hstep : rowStep rowLocks lib w event = some w') :
    RowChange lib w event w' := by
  cases event with
  | elsewhere monitor instances =>
      cases hstep
      exact .kept trivial rfl rfl
  | formLoad id requester form =>
      simp only [rowStep] at hstep
      split at hstep
      · cases hstep
        exact .kept trivial openForm_row.1 openForm_row.2
      · cases hstep
  | formSave id =>
      simp only [rowStep] at hstep
      split at hstep
      · rename_i loaded managed hcall
        obtain ⟨-, hsave⟩ := Option.ite_none_left_eq_some.mp hstep
        split at hsave
        · rename_i hstorable
          cases hsave
          exact .form hcall hstorable rfl rfl
        · rename_i hrefused
          cases hsave
          refine .kept ?_ rfl rfl
          simp [FreshMarkers, hcall, hrefused]
      · cases hstep
  | reportLoad id call =>
      simp only [rowStep] at hstep
      split at hstep
      · split at hstep <;> cases hstep <;> exact .kept trivial rfl rfl
      · cases hstep
  | reportSend id =>
      simp only [rowStep] at hstep
      split at hstep
      · cases hstep
        exact .kept trivial rfl rfl
      · cases hstep
  | reportSave id =>
      simp only [rowStep] at hstep
      split at hstep
      · obtain ⟨-, ⟨⟩⟩ := Option.ite_none_left_eq_some.mp hstep
        exact .reportMarker _ rfl rfl
      · cases hstep
  | cleanupLoad id now =>
      simp only [rowStep] at hstep
      split at hstep
      · obtain ⟨-, hload⟩ := Option.ite_none_left_eq_some.mp hstep
        split at hload
        · cases hload
          exact .kept trivial rfl rfl
        · split at hload <;> cases hload <;> exact .kept trivial rfl rfl
      · cases hstep
  | cleanupSave id =>
      simp only [rowStep] at hstep
      split at hstep
      · cases hstep
        exact .cleanupMarker _ rfl rfl
      · cases hstep

theorem nothingLost_step (h : NothingLost w) (hfresh : FreshMarkers lib w event)
    (hstep : rowStep rowLocks lib w event = some w') : NothingLost w' := by
  have hwritten : w.config = w.written := h
  unfold NothingLost
  cases rowChange_of_step hstep with
  | kept _ hconfig hkept => rw [hconfig, hkept, hwritten]
  | form hcall hstorable hconfig hsaved =>
      simp only [FreshMarkers, hcall] at hfresh
      rw [hconfig, hsaved, withManaged_eq_iff, ← hwritten]
      exact hfresh hstorable
  | reportMarker now hconfig hsaved => rw [hconfig, hsaved, hwritten]
  | cleanupMarker now hconfig hsaved => rw [hconfig, hsaved, hwritten]

theorem lost_of_stale (h : NothingLost w) (hstale : ¬ FreshMarkers lib w event)
    (hstep : rowStep rowLocks lib w event = some w') : ¬ NothingLost w' := by
  have hwritten : w.config = w.written := h
  cases rowChange_of_step hstep with
  | kept hfresh => exact absurd hfresh hstale
  | form hcall hstorable hconfig hsaved =>
      intro hkept
      apply hstale
      simp only [FreshMarkers, hcall]
      intro _
      unfold NothingLost at hkept
      rwa [hconfig, hsaved, withManaged_eq_iff, ← hwritten] at hkept
  | reportMarker => exact absurd trivial hstale
  | cleanupMarker => exact absurd trivial hstale

end Steps

/--
No update is lost in a run of interleaved calls exactly if every form that is
saved was loaded with the markers that are in the row when it is saved.
-/
theorem nothing_lost_iff_fresh {rowLocks : Bool} {lib : SettingsLibrary}
    {start w : RowWorld} {events : List RowEvent}
    (hrun : Run (Enabled (rowStep rowLocks lib)) start events w)
    (hstart : NothingLost start) :
    Always (rowStep rowLocks lib) NothingLost start events ↔
      Run (Guarded (FreshMarkers lib) (Enabled (rowStep rowLocks lib))) start
        events w :=
  always_iff_guarded (fun _ _ _ h hfresh hstep => nothingLost_step h hfresh hstep)
    (fun _ _ _ h hstale hstep => lost_of_stale h hstale hstep) hstart hrun

/-! ## A form that is open while the report goes out -/

def settingsLibrary : SettingsLibrary where
  parseInt text := [("120", 120), ("100", 100), ("60", 60), ("30", 30), ("9", 9),
    ("7", 7), ("3", 3)].lookup text
  parseTime text := [("09:00", 9 * hour), ("21:00", 21 * hour)].lookup text
  casefold := id
  isDigit := Char.isDigit
  validUrl _ := true
  storable _ := true

def thursdayForm : Form := fun key =>
  [("weekly_report_enabled", "on"), ("weekly_report_day", "3")].lookup key

def reportingRow : RowWorld where
  row := some reportingWorld.state.config
  reports := []
  nextReportPk := 1
  posts := []
  monitor := .empty
  instances := reportingWorld.instances
  calls _ := .idle
  locked := false
  written := reportingWorld.state.config

def reportSteps (id : Nat) (now : Time) : List RowEvent :=
  [.reportLoad id ⟨now, now, fun text => text, fun _ _ => .accepted⟩,
    .reportSend id, .reportSave id]

def formAroundReport : List RowEvent :=
  .formLoad 0 administrator thursdayForm ::
    (reportSteps 1 (4 * hour) ++ [.formSave 0])

def formInsideReport : List RowEvent :=
  [.reportLoad 1 ⟨4 * hour, 4 * hour, fun text => text, fun _ _ => .accepted⟩,
    .formLoad 0 administrator thursdayForm, .reportSend 1, .formSave 0,
    .reportSave 1, .cleanupLoad 2 (5 * hour), .cleanupSave 2]

theorem form_inside_report :
    Always (rowStep true settingsLibrary) NothingLost reportingRow
      formInsideReport := by
  have hsome : (execute (fun w event =>
      if FreshMarkers settingsLibrary w event then
        rowStep true settingsLibrary w event
      else none) reportingRow formInsideReport).isSome = true := by
    decide +kernel
  obtain ⟨w, hw⟩ := Option.isSome_iff_exists.mp hsome
  have hfresh := run_of_execute_guarded hw
  exact (nothing_lost_iff_fresh (hfresh.mono fun _ _ _ h => h.2) rfl).mpr hfresh

theorem stale_form_undoes_marker :
    ∃ w, execute (rowStep true settingsLibrary) reportingRow formAroundReport =
        some w ∧ NothingLost reportingRow ∧
      w.written.lastWeeklyReportAt = some (4 * hour) ∧
      w.config.lastWeeklyReportAt = none := by
  have hend : ((execute (rowStep true settingsLibrary) reportingRow
      formAroundReport).map fun w =>
        (w.written.lastWeeklyReportAt, w.config.lastWeeklyReportAt)) =
      some (some (4 * hour), none) := by decide +kernel
  obtain ⟨w, hw, hmarkers⟩ := Option.map_eq_some_iff.mp hend
  exact ⟨w, hw, rfl, congrArg Prod.fst hmarkers, congrArg Prod.snd hmarkers⟩

end HealthGrid.Background
