import HealthGrid.Registry.Forms

/-!
# The notification settings form

One row holds what the form manages and the markers of the monitor.  The form
saves the row it has loaded, with every managed field replaced; Administrators
also choose the instances that the shared channel leaves out.
-/

namespace HealthGrid.Registry

open HealthGrid.Foundation HealthGrid.Foundation.PyText HealthGrid.Db
open HealthGrid.Access

structure ManagedSettings extends NotificationSettings where
  channelWebhookUrl : String
  intervalSeconds : Nat
  weeklyReportEnabled : Bool
  weeklyReportDay : Nat
  weeklyReportHour : Nat
  reportBaseUrl : String
  reportRetentionDays : Nat
  resolvedAlertRetentionDays : Nat
  deriving DecidableEq, Repr

/-- The row; nothing reads its `updated_at`. -/
structure SettingsRow extends ManagedSettings where
  lastCleanupAt : Option Time
  lastWeeklyReportAt : Option Time
  deriving DecidableEq, Repr

def SettingsRow.defaults : SettingsRow where
  toNotificationSettings := .defaults
  channelWebhookUrl := ""
  intervalSeconds := 30
  weeklyReportEnabled := false
  weeklyReportDay := 0
  weeklyReportHour := 9
  reportBaseUrl := ""
  reportRetentionDays := 7
  resolvedAlertRetentionDays := 30
  lastCleanupAt := none
  lastWeeklyReportAt := none

/--
`int`, `strptime` with `%H:%M`, `casefold`, `isdigit` of a character, the URL
validator, and which settings the columns take.
-/
structure SettingsLibrary where
  parseInt : String → Option Int
  parseTime : String → Option Int
  casefold : String → String
  isDigit : Char → Bool
  validUrl : String → Bool
  storable : ManagedSettings → Bool

variable (lib : SettingsLibrary) (form : Form)

/-! ## Validation -/

def rstripSlash (text : String) : String :=
  String.ofList (text.toList.rdropWhile (· == '/'))

/-- The names without repetition; equal foldings keep the order of the form. -/
def excludedUsers : String :=
  let names := (((form.text "manual_query_excluded_users" "").toList.splitOn
    ',').map fun name => stripText (String.ofList name)).filter (· ≠ "")
  ",".intercalate (names.dedup.insertionSort fun name name' =>
    lib.casefold name ≤ lib.casefold name')

def checkUrl (url what invalid : String) : Except String Unit :=
  if url.length > 2048 then
    .error ("The " ++ what ++ " must be 2048 characters or fewer.")
  else if url ≠ "" ∧ lib.validUrl url = false then .error invalid
  else .ok ()

structure SubmittedNumbers where
  threshold : Int
  interval : Int
  lockStormThreshold : Int
  reportDay : Int
  reportHour : Int
  reportRetentionDays : Int
  retentionDays : Int
  scheduleStart : Int
  scheduleEnd : Int
  manualQueryThreshold : Int
  deriving DecidableEq, Repr

def submittedNumbers : Option SubmittedNumbers := do
  let int (key default : String) := lib.parseInt (form.text key default)
  let time (key default : String) := lib.parseTime (form.text key default)
  return {
    threshold := ← int "threshold_seconds" "120"
    interval := ← int "interval_seconds" "30"
    lockStormThreshold := ← int "lock_storm_threshold" "100"
    reportDay := ← int "weekly_report_day" "0"
    reportHour := ← int "weekly_report_hour" "9"
    reportRetentionDays := ← int "report_retention_days" "7"
    retentionDays := ← int "resolved_alert_retention_days" "30"
    scheduleStart := ← time "notification_start_time" "09:00"
    scheduleEnd := ← time "notification_end_time" "21:00"
    manualQueryThreshold := ← int "manual_query_threshold_seconds" "60" }

def scheduleEnabled : Bool := form.checked "notification_schedule_enabled"

structure SubmittedNumbers.Valid (n : SubmittedNumbers) : Prop where
  threshold : 1 ≤ n.threshold
  interval : 1 ≤ n.interval
  storm : 0 ≤ n.lockStormThreshold ∧ n.lockStormThreshold ≤ 100000
  day : 0 ≤ n.reportDay ∧ n.reportDay < 7
  hour : 0 ≤ n.reportHour ∧ n.reportHour < 24
  reports : n.reportRetentionDays ∈ [2, 3, 7]
  retention : 7 ≤ n.retentionDays ∧ n.retentionDays ≤ 3650
  schedule : ¬ (scheduleEnabled form = true ∧ n.scheduleStart = n.scheduleEnd)
  manualQuery : 1 ≤ n.manualQueryThreshold
  excluded : (excludedUsers lib form).length ≤ 4000

instance (n : SubmittedNumbers) : Decidable (n.Valid lib form) :=
  decidable_of_iff
    (1 ≤ n.threshold ∧ 1 ≤ n.interval ∧
      (0 ≤ n.lockStormThreshold ∧ n.lockStormThreshold ≤ 100000) ∧
      (0 ≤ n.reportDay ∧ n.reportDay < 7) ∧
      (0 ≤ n.reportHour ∧ n.reportHour < 24) ∧
      n.reportRetentionDays ∈ [2, 3, 7] ∧
      (7 ≤ n.retentionDays ∧ n.retentionDays ≤ 3650) ∧
      ¬ (scheduleEnabled form = true ∧ n.scheduleStart = n.scheduleEnd) ∧
      1 ≤ n.manualQueryThreshold ∧ (excludedUsers lib form).length ≤ 4000)
    ⟨fun ⟨h₁, h₂, h₃, h₄, h₅, h₆, h₇, h₈, h₉, h₁₀⟩ =>
        ⟨h₁, h₂, h₃, h₄, h₅, h₆, h₇, h₈, h₉, h₁₀⟩,
      fun ⟨h₁, h₂, h₃, h₄, h₅, h₆, h₇, h₈, h₉, h₁₀⟩ =>
        ⟨h₁, h₂, h₃, h₄, h₅, h₆, h₇, h₈, h₉, h₁₀⟩⟩

def managedSettings (webhookUrl reportBaseUrl : String) (n : SubmittedNumbers) :
    ManagedSettings where
  thresholdSeconds := n.threshold.toNat
  lockStormThreshold := n.lockStormThreshold.toNat
  notificationScheduleEnabled := scheduleEnabled form
  notificationStartTime := n.scheduleStart
  notificationEndTime := n.scheduleEnd
  manualQueryAlertEnabled := form.checked "manual_query_alert_enabled"
  manualQueryThresholdSeconds := n.manualQueryThreshold.toNat
  manualQueryExcludedUsers := excludedUsers lib form
  channelWebhookUrl := webhookUrl
  intervalSeconds := n.interval.toNat
  weeklyReportEnabled := form.checked "weekly_report_enabled"
  weeklyReportDay := n.reportDay.toNat
  weeklyReportHour := n.reportHour.toNat
  reportBaseUrl := reportBaseUrl
  reportRetentionDays := n.reportRetentionDays.toNat
  resolvedAlertRetentionDays := n.retentionDays.toNat

def checkSettings : Except String ManagedSettings := do
  let webhookUrl := stripText (form.text "channel_webhook_url" "")
  checkUrl lib webhookUrl "Teams webhook URL"
    "Enter a valid Teams webhook URL or leave the field blank."
  let reportBaseUrl :=
    rstripSlash (stripText (form.text "report_base_url" ""))
  checkUrl lib reportBaseUrl "public dashboard URL"
    "Enter a valid public dashboard URL or leave the field blank."
  match submittedNumbers lib form with
  | none =>
      .error ("Enter valid numeric values and notification times in HH:MM " ++
        "format.")
  | some n =>
      if n.Valid lib form then
        .ok (managedSettings lib form webhookUrl reportBaseUrl n)
      else
        .error ("Use valid thresholds, a lock-storm threshold from 0 to " ++
          "100000, different notification start/end times, report retention " ++
          "of 2, 3, or 7 days, resolved retention from 7 to 3650 days, and a " ++
          "valid excluded-user list.")

def SettingsRow.withManaged (row : SettingsRow) (managed : ManagedSettings) :
    SettingsRow :=
  { row with toManagedSettings := managed }

/-! ## The view -/

structure RegistryState where
  config : SettingsRow
  instances : InstanceTable

def isDigitText (text : String) : Bool :=
  text ≠ "" && text.toList.all lib.isDigit

def withExclusion (excluded : Bool) (record : InstanceRecord) :
    InstanceRecord :=
  { record with excludeFromGlobalNotifications := excluded }

/-- `filter(is_active=True, …).update(exclude_from_global_notifications=…)` -/
def updateExclusion (chosen : InstanceRecord → Bool) (excluded : Bool)
    (instances : InstanceTable) : InstanceTable :=
  instances.update
    (fun record =>
      if record.isActive = true ∧ chosen record = true then
        withExclusion excluded record
      else record)
    (Keeps.ite
      (⟨fun _ => rfl, fun _ => rfl, fun _ hopen => hopen⟩ :
        Keeps (withExclusion excluded))
      fun record => record.isActive = true ∧ chosen record = true)

def notificationSettings (requester : Requester) (excludedIds : List String) :
    Call Refusal RegistryState Unit := do
  Call.ofExcept ((requireGlobalNotificationAccess requester.tables
    requester.user).mapError .raised)
  let managed ← Call.ofExcept ((checkSettings lib form).mapError .message)
  if !lib.storable managed then
    Call.raise (.raised (.appDatabaseError "integer out of range"))
  Call.modify fun s => { s with config := s.config.withManaged managed }
  if form.text "global_scope_submitted" "" = "1" ∧
      requester.user.isSuperuser then
    Call.modify fun s =>
      { s with instances := updateExclusion (fun _ => true) false s.instances }
    -- a digit that is no decimal passes `isdigit`, and the lookup raises
    match (excludedIds.filter (isDigitText lib)).mapM lib.parseInt with
    | none =>
        Call.raise (.valueError "Field 'id' expected a number but got a text.")
    | some pks =>
        Call.modify fun s =>
          { s with
            instances := updateExclusion
              (fun record => pks.contains (record.pk : Int)) true s.instances }

end HealthGrid.Registry
