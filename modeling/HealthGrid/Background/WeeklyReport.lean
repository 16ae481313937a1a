import HealthGrid.Background.Retention
import HealthGrid.Foundation.IsoCalendar
import HealthGrid.Monitor.SummaryMessage
import HealthGrid.Registry.Settings

/-!
# Sending the weekly report

`maybe_send_weekly_report` and what it calls.  The report goes to the shared
channel and to the owner webhook of each active instance; the marker moves when
one of them accepts it.
-/

namespace HealthGrid.Background

open HealthGrid.Foundation HealthGrid.Foundation.PyText HealthGrid.Monitor
open HealthGrid.Db HealthGrid.Registry

/-! ## Local time -/

def localDay (now : Time) : Int := (now + 5 * hour + hour / 2) / (24 * hour)

def localHour (now : Time) : Int := localTime now / hour

/-! ## The payload -/

/-- A field as `csv.writer` writes it, quoted only where it has to be. -/
def csvField (text : String) : String :=
  if text.toList.any fun c => c = ',' || c = '"' || c = '\r' || c = '\n' then
    "\"" ++ String.ofList (text.toList.flatMap fun c =>
      if c = '"' then [c, c] else [c]) ++ "\""
  else text

def csvRow (fields : List String) : String :=
  ",".intercalate (fields.map csvField) ++ "\r\n"

def csvHeader : List String :=
  ["database", "db_identifier", "region", "status", "blocked_pid",
    "blocked_user", "blocking_pid", "blocking_user", "first_observed_ist",
    "last_observed_ist", "cleared_at_ist", "clear_reason", "cleared_by",
    "waiting_seconds", "blocked_query", "blocking_query"]

def csvAlert (record : InstanceRecord) (alert : LockAlert) : List String :=
  [record.name, record.dbIdentifier, record.region,
    if alert.resolvedAt.isNone then "ACTIVE" else "CLEARED",
    toString alert.blockedPid, alert.blockedUser, toString alert.blockingPid,
    alert.blockingUser, timestamp (some alert.firstSeenAt),
    timestamp (some alert.lastSeenAt), timestamp alert.resolvedAt,
    alert.clearReason, alert.clearedBy, toString alert.waitingSeconds,
    alert.blockedQuery, alert.blockingQuery]

def recordOf (instances : InstanceTable) (pk : Nat) : InstanceRecord :=
  (instances.findPk? pk).getD .blank

def csvReport (instances : InstanceTable) (alerts : List LockAlert) : String :=
  String.join (csvRow csvHeader :: alerts.map fun alert =>
    csvRow (csvAlert (recordOf instances alert.instancePk) alert))

/-- `f"rds-lock-report-{now:%Y%m%d-%H%M%S}.csv"` -/
def reportFileName (now : Time) : String :=
  let (year, month, day) := civilDate (localDay now)
  let seconds := localTime now / 1000000
  "rds-lock-report-" ++ toString year ++ twoDigits month ++ twoDigits day ++
    "-" ++ twoDigits (seconds / 3600) ++ twoDigits (seconds / 60 % 60) ++
    twoDigits (seconds % 60) ++ ".csv"

def reportUrl (sign : String → String) (reportPk : Nat)
    (reportBaseUrl : String) : String :=
  if reportBaseUrl = "" then ""
  else
    rstripSlash reportBaseUrl ++ "/reports/weekly/" ++
      quote "" (sign (toString reportPk)) ++ "/"

def weeklyReportMessage (scope fileName reportUrl : String) (rowCount : Nat)
    (generatedAt : Time) : String :=
  let delivery :=
    if reportUrl ≠ "" then "Power Automate downloads the signed report URL"
    else "Power Automate creates the file from csv_content"
  "\n".intercalate
    ["HealthGrid: WEEKLY LOCK REPORT", "Status: REPORT READY",
      "Database: " ++ scope, "Region: —",
      "Report rows: " ++ toString rowCount, "File name: " ++ fileName,
      "Delivery: " ++ delivery,
      "Generated at: " ++ timestamp (some generatedAt),
      "Message: Weekly blocked/blocking lock history is ready for OneDrive."]

structure ReportPayload where
  message : String
  fileName : String
  csvContent : String
  reportUrl : String
  reportRows : Nat
  deriving DecidableEq, Repr

/-! ## The calls -/

inductive ReportRecipient where
  | channel
  | owner (instancePk : Nat)
  deriving DecidableEq, Repr

inductive PostOutcome where
  | accepted
  | refused
  | raised
  deriving DecidableEq, Repr

structure ReportPost where
  recipient : ReportRecipient
  now : Time
  settings : ManagedSettings
  alerts : List LockAlert
  payload : ReportPayload
  accepted : Bool
  deriving DecidableEq, Repr

structure ReportState where
  config : SettingsRow
  reports : List LockReport
  nextReportPk : Nat
  posts : List ReportPost

/-- What one call finds: the tables, the signer, and what the webhooks do. -/
structure ReportCall where
  now : Time
  generatedAt : Time
  sign : String → String
  outcome : ReportRecipient → ReportPayload → PostOutcome

variable (instances : InstanceTable) (table : LockAlertTable)
  (call : ReportCall)

def maxInlineReportBytes : Nat := 20 * 1024

def sendReportToWebhook (recipient : ReportRecipient)
    (webhookUrl scope : String) (alerts : List LockAlert) (s : ReportState) :
    Bool × ReportState :=
  if webhookUrl = "" then (false, s)
  else
    let csvContent := csvReport instances alerts
    let fileName := reportFileName call.now
    let report : LockReport :=
      ⟨s.nextReportPk, fileName, csvContent,
        call.now + days s.config.reportRetentionDays⟩
    let stored := { s with
      reports := s.reports ++ [report]
      nextReportPk := s.nextReportPk + 1 }
    let url := reportUrl call.sign report.pk s.config.reportBaseUrl
    if url = "" && csvContent.utf8ByteSize > maxInlineReportBytes then
      (false, stored)
    else
      let payload : ReportPayload :=
        { message := weeklyReportMessage scope fileName url alerts.length
            call.generatedAt
          fileName := fileName
          csvContent := if url = "" then csvContent else ""
          reportUrl := url
          reportRows := alerts.length }
      let accepted := call.outcome recipient payload == .accepted
      (accepted, { stored with
        posts := stored.posts ++ [⟨recipient, call.now,
          s.config.toManagedSettings, alerts, payload, accepted⟩] })

/-- `filter(is_active=True).exclude(owner_teams_webhook_url="")`, by name. -/
def reportedInstances : List InstanceRecord :=
  (instances.rows.filter fun record =>
    record.isActive && record.ownerTeamsWebhookUrl != "").insertionSort
      fun record record' => record.name ≤ record'.name

def reportNames (pk : Nat) : String := (recordOf instances pk).name

def sendToOwner (result : Bool × ReportState) (record : InstanceRecord) :
    Bool × ReportState :=
  let sent := sendReportToWebhook instances call (.owner record.pk)
    record.ownerTeamsWebhookUrl (str record)
    (weeklyAlerts (reportNames instances) call.now (some record.pk) table)
    result.2
  (sent.1 || result.1, sent.2)

def sendToChannel (s : ReportState) : Bool × ReportState :=
  let allAlerts := weeklyAlerts (reportNames instances) call.now none table
  if s.config.channelWebhookUrl ≠ "" ∧ allAlerts ≠ [] then
    sendReportToWebhook instances call .channel s.config.channelWebhookUrl
      "All monitored databases" allAlerts s
  else (false, s)

def sendWeeklyReports (s : ReportState) : Bool × ReportState :=
  let s := { s with
    reports := s.reports.filter fun report =>
      !decide (report.expiresAt < call.now) }
  (reportedInstances instances).foldl (sendToOwner instances table call)
    (sendToChannel instances table call s)

def maybeSendWeeklyReport (s : ReportState) : Bool × ReportState :=
  if !s.config.weeklyReportEnabled then (false, s)
  else if weekday (localDay call.now) ≠ s.config.weeklyReportDay ||
      localHour call.now < s.config.weeklyReportHour then (false, s)
  else
    let scheduledWeek := isoWeek (localDay call.now)
    if s.config.lastWeeklyReportAt.any fun last =>
        isoWeek (localDay last) == scheduledWeek then (false, s)
    else
      let (delivered, s) := sendWeeklyReports instances table call s
      if delivered then
        (true, { s with
          config := { s.config with lastWeeklyReportAt := some call.now } })
      else (false, s)

end HealthGrid.Background
