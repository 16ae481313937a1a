import HealthGrid.Foundation.Cache
import HealthGrid.Foundation.Call
import HealthGrid.Foundation.CodeBook
import HealthGrid.Foundation.Csv
import HealthGrid.Foundation.CutText
import HealthGrid.Foundation.Dict
import HealthGrid.Foundation.FieldLines
import HealthGrid.Foundation.Grouping
import HealthGrid.Foundation.Intervals
import HealthGrid.Foundation.IsoCalendar
import HealthGrid.Foundation.Observation
import HealthGrid.Foundation.OpenTable
import HealthGrid.Foundation.PyText
import HealthGrid.Foundation.Run
import HealthGrid.Foundation.Throttle
import HealthGrid.Models
import HealthGrid.Db.Activity
import HealthGrid.Db.Connection
import HealthGrid.Db.QueryRunner
import HealthGrid.Db.ReplicationSlots
import HealthGrid.Db.ServerOverview
import HealthGrid.Db.Termination
import HealthGrid.Db.WriteStatement
import HealthGrid.Views.CachedPages
import HealthGrid.Views.Disclosure
import HealthGrid.Views.Downloads
import HealthGrid.Views.Kill
import HealthGrid.Views.Knowledge
import HealthGrid.Views.Overview
import HealthGrid.Views.QueryRunner
import HealthGrid.Views.Reading
import HealthGrid.Views.ReplicationSlots
import HealthGrid.Views.SameCards
import HealthGrid.Views.SamePages
import HealthGrid.QueryRunner.AuditTrail
import HealthGrid.QueryRunner.Interleaving
import HealthGrid.QueryRunner.TargetData
import HealthGrid.Monitor.CardRoundTrip
import HealthGrid.Monitor.CatalogFailure
import HealthGrid.Monitor.Cycle
import HealthGrid.Monitor.IncidentHistory
import HealthGrid.Monitor.Isolation
import HealthGrid.Monitor.LegacyAlerts
import HealthGrid.Monitor.LockAlerts
import HealthGrid.Monitor.LongQueries
import HealthGrid.Monitor.LongQueryRuns
import HealthGrid.Monitor.Notifications
import HealthGrid.Monitor.PairText
import HealthGrid.Monitor.Pruning
import HealthGrid.Monitor.QuietHours
import HealthGrid.Monitor.Snapshot
import HealthGrid.Monitor.SummaryChannel
import HealthGrid.Monitor.SummaryMessage
import HealthGrid.Monitor.UnstorableRows
import HealthGrid.Monitor.WaitingSeconds
import HealthGrid.Monitor.WebhookGuard
import HealthGrid.Monitor.WindowOpening
import HealthGrid.Kill.Attribution
import HealthGrid.Kill.Authorization
import HealthGrid.Kill.ChainAnswers
import HealthGrid.Kill.ClearAttribution
import HealthGrid.Kill.ClearReports
import HealthGrid.Kill.SessionContract
import HealthGrid.Mfa.AdminStepUp
import HealthGrid.Mfa.CodeThrottle
import HealthGrid.Mfa.Codes
import HealthGrid.Mfa.Enrollment
import HealthGrid.Mfa.LoginThrottle
import HealthGrid.Mfa.OneTimeCodes
import HealthGrid.Mfa.SessionHistory
import HealthGrid.Mfa.Sessions
import HealthGrid.Mfa.Throttle
import HealthGrid.Access.Delegation
import HealthGrid.Access.Demotion
import HealthGrid.Access.Permissions
import HealthGrid.Access.Privileges
import HealthGrid.Access.RoleSaving
import HealthGrid.Access.Routes
import HealthGrid.Access.UserManagement
import HealthGrid.Registry.Api
import HealthGrid.Registry.ConnectionGroups
import HealthGrid.Registry.ControlCredentials
import HealthGrid.Registry.Exclusion
import HealthGrid.Registry.Forms
import HealthGrid.Registry.Instances
import HealthGrid.Registry.LegacyGroups
import HealthGrid.Registry.QueryRunnerCredentials
import HealthGrid.Registry.Renaming
import HealthGrid.Registry.Requests
import HealthGrid.Registry.Settings
import HealthGrid.Registry.Visibility
import HealthGrid.Background.Lease
import HealthGrid.Background.MonitorCycle
import HealthGrid.Background.MonitorLoop
import HealthGrid.Background.ReportCsv
import HealthGrid.Background.ReportDownload
import HealthGrid.Background.ReportSchedule
import HealthGrid.Background.ReportWindow
import HealthGrid.Background.Retention
import HealthGrid.Background.SettingsRow
import HealthGrid.Background.WeeklyReport
