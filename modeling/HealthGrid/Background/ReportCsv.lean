import HealthGrid.Background.ReportSchedule
import HealthGrid.Foundation.Csv

/-!
# Reading a weekly report back

The texts of an incident are those of the monitored sessions: a user name or a
query may contain commas, quotation marks and line breaks.  Whether a report is
sent in the payload or by a link, the CSV text that the recipient gets reads
back as one record for each alert.
-/

namespace HealthGrid.Background

open HealthGrid.Foundation HealthGrid.Foundation.Csv HealthGrid.Monitor
open HealthGrid.Registry

/-! ## Rows -/

theorem renders_csvField (text : String) :
    Renders text.toList (csvField text).toList := by
  unfold csvField
  split
  · have hquoted : ∀ chars : List Char,
        ("\"" ++ String.ofList chars ++ "\"").toList = '"' :: chars ++ ['"'] := by
      simp
    rw [hquoted]
    exact .quoted
  · rename_i hplain
    refine .plain ?_
    intro c hmem hspecial
    rw [Bool.not_eq_true, List.any_eq_false] at hplain
    exact hplain c hmem (by simpa [Special, or_assoc] using hspecial)

theorem toList_csvRow (fields : List String) :
    (csvRow fields).toList =
      rowChars (fields.map fun field => (csvField field).toList) := by
  simp [csvRow, rowChars, String.toList_intercalate, Function.comp_def]

theorem rendersRow_csvRow {fields : List String} (h : 2 ≤ fields.length) :
    RendersRow fields (fields.map fun field => (csvField field).toList) where
  renders := by
    rw [List.forall₂_map_right_iff, List.forall₂_same]
    exact fun field _ => renders_csvField field
  nonempty := by
    match fields, h with
    | first :: second :: rest, _ => simp

theorem readRecords_csvRows {rows : List (List String)}
    (h : ∀ fields ∈ rows, 2 ≤ fields.length) :
    readRecords (String.join (rows.map csvRow)) = rows := by
  have htext : String.join (rows.map csvRow) =
      String.ofList ((rows.map fun fields => fields.map fun field =>
        (csvField field).toList).flatMap rowChars) := by
    apply String.toList_inj.mp
    simp [String.toList_join, toList_csvRow, List.flatMap_map]
  rw [htext]
  apply readRecords_rowChars
  rw [List.forall₂_map_right_iff, List.forall₂_same]
  exact fun fields hmem => rendersRow_csvRow (h fields hmem)

theorem readRecords_csvReport (instances : InstanceTable)
    (alerts : List LockAlert) :
    readRecords (csvReport instances alerts) = csvHeader ::
      alerts.map fun alert =>
        csvAlert (recordOf instances alert.instancePk) alert := by
  have hrows : csvReport instances alerts =
      String.join ((csvHeader :: alerts.map fun alert =>
        csvAlert (recordOf instances alert.instancePk) alert).map csvRow) := by
    rw [csvReport, List.map_cons, List.map_map]
    rfl
  rw [hrows]
  apply readRecords_csvRows
  intro fields hmem
  rcases List.mem_cons.mp hmem with rfl | hmem
  · decide
  · obtain ⟨alert, -, rfl⟩ := List.mem_map.mp hmem
    simp [csvAlert]

/-! ## What a recipient gets -/

/-- One record for each alert, after the header. -/
def ReadsBack (instances : InstanceTable) (alerts : List LockAlert)
    (csvContent : String) : Prop :=
  readRecords csvContent = csvHeader :: alerts.map fun alert =>
    csvAlert (recordOf instances alert.instancePk) alert

/-- The text is in the payload, or in the stored report of the payload's link. -/
structure Delivers (instances : InstanceTable) (call : ReportCall)
    (s' : ReportState) (post : ReportPost) : Prop where
  rows : post.payload.reportRows = post.alerts.length
  csv : post.payload.reportUrl = "" ∧
      ReadsBack instances post.alerts post.payload.csvContent ∨
    ∃ report ∈ s'.reports,
      post.payload.reportUrl =
        reportUrl call.sign report.pk s'.config.reportBaseUrl ∧
      ReadsBack instances post.alerts report.csvContent

def ReportRecipient.instancePk : ReportRecipient → Option Nat
  | .channel => none
  | .owner instancePk => some instancePk

/-- The channel, or the owner of a reported instance. -/
def IsRecipient (instances : InstanceTable) (recipient : ReportRecipient) :
    Prop :=
  recipient = .channel ∨
    ∃ record ∈ reportedInstances instances, recipient = .owner record.pk

def recipientAlerts (instances : InstanceTable) (table : LockAlertTable)
    (call : ReportCall) (recipient : ReportRecipient) : List LockAlert :=
  weeklyAlerts (reportNames instances) call.now recipient.instancePk table

/-- The rows a call stores and its posts, each with the alerts of its window. -/
structure DeliversAll (instances : InstanceTable) (table : LockAlertTable)
    (call : ReportCall) (s s' : ReportState) : Prop where
  config : s'.config = s.config
  reports : ∃ new, s'.reports = s.reports ++ new ∧ ∀ report ∈ new,
    ∃ recipient, IsRecipient instances recipient ∧
      ReadsBack instances (recipientAlerts instances table call recipient)
        report.csvContent
  posts : ∃ new, s'.posts = s.posts ++ new ∧ ∀ post ∈ new,
    IsRecipient instances post.recipient ∧
      Delivers instances call s' post ∧
      post.alerts = recipientAlerts instances table call post.recipient

section Deliveries

variable {instances : InstanceTable} {table : LockAlertTable}
  {call : ReportCall} {s s' s'' : ReportState} {post : ReportPost}

theorem Delivers.mono (h : Delivers instances call s' post)
    (hconfig : s''.config = s'.config) (hkept : s'.reports ⊆ s''.reports) :
    Delivers instances call s'' post := by
  refine ⟨h.rows, ?_⟩
  rcases h.csv with hinline | ⟨report, hmem, hurl, hreads⟩
  · exact .inl hinline
  · exact .inr ⟨report, hkept hmem, by rw [hconfig]; exact hurl, hreads⟩

theorem DeliversAll.refl : DeliversAll instances table call s s :=
  ⟨rfl, ⟨[], by simp, by simp⟩, ⟨[], by simp, by simp⟩⟩

theorem DeliversAll.kept (h : DeliversAll instances table call s s') :
    s.reports ⊆ s'.reports := by
  obtain ⟨new, hreports, -⟩ := h.reports
  rw [hreports]
  exact List.subset_append_left _ _

theorem DeliversAll.trans (first : DeliversAll instances table call s s')
    (second : DeliversAll instances table call s' s'') :
    DeliversAll instances table call s s'' := by
  refine ⟨second.config.trans first.config, ?_, ?_⟩
  · obtain ⟨new, hreports, hnew⟩ := first.reports
    obtain ⟨new', hreports', hnew'⟩ := second.reports
    refine ⟨new ++ new', ?_, ?_⟩
    · rw [hreports', hreports, List.append_assoc]
    · intro report hmem
      exact (List.mem_append.mp hmem).elim (hnew report) (hnew' report)
  · obtain ⟨new, hposts, hnew⟩ := first.posts
    obtain ⟨new', hposts', hnew'⟩ := second.posts
    refine ⟨new ++ new', ?_, ?_⟩
    · rw [hposts', hposts, List.append_assoc]
    · intro post hmem
      rcases List.mem_append.mp hmem with hmem | hmem
      · obtain ⟨hrecipient, hdelivers, halerts⟩ := hnew post hmem
        exact ⟨hrecipient, hdelivers.mono second.config second.kept, halerts⟩
      · exact hnew' post hmem

theorem deliversAll_webhook {recipient : ReportRecipient}
    (hrecipient : IsRecipient instances recipient) (webhookUrl scope : String)
    (s : ReportState) :
    DeliversAll instances table call s (sendReportToWebhook instances call
      recipient webhookUrl scope
      (recipientAlerts instances table call recipient) s).2 := by
  unfold sendReportToWebhook
  split
  · exact .refl
  · have hstored : ∀ report : LockReport,
        report.csvContent = csvReport instances
          (recipientAlerts instances table call recipient) →
        ∃ new, s.reports ++ [report] = s.reports ++ new ∧ ∀ report ∈ new,
          ∃ recipient, IsRecipient instances recipient ∧
            ReadsBack instances (recipientAlerts instances table call recipient)
              report.csvContent := by
      intro report hcsv
      refine ⟨[report], rfl, fun other hmem => ⟨recipient, hrecipient, ?_⟩⟩
      rw [List.mem_singleton.mp hmem, hcsv]
      exact readRecords_csvReport _ _
    dsimp only
    split
    · exact ⟨rfl, hstored _ rfl, [], by simp, by simp⟩
    · refine ⟨rfl, hstored _ rfl, [_], rfl, ?_⟩
      intro post hmem
      cases List.mem_singleton.mp hmem
      refine ⟨hrecipient, ⟨rfl, ?_⟩, rfl⟩
      dsimp only
      by_cases hurl : reportUrl call.sign s.nextReportPk
          s.config.reportBaseUrl = ""
      · rw [if_pos hurl]
        exact .inl ⟨hurl, readRecords_csvReport _ _⟩
      · exact .inr ⟨_, List.mem_append_right _ (List.mem_singleton_self _),
          rfl, readRecords_csvReport _ _⟩

theorem deliversAll_channel (s : ReportState) :
    DeliversAll instances table call s
      (sendToChannel instances table call s).2 := by
  unfold sendToChannel
  dsimp only
  split
  · exact deliversAll_webhook (.inl rfl) ..
  · exact .refl

theorem deliversAll_owners {records : List InstanceRecord}
    (hrecords : ∀ record ∈ records, record ∈ reportedInstances instances)
    (result : Bool × ReportState) :
    DeliversAll instances table call result.2
      (records.foldl (sendToOwner instances table call) result).2 := by
  induction records generalizing result with
  | nil => exact .refl
  | cons record records ih =>
      have hone : DeliversAll instances table call result.2
          (sendToOwner instances table call result record).2 :=
        deliversAll_webhook
          (.inr ⟨record, hrecords record List.mem_cons_self, rfl⟩) ..
      exact hone.trans
        (ih (fun other hmem => hrecords other (List.mem_cons_of_mem _ hmem)) _)

/--
Every report of a call reads back as one record for each alert of its recipient,
whatever their texts are: the rows that the call stores, posted or not, and what
the recipients of its posts get.
-/
theorem weekly_report_reads_back (instances : InstanceTable)
    (table : LockAlertTable) (call : ReportCall) (s : ReportState) :
    let after := (sendWeeklyReports instances table call s).2
    (∃ new, after.reports =
        (s.reports.filter fun report =>
          !decide (report.expiresAt < call.now)) ++ new ∧
      ∀ report ∈ new, ∃ recipient, IsRecipient instances recipient ∧
        ReadsBack instances (recipientAlerts instances table call recipient)
          report.csvContent) ∧
    ∃ new, after.posts = s.posts ++ new ∧ ∀ post ∈ new,
      IsRecipient instances post.recipient ∧
        Delivers instances call after post ∧
        post.alerts = recipientAlerts instances table call post.recipient := by
  let kept := { s with
    reports := s.reports.filter fun report =>
      !decide (report.expiresAt < call.now) }
  have hall : DeliversAll instances table call kept
      (sendWeeklyReports instances table call s).2 :=
    (deliversAll_channel kept).trans (deliversAll_owners (fun _ => id) _)
  exact ⟨hall.reports, hall.posts⟩

end Deliveries

end HealthGrid.Background
