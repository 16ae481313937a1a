import HealthGrid.Background.ReportSchedule

/-!
# Downloading a weekly report

The expiry of a report is decided in four places: by the age of its token, by
the stored expiry when it is downloaded, and by the deletions of the cleanup
and of the next weekly report.
-/

namespace HealthGrid.Background

open HealthGrid.Foundation HealthGrid.Monitor HealthGrid.Db HealthGrid.Registry

def reportMaxAgeSeconds : Int := 7 * 24 * 60 * 60

/--
`TimestampSigner`: a token is accepted until it is older than the largest age.
Its age counts from the time stamp that it carries.
-/
structure TimestampSigner where
  sign : Time → String → String
  unsign : Time → Int → String → Option String
  accepts : ∀ (now : Time) (maxAge : Int) (stamp : Time) (value : String),
    unsign now maxAge (sign stamp value) =
      if now - stamp ≤ maxAge * 1000000 then some value else none

inductive DownloadError where
  | http404 (message : String)
  | valueError (message : String)
  deriving DecidableEq, Repr

structure CsvResponse where
  content : String
  contentType : String
  contentDisposition : String
  deriving DecidableEq, Repr

def LockReport.response (report : LockReport) : CsvResponse where
  content := report.csvContent
  contentType := "text/csv; charset=utf-8"
  contentDisposition := "attachment; filename=\"" ++ report.fileName ++ "\""

def downloadWeeklyReport (signer : TimestampSigner) (reports : List LockReport)
    (now : Time) (token : String) : Except DownloadError CsvResponse :=
  match signer.unsign now reportMaxAgeSeconds token with
  | none => .error (.http404 "Report link expired")
  | some reportId =>
      match PyText.int? reportId with
      | none => .error (.valueError
          s!"Field 'id' expected a number but got '{reportId}'.")
      | some pk =>
          match reports.find? fun report => (report.pk : Int) == pk with
          | none => .error (.http404 "No LockReport matches the given query.")
          | some report =>
              if report.expiresAt < now then
                .error (.http404 "Report link expired")
              else .ok report.response

/-- The automatic calls and the rest, and reports that are sent by hand. -/
inductive DownloadEvent where
  | background (event : ReportEvent)
  | sendReports (call : ReportCall)

def downloadStep (env : MonitorEnv) (w : ReportWorld) :
    DownloadEvent → Option ReportWorld
  | .background event => reportStep env w event
  | .sendReports call =>
      if w.clock ≤ call.now then
        some { w with
          clock := call.now
          state := (sendWeeklyReports w.instances w.monitor.lockAlerts call
            w.state).2 }
      else none

def DownloadEvent.call? : DownloadEvent → Option ReportCall
  | .background (.report call) => some call
  | .background _ => none
  | .sendReports call => some call

/-! ## What a call stores and deletes -/

structure FreshReports (s : ReportState) : Prop where
  nodup : (s.reports.map LockReport.pk).Nodup
  next : ∀ report ∈ s.reports, report.pk < s.nextReportPk

/-- Expired reports go; the new ones get new keys and expire `ttl` later. -/
structure Stores (now : Time) (ttl : Int) (s s' : ReportState) : Prop where
  next : s.nextReportPk ≤ s'.nextReportPk
  fresh : FreshReports s → FreshReports s'
  kept : ∀ report ∈ s.reports, report ∈ s'.reports ∨ report.expiresAt < now
  stored : ∀ report ∈ s'.reports, report ∈ s.reports ∨
    s.nextReportPk ≤ report.pk ∧ report.expiresAt = now + ttl

section Storing

variable {now : Time} {ttl : Int} {s s' s'' : ReportState}
  {instances : InstanceTable} {table : LockAlertTable} {call : ReportCall}

theorem Stores.of_eq (hreports : s'.reports = s.reports)
    (hnext : s'.nextReportPk = s.nextReportPk) : Stores now ttl s s' where
  next := hnext.ge
  fresh h := ⟨by rw [hreports]; exact h.nodup,
    by rw [hreports, hnext]; exact h.next⟩
  kept report hmem := .inl (hreports ▸ hmem)
  stored report hmem := .inl (hreports ▸ hmem)

theorem Stores.trans (first : Stores now ttl s s')
    (second : Stores now ttl s' s'') : Stores now ttl s s'' where
  next := le_trans first.next second.next
  fresh h := second.fresh (first.fresh h)
  kept report hmem := by
    rcases first.kept report hmem with hkept | hexpired
    · exact second.kept report hkept
    · exact .inr hexpired
  stored report hmem := by
    rcases second.stored report hmem with hold | ⟨hpk, hexpires⟩
    · exact first.stored report hold
    · exact .inr ⟨le_trans first.next hpk, hexpires⟩

theorem stores_filter (s : ReportState) :
    Stores now ttl s { s with
      reports := s.reports.filter fun report =>
        !decide (report.expiresAt < now) } where
  next := le_refl _
  fresh h := by
    refine ⟨h.nodup.sublist (List.filter_sublist.map _), ?_⟩
    intro report hmem
    exact h.next report (List.mem_filter.mp hmem).1
  kept report hmem := by
    by_cases hexpired : report.expiresAt < now
    · exact .inr hexpired
    · exact .inl (List.mem_filter.mpr ⟨hmem, by simpa using hexpired⟩)
  stored report hmem := .inl (List.mem_filter.mp hmem).1

theorem stores_append {report : LockReport} (hpk : report.pk = s.nextReportPk)
    (hexpires : report.expiresAt = now + ttl) (posts : List ReportPost) :
    Stores now ttl s { s with
      reports := s.reports ++ [report]
      nextReportPk := s.nextReportPk + 1
      posts := posts } where
  next := Nat.le_succ _
  fresh h := by
    constructor
    · rw [List.map_append, List.nodup_append]
      refine ⟨h.nodup, List.nodup_singleton _, ?_⟩
      intro pk hold pk' hnew heq
      obtain ⟨old, hmem, rfl⟩ := List.mem_map.mp hold
      have := h.next old hmem
      simp only [List.map_cons, List.map_nil, List.mem_singleton] at hnew
      omega
    · intro other hmem
      rcases List.mem_append.mp hmem with hold | hnew
      · exact Nat.lt_succ_of_lt (h.next other hold)
      · rw [List.mem_singleton.mp hnew, hpk]
        exact Nat.lt_succ_self _
  kept other hmem := .inl (List.mem_append_left _ hmem)
  stored other hmem := by
    rcases List.mem_append.mp hmem with hold | hnew
    · exact .inl hold
    · rw [List.mem_singleton.mp hnew]
      exact .inr ⟨hpk.ge, hexpires⟩

theorem stores_to_webhook {recipient : ReportRecipient}
    {webhookUrl scope : String} {alerts : List LockAlert} :
    Stores call.now (days s.config.reportRetentionDays) s (sendReportToWebhook
      instances call recipient webhookUrl scope alerts s).2 := by
  unfold sendReportToWebhook
  split
  · exact .of_eq rfl rfl
  · dsimp only
    split
    · exact stores_append rfl rfl s.posts
    · exact stores_append rfl rfl _

theorem stores_to_owners (records : List InstanceRecord)
    {result : Bool × ReportState}
    (h : Stores call.now (days s.config.reportRetentionDays) s result.2)
    (hconfig : result.2.config = s.config) :
    Stores call.now (days s.config.reportRetentionDays) s
      (records.foldl (sendToOwner instances table call) result).2 := by
  induction records generalizing result with
  | nil => exact h
  | cons record records ih =>
      refine ih ?_ ?_
      · refine h.trans ?_
        rw [← hconfig]
        exact stores_to_webhook
      · have hsends : Sends call [] result.2 [.owner record.pk]
            (sendReportToWebhook instances call (.owner record.pk)
              record.ownerTeamsWebhookUrl (str record)
              (weeklyAlerts (reportNames instances) call.now (some record.pk)
                table) result.2) :=
          sends_to_webhook nofun
        exact hsends.config.trans hconfig

theorem stores_weekly_reports :
    Stores call.now (days s.config.reportRetentionDays) s
      (sendWeeklyReports instances table call s).2 := by
  let kept := { s with
    reports := s.reports.filter fun report =>
      !decide (report.expiresAt < call.now) }
  have hchannel : Stores call.now (days kept.config.reportRetentionDays) kept
      (sendToChannel instances table call kept).2 := by
    unfold sendToChannel
    dsimp only
    split
    · exact stores_to_webhook
    · exact .of_eq rfl rfl
  exact (stores_filter s).trans (stores_to_owners (reportedInstances instances)
    hchannel sends_to_channel.config)

theorem stores_maybe_weekly_report :
    Stores call.now (days s.config.reportRetentionDays) s
      (maybeSendWeeklyReport instances table call s).2 := by
  by_cases hdue : IsDue s.config call.now
  · rw [maybeSendWeeklyReport_due hdue, marked]
    split
    · exact stores_weekly_reports.trans (.of_eq rfl rfl)
    · exact stores_weekly_reports
  · have hend : ReportEnd instances table call s
        (maybeSendWeeklyReport instances table call s) :=
      maybeSendWeeklyReport_end
    generalize maybeSendWeeklyReport instances table call s = result at hend ⊢
    cases hend with
    | notDue => exact .of_eq rfl rfl
    | undelivered hdue' => exact absurd hdue' hdue
    | delivered hdue' => exact absurd hdue' hdue

end Storing

/-! ## One step, and a run -/

section Runs

variable {env : MonitorEnv} {event : DownloadEvent}
  {events : List DownloadEvent} {w w' w₀ : ReportWorld} {report : LockReport}

theorem stores_cleanup (w : ReportWorld) (now ttl : Int) :
    Stores now ttl w.state (w.withHistory (cleanupMonitorHistory now
      (some w.state.config.resolvedAlertRetentionDays) w.history).2).state := by
  unfold cleanupMonitorHistory
  dsimp only
  split
  · exact .of_eq rfl rfl
  · split
    · exact .of_eq rfl rfl
    · exact (stores_filter w.state).trans (.of_eq rfl rfl)

theorem downloadStep_stores (h : downloadStep env w event = some w') :
    w.clock ≤ w'.clock ∧ ∃ ttl, Stores w'.clock ttl w.state w'.state ∧
      ∀ call, event.call? = some call → w'.clock = call.now ∧
        ttl = days w.state.config.reportRetentionDays := by
  cases event with
  | sendReports call =>
      obtain ⟨hle, ⟨⟩⟩ := Option.ite_none_right_eq_some.mp h
      refine ⟨hle, _, stores_weekly_reports, ?_⟩
      rintro _ ⟨⟩
      exact ⟨rfl, rfl⟩
  | background event =>
      cases stepped h with
      | settings => exact ⟨le_refl _, 0, .of_eq rfl rfl, nofun⟩
      | registry => exact ⟨le_refl _, 0, .of_eq rfl rfl, nofun⟩
      | removal => exact ⟨le_refl _, 0, .of_eq rfl rfl, nofun⟩
      | cycle hle => exact ⟨hle, 0, .of_eq rfl rfl, nofun⟩
      | cleanup hle => exact ⟨hle, 0, stores_cleanup w _ 0, nofun⟩
      | report hle =>
          refine ⟨hle, _, stores_maybe_weekly_report, ?_⟩
          rintro _ ⟨⟩
          exact ⟨rfl, rfl⟩

/-- A report is there until it expires, and nothing takes its key after that. -/
structure Expiring (report : LockReport) (w : ReportWorld) : Prop where
  fresh : FreshReports w.state
  used : report.pk < w.state.nextReportPk
  stored : report ∈ w.state.reports ∨ report.expiresAt < w.clock ∧
    ∀ other ∈ w.state.reports, other.pk ≠ report.pk

theorem expiring_step (h : Expiring report w)
    (hstep : downloadStep env w event = some w') : Expiring report w' := by
  obtain ⟨hle, ttl, hstores, -⟩ := downloadStep_stores hstep
  refine ⟨hstores.fresh h.fresh, lt_of_lt_of_le h.used hstores.next, ?_⟩
  by_cases hmem : report ∈ w'.state.reports
  · exact .inl hmem
  refine .inr ?_
  have hexpired : report.expiresAt < w'.clock := by
    rcases h.stored with hstored | ⟨hexpired, -⟩
    · exact (hstores.kept report hstored).resolve_left hmem
    · exact lt_of_lt_of_le hexpired hle
  refine ⟨hexpired, fun other hother hpk => ?_⟩
  rcases hstores.stored other hother with hold | ⟨hnext, -⟩
  · rcases h.stored with hstored | ⟨-, hgone⟩
    · have hsame := List.inj_on_of_nodup_map h.fresh.nodup hold hstored hpk
      exact hmem (hsame ▸ hother)
    · exact hgone other hold hpk
  · exact absurd h.used (Nat.not_lt.mpr (hpk ▸ hnext))

theorem expiring_run (hrun : Run (Enabled (downloadStep env)) w₀ events w)
    (h : Expiring report w₀) : Expiring report w := by
  refine hrun.invariant (Expiring report) ?_ h
  intro w event w' h hstep
  exact expiring_step h hstep

theorem find?_of_fresh {s : ReportState} (h : FreshReports s)
    (hmem : report ∈ s.reports) :
    (s.reports.find? fun other => (other.pk : Int) == (report.pk : Int)) =
      some report := by
  cases hfind : s.reports.find? fun other =>
      (other.pk : Int) == (report.pk : Int) with
  | none =>
      have hne := List.find?_eq_none.mp hfind report hmem
      simp at hne
  | some other =>
      have hpk : (other.pk : Int) = report.pk := by
        simpa using List.find?_some hfind
      have hpk : other.pk = report.pk := by omega
      exact congrArg some (List.inj_on_of_nodup_map h.nodup
        (List.mem_of_find?_eq_some hfind) hmem hpk)

/-- The stored expiry and the deletions agree on the last instant. -/
theorem downloadWeeklyReport_expiring {signer : TimestampSigner}
    {stamp t : Time} (h : Expiring report w) (ht : w.clock ≤ t) :
    downloadWeeklyReport signer w.state.reports t
        (signer.sign stamp (toString report.pk)) = .ok report.response ↔
      t ≤ report.expiresAt ∧ t - stamp ≤ reportMaxAgeSeconds * 1000000 := by
  have hid : PyText.int? (toString report.pk) = some (report.pk : Int) :=
    PyText.int?_toString report.pk
  unfold downloadWeeklyReport
  rw [signer.accepts]
  by_cases hage : t - stamp ≤ reportMaxAgeSeconds * 1000000
  · simp only [hage, if_true, hid, and_true]
    rcases h.stored with hmem | ⟨hexpired, hgone⟩
    · rw [find?_of_fresh h.fresh hmem]
      dsimp only
      split <;> rename_i hexpired
      · simp [not_le.mpr hexpired]
      · simp [not_lt.mp hexpired]
    · have hnone : (w.state.reports.find? fun other =>
          (other.pk : Int) == (report.pk : Int)) = none := by
        rw [List.find?_eq_none]
        intro other hother
        have hne := hgone other hother
        simp only [beq_iff_eq]
        omega
      rw [hnone]
      simp [not_le.mpr (lt_of_lt_of_le hexpired ht)]
  · simp [hage]

end Runs

/--
A report that a call stored is served for as many days as the call was told,
and while its token is accepted, whatever is called in between.
-/
theorem weekly_report_served {env : MonitorEnv} {signer : TimestampSigner}
    {w₀ w₁ w : ReportWorld} {event : DownloadEvent} {call : ReportCall}
    {events : List DownloadEvent} {report : LockReport} {stamp t : Time}
    (hfresh : FreshReports w₀.state)
    (hstep : downloadStep env w₀ event = some w₁)
    (hcall : event.call? = some call) (hsign : call.sign = signer.sign stamp)
    (hnew : report ∈ w₁.state.reports) (hold : report ∉ w₀.state.reports)
    (hrun : Run (Enabled (downloadStep env)) w₁ events w) (ht : w.clock ≤ t) :
    (downloadWeeklyReport signer w.state.reports t
        (call.sign (toString report.pk)) = .ok report.response ↔
      t ≤ call.now + days w₀.state.config.reportRetentionDays ∧
        t - stamp ≤ reportMaxAgeSeconds * 1000000) ∧
    (report ∉ w.state.reports →
      call.now + days w₀.state.config.reportRetentionDays < w.clock) := by
  obtain ⟨-, ttl, hstores, hcalled⟩ := downloadStep_stores hstep
  obtain ⟨hnow, rfl⟩ := hcalled call hcall
  obtain ⟨-, hexpires⟩ := (hstores.stored report hnew).resolve_left hold
  rw [hnow] at hexpires
  have hfirst := hstores.fresh hfresh
  have hlast := expiring_run hrun
    ⟨hfirst, hfirst.next report hnew, .inl hnew⟩
  rw [hsign, ← hexpires]
  refine ⟨downloadWeeklyReport_expiring hlast ht, fun hgone => ?_⟩
  exact (hlast.stored.resolve_left hgone).1

/-! ## A report that a cleanup leaves -/

def plainSigner : TimestampSigner where
  sign stamp value := toString stamp ++ ":" ++ value
  unsign now maxAge token :=
    match token.toList.span (· != ':') with
    | (stamp, _ :: value) =>
        match PyText.int? (String.ofList stamp) with
        | some stamp =>
            if now - stamp ≤ maxAge * 1000000 then some (String.ofList value)
            else none
        | none => none
    | (_, []) => none
  accepts now maxAge stamp value := by
    have htoken : (toString stamp ++ ":" ++ value).toList =
        (toString stamp).toList ++ ':' :: value.toList := by simp
    have hcolon : ':' ∉ (toString stamp).toList :=
      PyText.not_mem_toString_int (by decide) (by decide) stamp
    rw [htoken, PyText.span_of_not_mem hcolon]
    simp only [String.ofList_toList, PyText.int?_toString]

def reportSentByHand : DownloadEvent :=
  .sendReports ⟨4 * hour, 4 * hour, plainSigner.sign (4 * hour), fun _ _ =>
    .accepted⟩

theorem weekly_report_served_next_day :
    ∃ w₁ w report, downloadStep sampleEnv reportingWorld reportSentByHand =
        some w₁ ∧
      execute (downloadStep sampleEnv) w₁ [.background (.cleanup (days 1))] =
        some w ∧
      downloadWeeklyReport plainSigner w.state.reports (days 2)
        (plainSigner.sign (4 * hour) (toString report.pk)) =
          .ok (LockReport.response report) := by
  have hsent : ((downloadStep sampleEnv reportingWorld reportSentByHand).map
      fun w => w.state.reports.length) = some 1 := by decide +kernel
  have hcleaned : ((downloadStep sampleEnv reportingWorld
      reportSentByHand).bind fun w => execute (downloadStep sampleEnv) w
        [.background (.cleanup (days 1))]).map ReportWorld.clock =
      some (days 1) := by decide +kernel
  obtain ⟨w₁, hw₁, hlength⟩ := Option.map_eq_some_iff.mp hsent
  rw [hw₁] at hcleaned
  obtain ⟨w, hw, hclock⟩ := Option.map_eq_some_iff.mp hcleaned
  obtain ⟨report, hreports⟩ := List.length_eq_one_iff.mp hlength
  refine ⟨w₁, w, report, hw₁, hw, ?_⟩
  refine (weekly_report_served ⟨?_, ?_⟩ hw₁ rfl rfl
    ?_ ?_ (run_of_execute hw) ?_).1.mpr ⟨?_, ?_⟩
  · exact List.nodup_nil
  · nofun
  · simp [hreports]
  · exact List.not_mem_nil
  · rw [hclock]
    decide
  · decide
  · decide

end HealthGrid.Background
