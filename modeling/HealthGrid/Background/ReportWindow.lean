import HealthGrid.Background.ReportSchedule
import HealthGrid.Monitor.IncidentHistory

/-!
# Incidents between two reports

A report of the shared channel looks back seven days from its delivery.  Two
deliveries of consecutive weeks can be up to a day further apart.
-/

namespace HealthGrid.Background

open HealthGrid.Foundation HealthGrid.Monitor HealthGrid.Db HealthGrid.Registry

/-! ## What an event does to the incidents -/

inductive HistoryChange (env : MonitorEnv) (w : ReportWorld) :
    ReportEvent → ReportWorld → Prop
  | same {event : ReportEvent} {w' : ReportWorld} :
      w'.monitor.lockAlerts = w.monitor.lockAlerts → HistoryChange env w event w'
  | cycled {inst : RDSInstance} {input : CycleInput} {w' : ReportWorld} :
      w'.clock = input.now →
      w'.monitor.lockAlerts = (cycle env inst w.monitor input).lockAlerts →
      HistoryChange env w (.cycle inst input) w'
  | removed {pk : Nat} {w' : ReportWorld} :
      w'.monitor.lockAlerts = w.monitor.lockAlerts.filter (fun alert =>
        alert.instancePk != pk) →
      HistoryChange env w (.removal pk) w'
  | cleaned {now : Time} {w' : ReportWorld} : w'.clock = now →
      w'.monitor.lockAlerts = w.monitor.lockAlerts.filter (fun alert =>
        !resolvedBefore
          (now - days (max 1 w.state.config.resolvedAlertRetentionDays))
          alert.resolvedAt) →
      HistoryChange env w (.cleanup now) w'

section Steps

variable {env : MonitorEnv} {w w' : ReportWorld} {event : ReportEvent}
  {events : List ReportEvent} {alert : LockAlert} {resolved : Time}

theorem historyChange_of_step (hstep : reportStep env w event = some w') :
    HistoryChange env w event w' := by
  cases stepped hstep with
  | settings => exact .same rfl
  | registry => exact .same rfl
  | removal => exact .removed rfl
  | cycle => exact .cycled rfl rfl
  | @cleanup now _ =>
      rcases cleanup_monitor now
          (some w.state.config.resolvedAlertRetentionDays) w.history with
        hsame | ⟨retention, hretention, hdeleted⟩
      · exact .same (congrArg MonitorState.lockAlerts hsame)
      · cases hretention
        exact .cleaned rfl (congrArg MonitorState.lockAlerts hdeleted)
  | report => exact .same rfl

theorem clock_le_of_step (hstep : reportStep env w event = some w') :
    w.clock ≤ w'.clock := by
  cases stepped hstep with
  | settings => apply le_refl
  | registry => apply le_refl
  | removal => apply le_refl
  | cycle hle => exact hle
  | cleanup hle => exact hle
  | report hle => exact hle

theorem call_managed {call : ReportCall} :
    (w.call call).2.config.toManagedSettings =
      w.state.config.toManagedSettings := by
  have hend : ReportEnd w.instances w.monitor.lockAlerts call w.state
      (w.call call) := maybeSendWeeklyReport_end
  generalize w.call call = result at hend ⊢
  cases hend with
  | notDue => rfl
  | undelivered _ hsends =>
      have hconfig := hsends.config
      simp only at hconfig
      simp [hconfig]
  | delivered _ hsends =>
      have hconfig := hsends.config
      simp only at hconfig
      simp [hconfig]

/-! ## Runs in which the cleanup keeps a week -/

/-- What the settings form enforces. -/
def ReportEvent.KeepsAWeek : ReportEvent → Prop
  | .settings managed => 7 ≤ managed.resolvedAlertRetentionDays
  | _ => True

def HistoryStep (env : MonitorEnv) : ReportWorld → ReportEvent → ReportWorld →
    Prop :=
  Guarded (fun _ event => event.KeepsAWeek) (Enabled (reportStep env))

structure KeepsHistory (w : ReportWorld) : Prop where
  retention : 7 ≤ w.state.config.resolvedAlertRetentionDays
  aged : AllAged [] w.clock w.monitor.lockAlerts

theorem retention_step (hstep : HistoryStep env w event w')
    (h : 7 ≤ w.state.config.resolvedAlertRetentionDays) :
    7 ≤ w'.state.config.resolvedAlertRetentionDays := by
  obtain ⟨hguard, hstep⟩ := hstep
  cases stepped hstep with
  | settings => exact hguard
  | registry => exact h
  | removal => exact h
  | cycle => exact h
  | cleanup => exact h
  | report => simpa [call_managed] using h

theorem aged_step (hstep : reportStep env w event = some w')
    (h : AllAged [] w.clock w.monitor.lockAlerts) :
    AllAged [] w'.clock w'.monitor.lockAlerts := by
  have hle := clock_le_of_step hstep
  cases historyChange_of_step hstep with
  | same hsame =>
      rw [hsame]
      exact fun alert hmem => (h alert hmem).mono hle
  | cycled hclock htable =>
      rw [htable, hclock]
      apply allAged_cycle h ⟨by simp, by simp⟩
      rw [← hclock]
      exact hle
  | removed htable =>
      rw [htable]
      exact fun alert hmem => (h alert (List.mem_of_mem_filter hmem)).mono hle
  | cleaned _ htable =>
      rw [htable]
      exact fun alert hmem => (h alert (List.mem_of_mem_filter hmem)).mono hle

theorem keepsHistory_run (hrun : Run (HistoryStep env) w events w')
    (h : KeepsHistory w) : KeepsHistory w' := by
  refine hrun.invariant KeepsHistory ?_ h
  intro w event w' h hstep
  exact ⟨retention_step hstep h.retention, aged_step hstep.2 h.aged⟩

theorem resolved_mem_cycle {inst : RDSInstance} {input : CycleInput}
    {s : MonitorState} (hmem : alert ∈ s.lockAlerts.rows)
    (hresolved : alert.resolvedAt ≠ none) :
    alert ∈ (cycle env inst s input).lockAlerts.rows := by
  have hafter := cycle_lockAlerts env inst input s
  split at hafter
  · rw [hafter]
    exact hmem
  · exact resolved_mem_snapshotTable hafter hmem hresolved

theorem resolved_mem_step (hstep : HistoryStep env w event w')
    (hretention : 7 ≤ w.state.config.resolvedAlertRetentionDays)
    (hremoval : event ≠ .removal alert.instancePk)
    (hresolved : alert.resolvedAt = some resolved)
    (hrecent : w'.clock - days 7 ≤ resolved)
    (hmem : alert ∈ w.monitor.lockAlerts.rows) :
    alert ∈ w'.monitor.lockAlerts.rows := by
  cases historyChange_of_step hstep.2 with
  | same hsame =>
      rw [hsame]
      exact hmem
  | cycled _ htable =>
      rw [htable]
      apply resolved_mem_cycle hmem
      simp [hresolved]
  | removed htable =>
      rw [htable, OpenTable.filter_rows, List.mem_filter]
      refine ⟨hmem, ?_⟩
      simp only [bne_iff_ne, ne_eq]
      intro hpk
      exact hremoval (by rw [hpk])
  | cleaned hclock htable =>
      rw [htable, OpenTable.filter_rows, List.mem_filter]
      refine ⟨hmem, ?_⟩
      have hdays := days_mono (le_trans hretention
        (le_max_right 1 w.state.config.resolvedAlertRetentionDays))
      rw [hclock] at hrecent
      simp only [hresolved, resolvedBefore, Option.any_some, Bool.not_eq_true',
        decide_eq_false_iff_not, not_lt]
      exact le_trans (Int.sub_le_sub_left hdays _) hrecent

theorem resolved_mem_run (hrun : Run (HistoryStep env) w events w')
    (hretention : 7 ≤ w.state.config.resolvedAlertRetentionDays)
    (hremoval : .removal alert.instancePk ∉ events)
    (hresolved : alert.resolvedAt = some resolved)
    (hrecent : w'.clock - days 7 ≤ resolved)
    (hmem : alert ∈ w.monitor.lockAlerts.rows) :
    alert ∈ w'.monitor.lockAlerts.rows := by
  induction hrun with
  | refl => exact hmem
  | @snoc w₁ w₂ events event hfront hstep ih =>
      rw [List.mem_append, List.mem_singleton, not_or] at hremoval
      have hle := clock_le_of_step hstep.2
      have hkept : 7 ≤ w₁.state.config.resolvedAlertRetentionDays := by
        refine hfront.invariant (fun w =>
          7 ≤ w.state.config.resolvedAlertRetentionDays) ?_ hretention
        intro w event w' h hstep
        exact retention_step hstep h
      refine resolved_mem_step hstep hkept (Ne.symm hremoval.2) hresolved hrecent
        (ih hremoval.1 ?_)
      exact le_trans (Int.sub_le_sub_right hle _) hrecent

/-! ## Deliveries -/

def ReportWorld.ChannelAccepts (w : ReportWorld) (call : ReportCall)
    (post : ReportPost) : Prop :=
  post ∈ (w.call call).2.posts.drop w.state.posts.length ∧
    post.recipient = .channel ∧ post.accepted = true

theorem channel_accepts {call : ReportCall} {post : ReportPost}
    (h : w.ChannelAccepts call post) : IsDue w.state.config call.now ∧
      post.alerts = weeklyAlerts (reportNames w.instances) call.now none
        w.monitor.lockAlerts := by
  obtain ⟨hpost, hchannel, -⟩ := h
  have hend : ReportEnd w.instances w.monitor.lockAlerts call w.state
      (w.call call) := maybeSendWeeklyReport_end
  generalize w.call call = result at hend hpost
  cases hend with
  | notDue => simp at hpost
  | undelivered hdue hsends => exact ⟨hdue, hsends.channel_post hpost hchannel⟩
  | delivered hdue hsends => exact ⟨hdue, hsends.channel_post hpost hchannel⟩

theorem mem_weeklyAlerts {names : Nat → String} {now : Time}
    {table : LockAlertTable} : alert ∈ weeklyAlerts names now none table ↔
      alert ∈ table.rows ∧ inReportWindow now alert = true := by
  simp [weeklyAlerts, List.mem_insertionSort]

/-- The three conditions of the window are one for a resolved incident. -/
theorem inReportWindow_resolved {locks : List Nat} {clock now : Time}
    (h : Aged locks clock alert) (hle : clock ≤ now)
    (hresolved : alert.resolvedAt = some resolved) :
    inReportWindow now alert = true ↔ now - days 7 ≤ resolved := by
  have hseen := h.seen
  have hlast := h.resolved resolved hresolved
  have hfirst : alert.firstSeenAt ≤ now :=
    le_trans h.seen (le_trans h.past hle)
  simp only [inReportWindow, hfirst, hresolved, Option.any_some, decide_true,
    Bool.true_and, Bool.or_eq_true, decide_eq_true_eq, ge_iff_le]
  constructor
  · rintro ((hwindow | hwindow) | hwindow)
    · exact le_trans hwindow (le_trans hseen hlast)
    · exact le_trans hwindow hlast
    · exact hwindow
  · exact Or.inr

theorem window_of_later_day {first second time : Int}
    (hweek : weekIndex (localDay second) = weekIndex (localDay first) + 1)
    (hday : weekday (localDay second) = weekday (localDay first))
    (hlater : localDay first < localDay time) : second - days 7 ≤ time := by
  have hdays : localDay second = localDay first + 7 := by
    unfold weekIndex weekday at *
    omega
  unfold localDay days at *
  simp only [hour] at *
  omega

end Steps

/--
A run with two deliveries to the shared channel, from incidents whose times
are in order.
-/
structure TwoReports (env : MonitorEnv) where
  start : ReportWorld
  earlier : ReportWorld
  sent : ReportWorld
  later : ReportWorld
  before : List ReportEvent
  between : List ReportEvent
  first : ReportCall
  second : ReportCall
  firstPost : ReportPost
  secondPost : ReportPost
  keepsHistory : KeepsHistory start
  reached : Run (HistoryStep env) start before earlier
  delivered : earlier.ChannelAccepts first firstPost
  called : reportStep env earlier (.report first) = some sent
  waited : Run (HistoryStep env) sent between later
  deliveredAgain : later.ChannelAccepts second secondPost
  onTime : later.clock ≤ second.now

structure TwoReports.Incident {env : MonitorEnv} (r : TwoReports env) where
  alert : LockAlert
  resolved : Time
  found : ReportWorld
  front : List ReportEvent
  rest : List ReportEvent
  between : r.between = front ++ rest
  reached : Run (HistoryStep env) r.sent front found
  waited : Run (HistoryStep env) found rest r.later
  mem : alert ∈ found.monitor.lockAlerts.rows
  new : r.first.now < alert.firstSeenAt
  resolvedAt : alert.resolvedAt = some resolved
  registered : .removal alert.instancePk ∉ rest

structure TwoReports.Consecutive {env : MonitorEnv} (r : TwoReports env) :
    Prop where
  week : weekIndex (localDay r.second.now) =
    weekIndex (localDay r.first.now) + 1
  day : r.later.state.config.weeklyReportDay =
    r.earlier.state.config.weeklyReportDay

section Reports

variable {env : MonitorEnv} {r : TwoReports env}

theorem TwoReports.sent_keepsHistory (r : TwoReports env) :
    KeepsHistory r.sent := by
  have hearlier := keepsHistory_run r.reached r.keepsHistory
  have hcalled : HistoryStep env r.earlier (.report r.first) r.sent :=
    ⟨trivial, r.called⟩
  exact keepsHistory_run (.single hcalled) hearlier

theorem TwoReports.Incident.reported_iff (i : r.Incident) :
    i.alert ∈ r.secondPost.alerts ↔ r.second.now - days 7 ≤ i.resolved := by
  have hfound := keepsHistory_run i.reached r.sent_keepsHistory
  obtain ⟨-, halerts⟩ := channel_accepts r.deliveredAgain
  have hclock : i.found.clock ≤ r.second.now := by
    refine le_trans ?_ r.onTime
    refine i.waited.invariant (fun w => i.found.clock ≤ w.clock) ?_ (le_refl _)
    exact fun w event w' h hstep => le_trans h (clock_le_of_step hstep.2)
  have hwindow :=
    inReportWindow_resolved (hfound.aged i.alert i.mem) hclock i.resolvedAt
  rw [halerts, mem_weeklyAlerts, hwindow]
  constructor
  · exact And.right
  · intro hrecent
    refine ⟨?_, hrecent⟩
    apply resolved_mem_run i.waited hfound.retention i.registered i.resolvedAt ?_
      i.mem
    exact le_trans (Int.sub_le_sub_right r.onTime _) hrecent

end Reports

/--
The next report has the incident exactly if it was resolved in the seven days
before.  Nothing is lost between deliveries seven days apart; in consecutive
weeks, nothing that was resolved after the day of the first delivery.
-/
theorem reported_within_a_week {env : MonitorEnv} (r : TwoReports env)
    (i : r.Incident) :
    (i.alert ∈ r.secondPost.alerts ↔ r.second.now - days 7 ≤ i.resolved) ∧
    (r.second.now - r.first.now ≤ days 7 → i.alert ∈ r.secondPost.alerts) ∧
    (r.Consecutive → localDay r.first.now < localDay i.resolved →
      i.alert ∈ r.secondPost.alerts) := by
  refine ⟨i.reported_iff, ?_, ?_⟩
  · intro hapart
    rw [i.reported_iff]
    have haged := (keepsHistory_run i.reached r.sent_keepsHistory).aged i.alert
      i.mem
    have hfirst : i.alert.firstSeenAt ≤ i.resolved :=
      le_trans haged.seen (haged.resolved i.resolved i.resolvedAt)
    have hnew := le_of_lt (lt_of_lt_of_le i.new hfirst)
    have hwithin := Int.sub_left_le_of_le_add (Int.le_add_of_sub_right_le hapart)
    exact le_trans hwithin hnew
  · intro hconsecutive hlater
    rw [i.reported_iff]
    obtain ⟨hdue, -⟩ := channel_accepts r.delivered
    obtain ⟨hdue', -⟩ := channel_accepts r.deliveredAgain
    apply window_of_later_day hconsecutive.week ?_ hlater
    rw [hdue.day, hdue'.day, hconsecutive.day]

/-! ## Two Thursdays, the second delivery six hours later in the day -/

def afterEvents (w : ReportWorld) (events : List ReportEvent) : ReportWorld :=
  (execute (reportStep sampleEnv) w events).getD w

theorem run_afterEvents {w : ReportWorld} {events : List ReportEvent}
    (h : (execute (reportStep sampleEnv) w events).isSome = true)
    (hweek : ∀ event ∈ events, event.KeepsAWeek) :
    Run (HistoryStep sampleEnv) w events (afterEvents w events) := by
  apply Run.guarded fun _ => hweek
  apply run_of_execute
  obtain ⟨w', hw'⟩ := Option.isSome_iff_exists.mp h
  simp [afterEvents, hw']

def firstThursday : ReportWorld :=
  afterEvents reportingWorld [reportCycle 0 [(1, 2)]]

def thursdayCall (now : Time) : ReportCall := ⟨now, now, id, fun _ _ => .accepted⟩

def afterFirstReport : ReportWorld :=
  afterEvents firstThursday [.report (thursdayCall (4 * hour))]

/-- 3 waits for 4 for an hour, and 5 for 6 until the next Thursday. -/
def betweenThursdays : List ReportEvent :=
  [reportCycle (5 * hour) [(1, 2), (3, 4), (5, 6)],
    reportCycle (6 * hour) [(1, 2), (5, 6)],
    reportCycle (days 7 + 9 * hour) [(1, 2)]]

def secondThursday : ReportWorld :=
  afterEvents afterFirstReport betweenThursdays

theorem keepsAWeek_between : ∀ event ∈ betweenThursdays, event.KeepsAWeek := by
  simp [betweenThursdays, reportCycle, ReportEvent.KeepsAWeek]

def channelPost (w : ReportWorld) (call : ReportCall)
    (h : (w.call call).2.posts.drop w.state.posts.length ≠ []) : ReportPost :=
  ((w.call call).2.posts.drop w.state.posts.length).head h

def thursdayReports : TwoReports sampleEnv where
  start := reportingWorld
  earlier := firstThursday
  sent := afterFirstReport
  later := secondThursday
  before := [reportCycle 0 [(1, 2)]]
  between := betweenThursdays
  first := thursdayCall (4 * hour)
  second := thursdayCall (days 7 + 10 * hour)
  firstPost := channelPost firstThursday (thursdayCall (4 * hour))
    (by decide +kernel)
  secondPost := channelPost secondThursday (thursdayCall (days 7 + 10 * hour))
    (by decide +kernel)
  keepsHistory := ⟨by decide, fun _ hmem => nomatch hmem⟩
  reached := run_afterEvents (by decide +kernel)
    (by simp [reportCycle, ReportEvent.KeepsAWeek])
  delivered := ⟨List.head_mem _, by decide +kernel, by decide +kernel⟩
  called := Run.single_inv ((run_afterEvents (by decide +kernel)
    (by simp [ReportEvent.KeepsAWeek])).mono fun _ _ _ hstep => hstep.2)
  waited := run_afterEvents (by decide +kernel) keepsAWeek_between
  deliveredAgain := ⟨List.head_mem _, by decide +kernel, by decide +kernel⟩
  onTime := by decide +kernel

def shortIncident : thursdayReports.Incident where
  alert := (afterEvents afterFirstReport
    (betweenThursdays.take 2)).monitor.lockAlerts.rows.get ⟨1, by decide +kernel⟩
  resolved := 6 * hour
  found := afterEvents afterFirstReport (betweenThursdays.take 2)
  front := betweenThursdays.take 2
  rest := betweenThursdays.drop 2
  between := rfl
  reached := run_afterEvents (by decide +kernel)
    fun event hmem => keepsAWeek_between event (List.mem_of_mem_take hmem)
  waited := by
    have hrun : Run (HistoryStep sampleEnv) afterFirstReport
        (betweenThursdays.take 2 ++ betweenThursdays.drop 2) secondThursday :=
      thursdayReports.waited
    obtain ⟨middle, hfront, hrest⟩ := hrun.append_inv
    have hsame : execute (reportStep sampleEnv) afterFirstReport
        (betweenThursdays.take 2) = some middle :=
      execute_of_run (hfront.mono fun _ _ _ hstep => hstep.2)
    change Run _ _ _ secondThursday
    simpa [afterEvents, hsame] using hrest
  mem := List.get_mem _ _
  new := by decide +kernel
  resolvedAt := by decide +kernel
  registered := by simp [betweenThursdays, reportCycle]

def longIncident : thursdayReports.Incident where
  alert := secondThursday.monitor.lockAlerts.rows.get ⟨2, by decide +kernel⟩
  resolved := days 7 + 9 * hour
  found := secondThursday
  front := betweenThursdays
  rest := []
  between := (List.append_nil _).symm
  reached := thursdayReports.waited
  waited := .refl _
  mem := List.get_mem _ _
  new := by decide +kernel
  resolvedAt := by decide +kernel
  registered := List.not_mem_nil

theorem thursdays_consecutive : thursdayReports.Consecutive where
  week := by decide
  day := by decide +kernel

theorem long_incident_reported :
    longIncident.alert ∈ thursdayReports.secondPost.alerts :=
  (reported_within_a_week thursdayReports longIncident).2.2
    thursdays_consecutive (by decide)

theorem short_incident_not_reported :
    ∃ (r : TwoReports sampleEnv) (i : r.Incident), r.Consecutive ∧
      (∀ event ∈ r.between, ∃ inst input, event = .cycle inst input) ∧
      i.alert ∉ r.secondPost.alerts := by
  refine ⟨thursdayReports, shortIncident, thursdays_consecutive, ?_, ?_⟩
  · simp [thursdayReports, betweenThursdays, reportCycle]
  · rw [shortIncident.reported_iff]
    decide

end HealthGrid.Background
