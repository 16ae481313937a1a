import HealthGrid.Foundation.Run
import HealthGrid.Monitor.Pruning

/-!
# Cleanup and the weekly report

`cleanup_monitor_history` deletes incidents that were resolved long ago.  The
weekly report looks back seven days, so a run with cleanups and the same run
without them report the same incidents.
-/

namespace HealthGrid.Background

open HealthGrid.Foundation HealthGrid.Monitor HealthGrid.Db

structure LockReport where
  pk : Nat
  fileName : String
  csvContent : String
  expiresAt : Time
  deriving DecidableEq, Repr

/-- What the monitor wrote, the report payloads and `last_cleanup_at`. -/
structure StoredHistory where
  monitor : MonitorState
  reports : List LockReport
  lastCleanupAt : Option Time

inductive CleanupError where
  | doesNotExist
  | overflow
  deriving DecidableEq, Repr

def days (n : Nat) : Int := n * (24 * hour)

/-- The first instant a datetime can be, at the start of year 1. -/
def datetimeMin : Int := -62135596800 * 1000000

/-! ## Cleanup -/

/-- `resolved_at__isnull=False, resolved_at__lt=cutoff`. -/
def resolvedBefore (cutoff : Time) (resolvedAt : Option Time) : Bool :=
  resolvedAt.any fun time => decide (time < cutoff)

/-- Without a settings row `retentionDays` is `none` and the lookup raises. -/
def cleanupMonitorHistory (now : Time) (retentionDays : Option Nat) :
    Call CleanupError StoredHistory (Nat × Nat) := fun s =>
  match retentionDays with
  | none => (.error .doesNotExist, s)
  | some retention =>
      if s.lastCleanupAt.any (fun last => decide (now - last < 24 * hour)) then
        (.ok (0, 0), s)
      else
        let cutoff := now - days (max 1 retention)
        if cutoff < datetimeMin then (.error .overflow, s)
        else
          let alerts := s.monitor.lockAlerts
          let queries := s.monitor.longQueries.alerts
          let deletedAlerts := alerts.rows.filter fun alert =>
            resolvedBefore cutoff alert.resolvedAt
          let deletedQueries := queries.rows.filter fun alert =>
            resolvedBefore cutoff alert.resolvedAt
          let deletedReports := s.reports.filter fun report =>
            decide (report.expiresAt < now)
          (.ok (deletedAlerts.length + deletedQueries.length,
              deletedReports.length),
            { monitor :=
                { s.monitor with
                  lockAlerts := alerts.filter fun alert =>
                    !resolvedBefore cutoff alert.resolvedAt
                  longQueries :=
                    { s.monitor.longQueries with
                      alerts := queries.filter fun alert =>
                        !resolvedBefore cutoff alert.resolvedAt } }
              reports := s.reports.filter fun report =>
                !decide (report.expiresAt < now)
              lastCleanupAt := some now })

/-! ## The weekly report -/

def inReportWindow (now : Time) (alert : LockAlert) : Bool :=
  let cutoff := now - days 7
  decide (alert.firstSeenAt ≤ now) &&
    (decide (alert.firstSeenAt ≥ cutoff) || decide (alert.lastSeenAt ≥ cutoff) ||
      alert.resolvedAt.any fun time => decide (time ≥ cutoff))

/-- `order_by("instance__name", "first_seen_at", "blocked_pid", …)`. -/
def reportOrder (names : Nat → String) (a b : LockAlert) : Prop :=
  names a.instancePk < names b.instancePk ∨
    (names a.instancePk = names b.instancePk ∧
      (a.firstSeenAt < b.firstSeenAt ∨
        (a.firstSeenAt = b.firstSeenAt ∧
          (a.blockedPid < b.blockedPid ∨
            (a.blockedPid = b.blockedPid ∧ a.blockingPid ≤ b.blockingPid)))))

instance (names : Nat → String) : DecidableRel (reportOrder names) :=
  fun a b => by unfold reportOrder; infer_instance

def weeklyAlerts (names : Nat → String) (now : Time) (instancePk : Option Nat)
    (table : LockAlertTable) : List LockAlert :=
  (table.rows.filter fun alert =>
    inReportWindow now alert &&
      instancePk.all fun pk => alert.instancePk == pk).insertionSort
        (reportOrder names)

/-! ## Incidents in order -/

/-- Seen, seen again and resolved in this order, and deleted long after. -/
structure Aged (locks : List Nat) (clock : Time) (alert : LockAlert) : Prop where
  seen : alert.firstSeenAt ≤ alert.lastSeenAt
  past : alert.lastSeenAt ≤ clock
  resolved : ∀ time, alert.resolvedAt = some time → alert.lastSeenAt ≤ time
  dropped : alert.pk ∈ locks →
    ∃ time, alert.resolvedAt = some time ∧ time < clock - days 7

def AllAged (locks : List Nat) (clock : Time) (table : LockAlertTable) : Prop :=
  ∀ alert ∈ table.rows, Aged locks clock alert

section Ages

variable {locks : List Nat} {clock now : Time} {table stored : LockAlertTable}
  {alert : LockAlert}

theorem Aged.mono (h : Aged locks clock alert) (hle : clock ≤ now) :
    Aged locks now alert where
  seen := h.seen
  past := le_trans h.past hle
  resolved := h.resolved
  dropped hmem := by
    obtain ⟨time, htime, hold⟩ := h.dropped hmem
    exact ⟨time, htime, lt_of_lt_of_le hold (Int.sub_le_sub_right hle _)⟩

theorem Aged.mark {threshold : Nat} (h : Aged locks clock alert) :
    Aged locks clock (markAlerted threshold now alert) := by
  rw [markAlerted_eq]
  exact ⟨h.seen, h.past, h.resolved, h.dropped⟩

theorem allAged_storeLockRow (h : AllAged locks clock table)
    (hdrop : table.Droppable locks) (hle : clock ≤ now)
    (instancePk threshold : Nat) (blockedPid blockingPid : Int)
    (row : LockRow) :
    AllAged locks now (storeLockRow instancePk threshold now table blockedPid
      blockingPid row) := by
  unfold storeLockRow
  split
  · intro alert hmem
    rcases List.mem_append.mp hmem with hold | hnew
    · exact (h alert hold).mono hle
    · rw [List.mem_singleton.mp hnew]
      refine Aged.mark ⟨le_refl _, le_refl _, ?_, ?_⟩
      · intro time htime
        cases htime
      · intro hpk
        have hlt := hdrop.used _ hpk
        exact absurd hlt (lt_irrefl _)
  · rename_i found hfind
    obtain ⟨hfound, hopen, -⟩ := OpenTable.findOpen?_spec hfind
    have hnone : found.resolvedAt = none := Option.isNone_iff_eq_none.mp hopen
    intro alert hmem
    obtain ⟨old, hold, rfl⟩ := List.mem_map.mp hmem
    have haged := (h old hold).mono hle
    split
    · rename_i hpk
      have hsame : old = found := OpenTable.eq_of_pk_eq hold hfound hpk
      subst hsame
      refine Aged.mark ⟨?_, le_refl _, ?_, haged.dropped⟩
      · exact le_trans (h old hold).seen (le_trans (h old hold).past hle)
      · intro time htime
        rw [show (seenAgain row now old).resolvedAt = old.resolvedAt from rfl,
          hnone] at htime
        cases htime
    · exact haged

theorem allAged_resolveStale (h : AllAged locks now table)
    (hdrop : table.Droppable locks) (instancePk : Nat)
    (seenKeys : List String) :
    AllAged locks now (resolveStale instancePk seenKeys now table) := by
  intro alert hmem
  obtain ⟨old, hold, rfl⟩ := List.mem_map.mp hmem
  have haged := h old hold
  split
  · rename_i hstale
    refine ⟨haged.seen, haged.past, ?_, ?_⟩
    · intro time htime
      cases htime
      exact haged.past
    · intro hpk
      have hold' : old.pk ∈ locks := hpk
      exact absurd hold' (not_mem_of_open hdrop hold hstale.2.1)
  · exact haged

theorem allAged_cycle {env : MonitorEnv} {inst : RDSInstance}
    {input : CycleInput} {s : MonitorState} (h : AllAged locks clock s.lockAlerts)
    (hdrop : s.lockAlerts.Droppable locks) (hle : clock ≤ input.now) :
    AllAged locks input.now (cycle env inst s input).lockAlerts := by
  have hboth : AllAged locks input.now (cycle env inst s input).lockAlerts ∧
      (cycle env inst s input).lockAlerts.Droppable locks := by
    refine cycle_preserves
      (P := fun table => AllAged locks input.now table ∧ table.Droppable locks)
      ?_ ?_ ⟨fun alert hmem => (h alert hmem).mono hle, hdrop⟩
    · rintro table blockedPid blockingPid row ⟨haged, hdrop⟩
      exact ⟨allAged_storeLockRow haged hdrop (le_refl _) _ _ _ _ _,
        storeLockRow_droppable _ _ _ hdrop ..⟩
    · rintro table seenKeys ⟨haged, hdrop⟩
      exact ⟨allAged_resolveStale haged hdrop _ _,
        OpenTable.droppable_update hdrop ((clearAlert_keeps _).ite _)⟩
  exact hboth.1

end Ages

/-! ## Runs with and without cleanups -/

inductive HistoryEvent where
  | cycle (inst : RDSInstance) (input : CycleInput)
  | cleanup (now : Time) (retentionDays : Option Nat)

def HistoryEvent.now : HistoryEvent → Time
  | .cycle _ input => input.now
  | .cleanup now _ => now

def StoredHistory.next (env : MonitorEnv) (s : StoredHistory) :
    HistoryEvent → StoredHistory
  | .cycle inst input => { s with monitor := cycle env inst s.monitor input }
  | .cleanup now retentionDays =>
      (cleanupMonitorHistory now retentionDays s).2

def HistoryEvent.KeepsAWeek : HistoryEvent → Prop
  | .cycle _ _ => True
  | .cleanup _ retentionDays => ∀ retention, retentionDays = some retention →
      7 ≤ retention

/-- The same run twice, `full` with all its cleanups removed. -/
structure TwoRuns where
  clock : Time
  kept : StoredHistory
  full : StoredHistory

def TwoRuns.Step (env : MonitorEnv) (t : TwoRuns) (event : HistoryEvent)
    (t' : TwoRuns) : Prop :=
  t.clock ≤ event.now ∧ event.KeepsAWeek ∧
    t' = ⟨event.now, t.kept.next env event,
      match event with
      | .cycle _ _ => t.full.next env event
      | .cleanup _ _ => t.full⟩

structure Lacks (t : TwoRuns) (locks queries : List Nat) : Prop where
  pruned : t.kept.monitor = t.full.monitor.prune locks queries
  droppable : t.full.monitor.Droppable locks queries
  aged : AllAged locks t.clock t.full.monitor.lockAlerts

section Runs

variable {env : MonitorEnv} {t t' : TwoRuns} {locks queries : List Nat}

theorem cleanup_monitor (now : Time) (retentionDays : Option Nat)
    (s : StoredHistory) :
    (cleanupMonitorHistory now retentionDays s).2.monitor = s.monitor ∨
    ∃ retention, retentionDays = some retention ∧
      (cleanupMonitorHistory now retentionDays s).2.monitor =
        { s.monitor with
          lockAlerts := s.monitor.lockAlerts.filter fun alert =>
            !resolvedBefore (now - days (max 1 retention)) alert.resolvedAt
          longQueries :=
            { s.monitor.longQueries with
              alerts := s.monitor.longQueries.alerts.filter fun alert =>
                !resolvedBefore (now - days (max 1 retention))
                  alert.resolvedAt } } := by
  unfold cleanupMonitorHistory
  split
  · exact .inl rfl
  · rename_i retention
    split
    · exact .inl rfl
    · dsimp only
      split
      · exact .inl rfl
      · exact .inr ⟨retention, rfl, rfl⟩

theorem days_mono {m n : Nat} (h : m ≤ n) : days m ≤ days n := by
  unfold days hour
  omega

theorem lacks_cycle {inst : RDSInstance} {input : CycleInput}
    (h : Lacks t locks queries) (hle : t.clock ≤ input.now) :
    Lacks ⟨input.now, t.kept.next env (.cycle inst input),
      t.full.next env (.cycle inst input)⟩ locks queries where
  pruned := by
    change cycle env inst t.kept.monitor input = _
    rw [h.pruned]
    exact cycle_prune h.droppable
  droppable := droppable_cycle h.droppable
  aged := allAged_cycle h.aged h.droppable.locks hle

theorem resolvedBefore_closed {cutoff : Time} {resolvedAt : Option Time}
    (h : resolvedBefore cutoff resolvedAt = true) :
    resolvedAt.isNone = false := by
  cases resolvedAt with
  | none => cases h
  | some _ => rfl

theorem lacks_cleanup {now : Time} {retentionDays : Option Nat}
    (h : Lacks t locks queries) (hle : t.clock ≤ now)
    (hweek : (HistoryEvent.cleanup now retentionDays).KeepsAWeek) :
    ∃ locks' queries', Lacks ⟨now, t.kept.next env (.cleanup now retentionDays),
      t.full⟩ locks' queries' := by
  have hlater : AllAged locks now t.full.monitor.lockAlerts :=
    fun alert hmem => (h.aged alert hmem).mono hle
  rcases cleanup_monitor now retentionDays t.kept with
    hsame | ⟨retention, hretention, hdeleted⟩
  · exact ⟨locks, queries, hsame.trans h.pruned, h.droppable, hlater⟩
  · let cutoff := now - days (max 1 retention)
    let oldLock (alert : LockAlert) : Bool :=
      resolvedBefore cutoff alert.resolvedAt
    let oldQuery (alert : LongQueryAlert) : Bool :=
      resolvedBefore cutoff alert.resolvedAt
    have hcutoff : cutoff ≤ now - days 7 := by
      have := days_mono (hweek retention hretention |>.trans
        (le_max_right 1 retention))
      exact Int.sub_le_sub_left this now
    refine ⟨locks ++ (t.full.monitor.lockAlerts.rows.filter oldLock).map pk,
      queries ++ (t.full.monitor.longQueries.alerts.rows.filter oldQuery).map pk,
      ?_, ⟨?_, ?_⟩, ?_⟩
    · refine hdeleted.trans ?_
      rw [h.pruned]
      unfold MonitorState.prune LongQueryState.prune
      dsimp only
      rw [← OpenTable.filter_of_without, ← OpenTable.filter_of_without]
    · exact OpenTable.droppable_append h.droppable.locks
        fun _ _ => resolvedBefore_closed
    · exact OpenTable.droppable_append h.droppable.queries
        fun _ _ => resolvedBefore_closed
    · intro alert hmem
      have haged := hlater alert hmem
      refine ⟨haged.seen, haged.past, haged.resolved, ?_⟩
      intro hpk
      rcases List.mem_append.mp hpk with hold | hnew
      · exact haged.dropped hold
      · obtain ⟨other, hother, heq⟩ := List.mem_map.mp hnew
        rw [List.mem_filter] at hother
        have hsame : other = alert :=
          OpenTable.eq_of_pk_eq hother.1 hmem heq
        subst hsame
        obtain ⟨time, htime, hlt⟩ :=
          (Option.any_eq_true _ other.resolvedAt).mp hother.2
        exact ⟨time, htime,
          lt_of_lt_of_le (of_decide_eq_true hlt) hcutoff⟩

theorem lacks_run {events : List HistoryEvent} {start : StoredHistory}
    {clock : Time}
    (hrun : Run (TwoRuns.Step env) ⟨clock, start, start⟩ events t)
    (hstart : AllAged [] clock start.monitor.lockAlerts) :
    ∃ locks queries, Lacks t locks queries := by
  induction hrun with
  | refl =>
      refine ⟨[], [], ?_, ⟨⟨?_, ?_⟩, ⟨?_, ?_⟩⟩, hstart⟩
      · unfold MonitorState.prune LongQueryState.prune
        rw [OpenTable.without_nil, OpenTable.without_nil]
      all_goals simp
  | @snoc _ _ _ event _ hstep ih =>
      obtain ⟨locks, queries, h⟩ := ih
      obtain ⟨hle, hweek, rfl⟩ := hstep
      cases event with
      | cycle inst input => exact ⟨locks, queries, lacks_cycle h hle⟩
      | cleanup now retentionDays => exact lacks_cleanup h hle hweek

theorem not_inReportWindow {clock now : Time} {alert : LockAlert}
    (h : Aged locks clock alert) (hmem : alert.pk ∈ locks)
    (hle : clock ≤ now) : inReportWindow now alert = false := by
  obtain ⟨time, htime, hold⟩ := h.dropped hmem
  have hlast := h.resolved time htime
  have hfirst := h.seen
  have hresolved : time < now - days 7 :=
    lt_of_lt_of_le hold (Int.sub_le_sub_right hle _)
  have hseen := lt_of_le_of_lt hlast hresolved
  have hcreated := lt_of_le_of_lt hfirst hseen
  unfold inReportWindow
  dsimp only
  rw [htime, Option.any_some, decide_eq_false (not_le.mpr hcreated),
    decide_eq_false (not_le.mpr hseen), decide_eq_false (not_le.mpr hresolved),
    Bool.or_self, Bool.or_self, Bool.and_false]

end Runs

/--
Cycles and cleanups in any order, with the clock never going back and at
least a week of retention, from incidents whose times are in order.
-/
theorem report_survives_cleanup {env : MonitorEnv} {events : List HistoryEvent}
    {start : StoredHistory} {clock : Time} {t : TwoRuns}
    (hrun : Run (TwoRuns.Step env) ⟨clock, start, start⟩ events t)
    (hstart : AllAged [] clock start.monitor.lockAlerts) :
    (∀ names now instancePk, t.clock ≤ now →
      weeklyAlerts names now instancePk t.kept.monitor.lockAlerts =
        weeklyAlerts names now instancePk t.full.monitor.lockAlerts) ∧
    ∀ now retentionDays,
      let after := (cleanupMonitorHistory now retentionDays t.kept).2.monitor
      (∀ alert ∈ t.kept.monitor.lockAlerts.rows, alert.resolvedAt = none →
        alert ∈ after.lockAlerts.rows) ∧
      ∀ alert ∈ t.kept.monitor.longQueries.alerts.rows,
        alert.resolvedAt = none → alert ∈ after.longQueries.alerts.rows := by
  constructor
  · intro names now instancePk hle
    obtain ⟨locks, queries, h⟩ := lacks_run hrun hstart
    unfold weeklyAlerts
    rw [h.pruned]
    unfold MonitorState.prune
    dsimp only
    rw [OpenTable.filter_without]
    intro alert hmem hreported hpk
    rw [Bool.and_eq_true, not_inReportWindow (h.aged alert hmem) hpk hle]
      at hreported
    cases hreported.1
  · intro now retentionDays after
    rcases cleanup_monitor now retentionDays t.kept with
      hsame | ⟨retention, -, hdeleted⟩
    · change after = _ at hsame
      rw [hsame]
      exact ⟨fun _ hmem _ => hmem, fun _ hmem _ => hmem⟩
    · change after = _ at hdeleted
      rw [hdeleted]
      constructor
      · intro alert hmem hopen
        exact List.mem_filter.mpr ⟨hmem, by simp [hopen, resolvedBefore]⟩
      · intro alert hmem hopen
        exact List.mem_filter.mpr ⟨hmem, by simp [hopen, resolvedBefore]⟩

/-- The cleanup deletes the incident of the first week, and the report keeps the
one of the last. -/
theorem report_survives_one_cleanup :
    let inst := sampleInstance .postgresql
    let shown := HistoryEvent.cycle inst (sampleCycle 0 [⟨some 1, some 2, none,
      none, none, none, some 300⟩])
    let gone := HistoryEvent.cycle inst (sampleCycle (days 1) [])
    let later := HistoryEvent.cycle inst (sampleCycle (days 38) [⟨some 3, some 4,
      none, none, none, none, some 300⟩])
    let full := (((⟨.empty, [], none⟩ : StoredHistory).next sampleEnv shown).next
      sampleEnv gone).next sampleEnv later
    let kept := full.next sampleEnv (.cleanup (days 40) (some 30))
    let report (s : StoredHistory) :=
      weeklyAlerts (fun _ => "orders") (days 40) none s.monitor.lockAlerts
    full.monitor.lockAlerts.rows.length = 2 ∧
    kept.monitor.lockAlerts.rows.length = 1 ∧
    (report kept).map LockAlert.blockedPid = [3] ∧
    report kept = report full := by
  intro inst shown gone later full kept report
  have hrun : Run (TwoRuns.Step sampleEnv)
      ⟨0, ⟨.empty, [], none⟩, ⟨.empty, [], none⟩⟩
      [shown, gone, later, .cleanup (days 40) (some 30)]
      ⟨days 40, kept, full⟩ := by
    refine .snoc (.snoc (.snoc (.single ⟨?_, trivial, rfl⟩) ⟨?_, trivial, rfl⟩)
      ⟨?_, trivial, rfl⟩) ⟨?_, ?_, rfl⟩
    · exact (by decide : days 38 ≤ days 40)
    · intro retention hretention
      cases hretention
      decide
    · exact (by decide : (0 : Int) ≤ 0)
    · exact (by decide : (0 : Int) ≤ days 1)
    · exact (by decide : days 1 ≤ days 38)
  refine ⟨by decide, by decide, by decide, ?_⟩
  refine (report_survives_cleanup hrun ?_).1 _ _ _ (le_refl _)
  intro alert hmem
  cases hmem

end HealthGrid.Background
