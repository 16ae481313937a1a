import HealthGrid.Kill.ClearAttribution
import HealthGrid.Monitor.CatalogFailure
import HealthGrid.Monitor.QuietHours
import HealthGrid.Monitor.SummaryMessage
import Mathlib.Data.List.Dedup

/-!
# Who the cards say cleared the locks

A clear card takes its pairs from the stored notification state and the users
and PIDs from the incidents its own cycle resolved.  The watch keeps, beside
the run, the incidents resolved since a card was last delivered.
-/

namespace HealthGrid.Kill

open HealthGrid.Foundation HealthGrid.Db HealthGrid.Monitor HealthGrid.Views.Kill

/-! ## The watched run -/

def resolvedSince (instancePk : Nat) (before : LockAlertTable)
    (alert : LockAlert) : Bool :=
  alert.instancePk == instancePk && alert.alertedAt.isSome &&
    alert.resolvedAt.isSome && before.rows.all fun old =>
      old.pk != alert.pk || old.resolvedAt.isNone

def newlyResolved (instancePk : Nat) (before after : LockAlertTable) :
    List LockAlert :=
  after.rows.filter (resolvedSince instancePk before)

def deliveredCards (instancePk : Nat) (sent : List (Nat × Attempt)) :
    List Card :=
  sent.filterMap fun attempt =>
    if attempt.1 = instancePk ∧ attempt.2.2 = true then some attempt.2.1
    else none

/-- A delivered card, with what was resolved since the one before it. -/
structure ClearReport where
  card : Card
  resolved : List LockAlert

structure ClearWatch where
  state : MonitorState
  unreported : List LockAlert
  reports : List ClearReport

inductive ClearStep where
  | cycle (inst : RDSInstance) (input : CycleInput)
  | kill (inst : RDSInstance) (pids : List Int) (user : Operator)

def ClearWatch.step (env : MonitorEnv) (instancePk : Nat) (w : ClearWatch) :
    ClearStep → ClearWatch
  | .kill inst pids user =>
      { w with state := { w.state with
          lockAlerts := (markManualKill inst pids user
            ⟨(), w.state.lockAlerts, []⟩).2.lockAlerts } }
  | .cycle inst input =>
      let state := cycle env inst w.state input
      let resolved := w.unreported ++
        newlyResolved instancePk w.state.lockAlerts state.lockAlerts
      let cards := deliveredCards instancePk
        (cycleCards env inst w.state input)
      { state := state
        unreported := if cards = [] then resolved else []
        reports := w.reports ++ cards.map fun card => ⟨card, resolved⟩ }

def ClearWatch.Step (env : MonitorEnv) (instancePk : Nat) (w : ClearWatch)
    (step : ClearStep) (w' : ClearWatch) : Prop :=
  w.step env instancePk step = w'

/-! ## What a clear card should say -/

structure TruthfulClear (message : String) (resolved : List LockAlert) :
    Prop where
  manual : (∃ users pids, message = manualText users pids) ↔
    manualKills resolved ≠ []
  names : manualKills resolved ≠ [] → message =
    manualText (separator.intercalate (killUsers resolved))
      (separator.intercalate (killedPids resolved))
  automatic : message = automaticText → manualKills resolved = []

def ClearsTruthful (w : ClearWatch) : Prop :=
  ∀ report ∈ w.reports, report.card.event = .cleared →
    TruthfulClear (messageText report.card) report.resolved

/-! ## When it does -/

def goneAlerts (instancePk : Nat) (seenKeys : List String)
    (table : LockAlertTable) : List LockAlert :=
  table.rows.filter fun alert =>
    Stale instancePk seenKeys alert && alert.alertedAt.isSome

/-- The cycle finds nothing to report while the channel knows of locks. -/
structure SendsClear (env : MonitorEnv) (inst : RDSInstance)
    (input : CycleInput) (activity : List ActivityRow)
    (blocking : List LockRow) (s : MonitorState) : Prop extends
    ClearedCardDue env inst input activity s where
  stored : ∀ row ∈ (uniqueBlocking blocking).values, Storable env.app row
  ineligible : ∀ row ∈ (uniqueBlocking blocking).values,
    ¬ WillBeEligible inst.pk input.config.thresholdSeconds s.lockAlerts row
  calm : blocking = [] ∨
    ((s.notificationState inst.pk).stormActive = false ∧
      (input.config.lockStormThreshold = 0 ∨
        (uniqueBlocking blocking).keys.length <
          input.config.lockStormThreshold))
  delivers : ∃ card, card.event = .cleared ∧ input.deliver card = true

/-- The incidents left unreported add no name, and all names fit the card. -/
structure NamesUnreported (unreported gone : List LockAlert) : Prop where
  users : killUsers (unreported ++ gone) = killUsers gone
  pids : killedPids (unreported ++ gone) = killedPids gone
  shown : manualKills gone ≠ [] →
    ShownInFull 1200 (killUsers gone) ∧ ShownInFull 600 (killedPids gone)

def ReportsInTime (env : MonitorEnv) (instancePk : Nat) (w : ClearWatch) :
    ClearStep → Prop
  | .kill .. => True
  | .cycle inst input => inst.pk = instancePk → ∀ activity blocking,
      input.fetch inst = .ok (activity, blocking) →
        SendsClear env inst input activity blocking w.state →
          NamesUnreported w.unreported
            (goneAlerts inst.pk (uniqueBlocking blocking).keys
              w.state.lockAlerts)

/-! ## The names on a card -/

section Names

variable {alerts unreported gone : List LockAlert} {now : Time}

theorem manualKills_append (alerts alerts' : List LockAlert) :
    manualKills (alerts ++ alerts') =
      manualKills alerts ++ manualKills alerts' :=
  List.filter_append ..

theorem manualKills_clearAlert (now : Time) (alerts : List LockAlert) :
    manualKills (alerts.map (clearAlert now)) =
      (manualKills alerts).map (clearAlert now) := by
  unfold manualKills
  rw [List.filter_map]
  congr 1
  apply List.filter_congr
  intro alert _
  by_cases hblank : alert.clearReason = "" <;> simp [clearAlert, hblank]

theorem killUsers_clearAlert (now : Time) (alerts gone : List LockAlert) :
    killUsers (alerts ++ gone.map (clearAlert now)) =
      killUsers (alerts ++ gone) := by
  have hsame : (LockAlert.clearedBy ∘ clearAlert now) = LockAlert.clearedBy :=
    rfl
  simp [killUsers, manualKills_append, manualKills_clearAlert, hsame]

theorem killedPids_clearAlert (now : Time) (alerts gone : List LockAlert) :
    killedPids (alerts ++ gone.map (clearAlert now)) =
      killedPids (alerts ++ gone) := by
  simp [killedPids, manualKills_append, manualKills_clearAlert,
    List.flatMap_map, clearAlert]

theorem killedPids_eq_nil :
    killedPids alerts = [] ↔ manualKills alerts = [] := by
  constructor
  · intro hnone
    rw [List.eq_nil_iff_forall_not_mem] at hnone ⊢
    intro alert hmem
    apply hnone (toString alert.blockedPid)
    apply List.mem_map_of_mem
    rw [List.mem_insertionSort, List.mem_dedup, List.mem_flatMap]
    exact ⟨alert, hmem, List.mem_cons_self ..⟩
  · intro hnone
    simp [killedPids, hnone]

theorem truthful_of_names {card : Card} (h : NamesUnreported unreported gone)
    (hevent : card.event = .cleared)
    (hcleared : card.clearedAlerts = gone.map (clearAlert now)) :
    TruthfulClear (messageText card)
      (unreported ++ gone.map (clearAlert now)) := by
  have husers := killUsers_clearAlert now unreported gone
  have hpids := killedPids_clearAlert now unreported gone
  rw [h.users] at husers
  rw [h.pids] at hpids
  have hgone := killUsers_clearAlert now [] gone
  have hgonePids := killedPids_clearAlert now [] gone
  rw [List.nil_append, List.nil_append] at hgone hgonePids
  have hmanual : manualKills (unreported ++ gone.map (clearAlert now)) = [] ↔
      manualKills gone = [] := by
    rw [← killedPids_eq_nil, hpids, killedPids_eq_nil]
  have hcard : manualKills (gone.map (clearAlert now)) = [] ↔
      manualKills gone = [] := by
    rw [← killedPids_eq_nil, hgonePids, killedPids_eq_nil]
  by_cases hnone : manualKills gone = []
  · have hmessage : messageText card = automaticText := by
      simp [messageText, hevent, hcleared, hcard.mpr hnone]
    rw [hmessage]
    refine ⟨iff_of_false ?_ (fun hne => hne (hmanual.mpr hnone)),
      fun hne => absurd (hmanual.mpr hnone) hne, fun _ => hmanual.mpr hnone⟩
    rintro ⟨users, pids, heq⟩
    exact manualText_ne_automaticText users pids heq.symm
  · obtain ⟨hshownUsers, hshownPids⟩ := h.shown hnone
    have hmessage : messageText card =
        manualText (separator.intercalate (killUsers gone))
          (separator.intercalate (killedPids gone)) := by
      rw [← pairText_of_shownInFull hshownUsers,
        ← pairText_of_shownInFull hshownPids]
      simp [messageText, hevent, hcard, hnone, hcleared, hgone, hgonePids]
    have hsome := mt hmanual.mp hnone
    rw [← husers, ← hpids] at hmessage
    refine ⟨iff_of_true ⟨_, _, hmessage⟩ hsome, fun _ => hmessage, ?_⟩
    intro hautomatic
    rw [hmessage] at hautomatic
    exact absurd hautomatic (manualText_ne_automaticText _ _)

end Names

/-! ## What a cycle resolves and sends -/

section Cycle

variable {env : MonitorEnv} {inst : RDSInstance} {input : CycleInput}
  {s : MonitorState} {stored table : LockAlertTable} {rows : List LockRow}
  {seenKeys : List String}

theorem filter_stale (hstored : upsertLockAlerts env.app inst.pk
      input.config.thresholdSeconds input.now table rows = .ok stored)
    (hkeys : rows.map lockKey = seenKeys) (p : LockAlert → Bool) :
    stored.rows.filter (fun alert => Stale inst.pk seenKeys alert && p alert) =
      table.rows.filter (fun alert =>
        Stale inst.pk seenKeys alert && p alert) := by
  apply upsertLockAlerts_filter hstored
  intro alert _ _ hseen
  rw [hkeys] at hseen
  simp [Stale, hseen]

theorem clearedAlerts_stored (hstored : upsertLockAlerts env.app inst.pk
      input.config.thresholdSeconds input.now table rows = .ok stored)
    (hkeys : rows.map lockKey = seenKeys) :
    clearedAlerts inst.pk seenKeys input.now stored =
      (goneAlerts inst.pk seenKeys table).map (clearAlert input.now) := by
  unfold clearedAlerts goneAlerts
  rw [filter_stale hstored hkeys]

theorem resolved_stored (hstored : upsertLockAlerts env.app inst.pk
      input.config.thresholdSeconds input.now table rows = .ok stored)
    {alert : LockAlert} (hmem : alert ∈ stored.rows)
    (hresolved : alert.resolvedAt ≠ none) : alert ∈ table.rows := by
  have hsame : stored.rows.filter (fun alert => alert.resolvedAt.isSome) =
      table.rows.filter (fun alert => alert.resolvedAt.isSome) := by
    apply upsertLockAlerts_filter hstored
    intro other hopen _ _
    rw [Option.isNone_iff_eq_none.mp hopen]
    rfl
  have hfiltered : alert ∈ stored.rows.filter
      (fun alert => alert.resolvedAt.isSome) :=
    List.mem_filter.mpr ⟨hmem, Option.ne_none_iff_isSome.mp hresolved⟩
  rw [hsame] at hfiltered
  exact List.mem_of_mem_filter hfiltered

theorem resolvedSince_clearAlert {alert : LockAlert}
    (hstale : Stale inst.pk seenKeys alert) (hmem : alert ∈ table.rows)
    (now : Time) :
    resolvedSince inst.pk table (clearAlert now alert) =
      alert.alertedAt.isSome := by
  have hopen : (table.rows.all fun old =>
      old.pk != alert.pk || old.resolvedAt.isNone) = true := by
    rw [List.all_eq_true]
    intro old hold
    by_cases hpk : old.pk = alert.pk
    · rw [OpenTable.eq_of_pk_eq hold hmem hpk]
      simp [hstale.2.1]
    · simp [hpk]
  simp [resolvedSince, clearAlert, hstale.1, hopen]

theorem resolvedSince_stored (hstored : upsertLockAlerts env.app inst.pk
      input.config.thresholdSeconds input.now table rows = .ok stored)
    {alert : LockAlert} (hmem : alert ∈ stored.rows) :
    resolvedSince inst.pk table alert = false := by
  unfold resolvedSince
  by_cases hresolved : alert.resolvedAt = none
  · simp [hresolved]
  · have hold := resolved_stored hstored hmem hresolved
    rw [Bool.and_eq_false_iff, List.all_eq_false]
    refine .inr ⟨alert, hold, ?_⟩
    simpa using hresolved

theorem newlyResolved_stored (hstored : upsertLockAlerts env.app inst.pk
      input.config.thresholdSeconds input.now table rows = .ok stored)
    (hkeys : rows.map lockKey = seenKeys) :
    newlyResolved inst.pk table
        (resolveStale inst.pk seenKeys input.now stored) =
      (goneAlerts inst.pk seenKeys table).map (clearAlert input.now) := by
  have hchosen : stored.rows.filter (resolvedSince inst.pk table ∘
        fun alert => if Stale inst.pk seenKeys alert then
          clearAlert input.now alert else alert) =
      stored.rows.filter (fun alert =>
        Stale inst.pk seenKeys alert && alert.alertedAt.isSome) := by
    apply List.filter_congr
    intro alert hmem
    rw [Function.comp]
    by_cases hstale : Stale inst.pk seenKeys alert
    · have hold : alert ∈ table.rows := by
        have hfiltered : alert ∈ stored.rows.filter (fun alert =>
            Stale inst.pk seenKeys alert && true) := by
          simp [hmem, hstale]
        rw [filter_stale hstored hkeys] at hfiltered
        exact List.mem_of_mem_filter hfiltered
      rw [if_pos hstale, resolvedSince_clearAlert hstale hold]
      simp [hstale]
    · rw [if_neg hstale, resolvedSince_stored hstored hmem]
      simp [hstale]
  rw [← clearedAlerts_stored hstored hkeys]
  unfold newlyResolved resolveStale clearedAlerts
  rw [OpenTable.update_rows, List.filter_map, hchosen]
  apply List.map_congr_left
  intro alert hmem
  have hstale := (List.mem_filter.mp hmem).2
  rw [Bool.and_eq_true, decide_eq_true_eq] at hstale
  exact if_pos hstale.1

theorem cycle_error {e : Exn} (h : (processInstance env inst input s).1 =
    .error e) : cycleCards env inst s input = [] := by
  unfold cycleCards cycle
  generalize hstate : (processInstance env inst input s).2 = s'
  have hend := processInstance_end env inst input s
  rw [h, hstate] at hend
  cases hend <;> exact List.drop_length

theorem ordinary_answer {sha256 : String → String} {now : Time}
    {summary : LockSummary} {deliver : Card → Bool}
    {state : LockNotificationState} {attempt : Attempt}
    (h : (sendOrdinarySummary sha256 now summary deliver state).2 =
      some attempt) : attempt.2 = deliver attempt.1 := by
  unfold sendOrdinarySummary at h
  dsimp only at h
  split at h
  · cases h
  · split at h
    · cases h
    · split at h
      · rename_i hdeliver
        cases h
        exact hdeliver.symm
      · rename_i hdeliver
        cases h
        exact (Bool.eq_false_iff.mpr hdeliver).symm

structure ClearAttempt (sha256 : String → String)
    (config : NotificationSettings) (now : Time) (summary : LockSummary)
    (deliver : Card → Bool) (state : LockNotificationState)
    (attempt : Attempt) : Prop where
  windowOpen : lockNotificationsOpen config now = true
  calm : summary.active = [] ∨
    (state.stormActive = false ∧ ¬ IsStorm config summary)
  eligible : summary.eligible = []
  keys : state.lastActiveKeys ≠ []
  fingerprint : sha256 "" ≠ state.lastFingerprint
  cleared : attempt.1.clearedAlerts = summary.cleared
  answer : attempt.2 = deliver attempt.1

theorem clearAttempt_of_transaction {sha256 : String → String}
    {config : NotificationSettings} {now : Time} {summary : LockSummary}
    {deliver : Card → Bool} {state : LockNotificationState} {attempt : Attempt}
    (h : (lockSummaryTransaction sha256 config now summary deliver state).2 =
      some attempt) (hevent : attempt.1.event = .cleared) :
    ClearAttempt sha256 config now summary deliver state attempt := by
  rcases lockSummaryTransaction_cases sha256 config now summary deliver
    state with ⟨-, hrun⟩ | ⟨-, -, -, hrun⟩ | ⟨-, -, -, -, hrun⟩ |
      ⟨hopen, hcalm, hrun⟩
  · rw [hrun] at h
    cases h
  · rw [hrun] at h
    cases h
  · rw [hrun] at h
    rw [storm_attempt h] at hevent
    cases hevent
  · rw [hrun] at h
    obtain ⟨hcard, hkeys⟩ := ordinary_attempt h
    rw [hcard, (ordinaryCard_describes hkeys).event] at hevent
    have hfingerprint := ((ordinary_attempt_iff _ _ _ _ _).mp ⟨_, h⟩).1
    by_cases hprevious : PyText.sorted state.lastActiveKeys = []
    · rw [if_pos hprevious] at hevent
      cases hevent
    · rw [if_neg hprevious] at hevent
      by_cases hnone : summary.eligible = []
      · rw [hnone] at hfingerprint
        exact ⟨hopen, hcalm, hnone, fun hnil => hprevious (by simp [hnil]),
          hfingerprint, by rw [hcard]; rfl, ordinary_answer h⟩
      · rw [if_neg hnone] at hevent
        cases hevent

theorem mem_deliveredCards {instancePk : Nat} {sent : List (Nat × Attempt)}
    {card : Card} :
    card ∈ deliveredCards instancePk sent ↔
      (instancePk, card, true) ∈ sent := by
  unfold deliveredCards
  rw [List.mem_filterMap]
  constructor
  · rintro ⟨⟨n, other, answer⟩, hmem, hsome⟩
    rw [Option.ite_none_right_eq_some] at hsome
    obtain ⟨⟨rfl, rfl⟩, hcard⟩ := hsome
    cases hcard
    exact hmem
  · intro hmem
    exact ⟨_, hmem, if_pos ⟨rfl, rfl⟩⟩

theorem sendsClear_of_attempt {activity : List ActivityRow}
    {blocking : List LockRow} {table' : LockAlertTable}
    {longQueries : LongQueryState} {cleared : List LockAlert} {card : Card}
    (htable : snapshotTable env inst input blocking s.lockAlerts = .ok table')
    (htrack : processLongQueries env.lib env.app input.config input.now
      inst.pk activity input.deliverLongQueries s.longQueries =
        (.ok (), longQueries))
    (hclear : ClearAttempt env.lib.sha256 input.config input.now
      (cycleSummary inst cleared table') input.deliver
      (s.notificationState inst.pk) (card, true))
    (hevent : card.event = .cleared) :
    SendsClear env inst input activity blocking s where
  tracked := (processLongQueries_ok_iff _ _ _ _).mp ⟨_, htrack⟩
  windowOpen := hclear.windowOpen
  fingerprint := hclear.fingerprint
  keys := hclear.keys
  stored := by
    obtain ⟨stored, hstored, -⟩ := snapshotTable_stored htable
    exact upsertLockAlerts_storable.mp ⟨stored, hstored⟩
  ineligible row hrow hwill :=
    eligible_of_value htable hrow hwill hclear.eligible
  calm := by
    rcases hclear.calm with hnone | ⟨hquiet, hfew⟩
    · left
      by_contra hshown
      obtain ⟨row, hrow⟩ := values_ne_nil hshown
      exact active_of_value htable hrow hnone
    · refine .inr ⟨hquiet, ?_⟩
      by_contra hmany
      rw [not_or, not_lt] at hmany
      exact hfew ⟨hmany.1, le_trans hmany.2 (length_keys_le_active htable)⟩
  delivers := ⟨card, hevent, hclear.answer.symm⟩

theorem cleared_card {instancePk : Nat} {card : Card}
    (hcard : card ∈ deliveredCards instancePk (cycleCards env inst s input))
    (hevent : card.event = .cleared) :
    inst.pk = instancePk ∧ ∃ activity blocking,
      input.fetch inst = .ok (activity, blocking) ∧
      SendsClear env inst input activity blocking s ∧
      let gone := (goneAlerts inst.pk (uniqueBlocking blocking).keys
        s.lockAlerts).map (clearAlert input.now)
      card.clearedAlerts = gone ∧
        newlyResolved inst.pk s.lockAlerts
          (cycle env inst s input).lockAlerts = gone := by
  rw [mem_deliveredCards] at hcard
  cases hresult : (processInstance env inst input s).1 with
  | error e =>
      rw [cycle_error hresult] at hcard
      cases hcard
  | ok _ =>
      have hend := processInstance_end env inst input s
      generalize hafter : (processInstance env inst input s).2 = after at hend
      rw [hresult] at hend
      cases hend with
      | @completed activity blocking table longQueries _ hfetch htable htrack =>
          obtain ⟨stored, hstored, rfl⟩ := snapshotTable_stored htable
          have hkeys := values_lockKey blocking
          have hstate : cycle env inst s input = _ :=
            congrArg Prod.snd (processInstance_ok hfetch hstored htrack)
          dsimp only at hstate
          unfold cycleCards at hcard
          rw [hstate, notifyLocks_cards, List.drop_left, List.mem_map] at hcard
          obtain ⟨attempt, hattempt, hpair⟩ := hcard
          obtain ⟨rfl, rfl⟩ := Prod.mk.inj hpair
          rw [LockSummary.result, Option.mem_toList] at hattempt
          have hclear := clearAttempt_of_transaction hattempt hevent
          refine ⟨rfl, activity, blocking, hfetch, ?_, ?_, ?_⟩
          · exact sendsClear_of_attempt htable htrack hclear hevent
          · exact hclear.cleared.trans (clearedAlerts_stored hstored hkeys)
          · rw [hstate]
            exact newlyResolved_stored hstored hkeys

end Cycle

/-! ## Whole runs -/

theorem clearsTruthful_step {env : MonitorEnv} {instancePk : Nat}
    {w w' : ClearWatch} {step : ClearStep} (h : ClearsTruthful w)
    (hguard : ReportsInTime env instancePk w step)
    (hstep : ClearWatch.Step env instancePk w step w') : ClearsTruthful w' := by
  cases hstep
  cases step with
  | kill => exact h
  | cycle inst input =>
      intro report hmem hevent
      rcases List.mem_append.mp hmem with hold | hnew
      · exact h report hold hevent
      · obtain ⟨card, hcard, rfl⟩ := List.mem_map.mp hnew
        obtain ⟨rfl, activity, blocking, hfetch, hsends, hcleared, hresolved⟩ :=
          cleared_card hcard hevent
        have hnames := hguard rfl activity blocking hfetch hsends
        dsimp only
        rw [hresolved]
        exact truthful_of_names hnames hevent hcleared

/--
In runs in which no clear card goes out while a manual kill is unreported, the
clear cards name exactly the users and PIDs of the manual kills since the card
before.
-/
theorem clears_truthful {env : MonitorEnv} {instancePk : Nat}
    {steps : List ClearStep} {start : MonitorState} {w : ClearWatch}
    (hrun : Run (Guarded (ReportsInTime env instancePk)
      (ClearWatch.Step env instancePk)) ⟨start, [], []⟩ steps w) :
    ClearsTruthful w := by
  induction hrun with
  | refl =>
      intro report hmem
      cases hmem
  | snoc _ hstep ih => exact clearsTruthful_step ih hstep.1 hstep.2

/-! ## A clear card that is sent again -/

def refusedCycle (now : Time) (blocking : List LockRow) : CycleInput :=
  { sampleCycle now blocking with deliver := fun _ => false }

def watchClears (steps : List ClearStep) : ClearWatch :=
  steps.foldl (ClearWatch.step sampleEnv 1) ⟨.empty, [], []⟩

theorem retried_clear_forgets_kill :
    let inst := sampleInstance .postgresql
    let steps := [.cycle inst (sampleCycle 0 [samplePair]),
      .kill inst [2] sampleRequester.user, .cycle inst (refusedCycle 1 []),
      .cycle inst (sampleCycle 2 [])]
    Run (ClearWatch.Step sampleEnv 1) ⟨.empty, [], []⟩ steps
        (watchClears steps) ∧
      ¬ ClearsTruthful (watchClears steps) := by
  intro inst steps
  refine ⟨.snoc (.snoc (.snoc (.single rfl) rfl) rfl) rfl, ?_⟩
  have hlast : (watchClears steps).reports.getLast?.map (fun report =>
      (report.card.event, report.card.clearedAlerts,
        (manualKills report.resolved).length)) = some (.cleared, [], 1) := by
    decide
  obtain ⟨report, hreport, hshown⟩ := Option.map_eq_some_iff.mp hlast
  simp only [Prod.mk.injEq] at hshown
  obtain ⟨hevent, hcleared, hkills⟩ := hshown
  intro htruthful
  have htext := htruthful report (List.mem_of_getLast? hreport) hevent
  have hautomatic : messageText report.card = automaticText := by
    simp [messageText, hevent, hcleared, manualKills]
  rw [htext.automatic hautomatic] at hkills
  cases hkills

theorem clear_names_the_killer :
    let inst := sampleInstance .postgresql
    let steps := [.cycle inst (sampleCycle 0 [samplePair]),
      .kill inst [2] sampleRequester.user, .cycle inst (sampleCycle 1 [])]
    ClearsTruthful (watchClears steps) ∧
      (watchClears steps).reports.getLast?.map
          (fun report => messageText report.card) =
        some (manualText "ann" "1 · 2") := by
  intro inst steps
  have hunreported : (watchClears (steps.take 2)).unreported = [] := by decide
  have hshown : ShownInFull 1200 (killUsers (goneAlerts 1 []
        (watchClears (steps.take 2)).state.lockAlerts)) ∧
      ShownInFull 600 (killedPids (goneAlerts 1 []
        (watchClears (steps.take 2)).state.lockAlerts)) := by decide
  have hlast : ReportsInTime sampleEnv 1 (watchClears (steps.take 2))
      (.cycle inst (sampleCycle 1 [])) := by
    intro _ activity blocking hfetch _
    cases hfetch
    rw [hunreported]
    exact ⟨by rw [List.nil_append], by rw [List.nil_append], fun _ => hshown⟩
  have hfirst : ReportsInTime sampleEnv 1 ⟨.empty, [], []⟩
      (.cycle inst (sampleCycle 0 [samplePair])) := by
    intro _ activity blocking _ hsends
    exact absurd rfl hsends.keys
  have hrun : Run (Guarded (ReportsInTime sampleEnv 1)
      (ClearWatch.Step sampleEnv 1)) ⟨.empty, [], []⟩ steps
      (watchClears steps) :=
    .snoc (.snoc (.single ⟨hfirst, rfl⟩) ⟨trivial, rfl⟩) ⟨hlast, rfl⟩
  exact ⟨clears_truthful hrun, by decide⟩

end HealthGrid.Kill
