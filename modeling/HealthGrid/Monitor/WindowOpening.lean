import HealthGrid.Monitor.Cycle
import HealthGrid.Monitor.LongQueryRuns
import HealthGrid.Monitor.QuietHours

/-!
# The first cycle inside the window

Completed cycles under an enabled schedule.  Outside the window a cycle sends
nothing and blanks the fingerprint, so that the first cycle inside compares
its incidents to those of the last cycle outside.
-/

namespace HealthGrid.Monitor

open HealthGrid.Foundation HealthGrid.Db

/-! ## The window on the clock face -/

def day : Int := 24 * hour

structure Scheduled (config : NotificationSettings) : Prop where
  enabled : config.notificationScheduleEnabled = true
  differs : config.notificationStartTime ≠ config.notificationEndTime
  start_mem : 0 ≤ config.notificationStartTime ∧
    config.notificationStartTime < day
  end_mem : 0 ≤ config.notificationEndTime ∧ config.notificationEndTime < day

/-- Forward from the start, around midnight if need be, now is before the end. -/
def InWindow (config : NotificationSettings) (now : Time) : Prop :=
  (localTime now - config.notificationStartTime) % day <
    (config.notificationEndTime - config.notificationStartTime) % day

instance (config : NotificationSettings) (now : Time) :
    Decidable (InWindow config now) :=
  inferInstanceAs (Decidable (_ < _))

theorem localTime_mem (now : Time) : 0 ≤ localTime now ∧ localTime now < day := by
  unfold localTime day hour
  omega

theorem lockNotificationsOpen_iff {config : NotificationSettings} {now : Time}
    (h : Scheduled config) :
    lockNotificationsOpen config now = true ↔ InWindow config now := by
  obtain ⟨hlow, hhigh⟩ := localTime_mem now
  obtain ⟨henabled, hdiffers, ⟨hstart, hstart'⟩, ⟨hend, hend'⟩⟩ := h
  have hopen : lockNotificationsOpen config now = true ↔
      if config.notificationStartTime < config.notificationEndTime then
        config.notificationStartTime ≤ localTime now ∧
          localTime now < config.notificationEndTime
      else config.notificationStartTime ≤ localTime now ∨
        localTime now < config.notificationEndTime := by
    simp only [lockNotificationsOpen, henabled, hdiffers, Bool.not_true,
      Bool.false_eq_true, if_false]
    split <;> simp
  rw [hopen]
  unfold InWindow
  generalize localTime now = time at *
  generalize config.notificationStartTime = start at *
  generalize config.notificationEndTime = finish at *
  unfold day hour at *
  split <;> omega

/-! ## Long-query cards of a cycle -/

def cycleBatches (env : MonitorEnv) (inst : RDSInstance) (s : MonitorState)
    (input : CycleInput) : List (Nat × List LongQueryAlert × Bool) :=
  (cycle env inst s input).longQueries.cards.drop s.longQueries.cards.length

def CycleInput.longQueryCall (input : CycleInput) (activity : List ActivityRow) :
    LongQueryCall :=
  ⟨input.now, input.config, activity, input.deliverLongQueries⟩

/-- Every announced row was in a delivered batch of its instance. -/
def Accounted (s : LongQueryState) : Prop :=
  ∀ row ∈ s.alerts.rows, row.alertedAt ≠ none →
    ∃ batch, (row.instancePk, batch, true) ∈ s.cards ∧
      row.alertKey ∈ batch.map LongQueryAlert.alertKey

section LongQueries

variable {lib : TextLibrary} {app : AppDatabase} {instancePk : Nat}
  {call : LongQueryCall} {s : LongQueryState}

theorem callRecord_cards (lib : TextLibrary) (app : AppDatabase)
    (instancePk : Nat) (s : LongQueryState) (call : LongQueryCall) :
    (callRecord lib app instancePk s call).after.cards = s.cards ++
      (callRecord lib app instancePk s call).batch.toList.map
        (Prod.mk instancePk) := by
  have hend := longQuery_end lib app instancePk call s
  unfold callRecord CallRecord.batch
  dsimp only
  generalize (call.run lib app instancePk s).1 = result at hend
  generalize (call.run lib app instancePk s).2 = after at hend ⊢
  cases hend with
  | raised hstored => simp [hstored.cards]
  | quiet hstored =>
      have hcards : (call.resolve lib instancePk _).cards = s.cards :=
        hstored.continues.cards
      simp [hcards]
  | @notified newAlerts middle hstored _ _ =>
      have hcards : (notifyLongQueries call.now instancePk call.deliver
          newAlerts (call.resolve lib instancePk middle)).cards =
          s.cards ++ [(instancePk, newAlerts, call.deliver newAlerts)] := by
        rw [← hstored.continues.cards]
        unfold notifyLongQueries
        dsimp only
        split <;> rfl
      simp [hcards]

theorem accounted_continues (h : Accounted s) {now : Time} {keys : List String}
    {middle : LongQueryState} (hcontinues : Continues instancePk now keys s middle)
    {row : LongQueryAlert} (hmem : row ∈ middle.alerts.rows)
    (halerted : row.alertedAt ≠ none) :
    ∃ batch, (row.instancePk, batch, true) ∈ s.cards ∧
      row.alertKey ∈ batch.map LongQueryAlert.alertKey := by
  rcases hcontinues.added row hmem with ⟨old, hold, hfate⟩ | hnew
  · have hsame : row.alertedAt = old.alertedAt :=
      congrArg QueryFate.alertedAt hfate
    obtain ⟨batch, hbatch, hkey⟩ := h old hold (by rwa [← hsame])
    rw [show row.instancePk = old.instancePk from
      congrArg QueryFate.instancePk hfate, show row.alertKey = old.alertKey
      from congrArg QueryFate.alertKey hfate]
    exact ⟨batch, hbatch, hkey⟩
  · exact absurd hnew.2.2.2.1 halerted

theorem accounted_delivered {record : CallRecord}
    {newAlerts : List LongQueryAlert} {middle : LongQueryState}
    (h : record.Returned lib instancePk newAlerts middle)
    {row : LongQueryAlert} (hmem : row ∈ middle.alerts.rows)
    (hdelivers : record.delivers row.pk = true) :
    ∃ batch, record.batch = some (batch, true) ∧
      row.instancePk = instancePk ∧
      row.alertKey ∈ batch.map LongQueryAlert.alertKey := by
  obtain ⟨hdelivered, hpk⟩ := (h.delivers_iff _).mp hdelivers
  obtain ⟨alert, halert, hinstance, -, -, hfate⟩ := h.stored.fresh_row hmem hpk
  refine ⟨newAlerts, h.batch_of_delivered hdelivered, ?_, ?_⟩
  · exact (congrArg QueryFate.instancePk hfate).trans hinstance
  · rw [show row.alertKey = alert.alertKey from
      congrArg QueryFate.alertKey hfate]
    exact List.mem_map_of_mem halert

theorem accounted_call (h : Accounted s) :
    Accounted (callRecord lib app instancePk s call).after := by
  have hcards := callRecord_cards lib app instancePk s call
  intro row hmem halerted
  cases hreturned : (callRecord lib app instancePk s call).returned with
  | false =>
      have hraised := callRecord_raised hreturned
      rw [hraised.cards]
      exact accounted_continues h hraised hmem halerted
  | true =>
      obtain ⟨newAlerts, middle, hrecord⟩ := callRecord_returned hreturned
      rw [hrecord.rows] at hmem
      obtain ⟨old, hold, rfl⟩ := List.mem_map.mp hmem
      rw [settle_part LongQueryAlert.instancePk (fun _ => rfl) (fun _ => rfl),
        settle_part LongQueryAlert.alertKey (fun _ => rfl) (fun _ => rfl),
        hcards]
      rw [settle_alertedAt] at halerted
      split at halerted
      · rename_i hdelivers
        obtain ⟨batch, hbatch, hinstance, hkey⟩ :=
          accounted_delivered hrecord hold hdelivers
        refine ⟨batch, ?_, hkey⟩
        rw [hbatch, hinstance]
        simp
      · obtain ⟨batch, hbatch, hkey⟩ :=
          accounted_continues h hrecord.stored.continues hold halerted
        exact ⟨batch, List.mem_append_left _ hbatch, hkey⟩

theorem batch_of_closed (hclosed : call.windowOpen = false) :
    (callRecord lib app instancePk s call).batch = none := by
  cases hreturned : (callRecord lib app instancePk s call).returned with
  | false => exact batch_of_cards (callRecord_raised hreturned).cards
  | true =>
      obtain ⟨newAlerts, middle, hrecord⟩ := callRecord_returned hreturned
      have hcall : (callRecord lib app instancePk s call).call = call := rfl
      rw [hrecord.batch, hcall, hclosed]
      simp

theorem batch_of_open (h : Accounted s)
    (hreturned : (callRecord lib app instancePk s call).returned = true)
    (hopen : call.windowOpen = true) {key : String}
    (hkey : key ∈ (call.candidates lib).keys)
    (hnever : ∀ batch, (instancePk, batch, true) ∈ s.cards →
      key ∉ batch.map LongQueryAlert.alertKey) :
    ∃ batch delivered, (callRecord lib app instancePk s call).batch =
      some (batch, delivered) ∧ key ∈ batch.map LongQueryAlert.alertKey := by
  obtain ⟨newAlerts, middle, hrecord⟩ := callRecord_returned hreturned
  have hmem : key ∈ newAlerts.map LongQueryAlert.alertKey := by
    rw [hrecord.stored.batch, List.mem_filter]
    refine ⟨hkey, ?_⟩
    unfold NotYetAlerted
    rw [Option.all_eq_true]
    intro found hfind
    obtain ⟨hfound, -, hfoundKey⟩ := OpenTable.findOpen?_spec hfind
    cases halerted : found.alertedAt with
    | none => rfl
    | some time =>
        obtain ⟨batch, hbatch, hfoundMem⟩ := h found hfound (by simp [halerted])
        rw [show found.instancePk = instancePk from
          congrArg Prod.fst hfoundKey] at hbatch
        rw [show found.alertKey = key from congrArg Prod.snd hfoundKey]
          at hfoundMem
        exact absurd hfoundMem (hnever batch hbatch)
  have hne : newAlerts ≠ [] := by
    rintro rfl
    cases hmem
  exact ⟨newAlerts, _, hrecord.batch.trans (if_pos ⟨hne, hopen⟩), hmem⟩

end LongQueries

section Cycles

variable {env : MonitorEnv} {inst other : RDSInstance} {input : CycleInput}
  {s : MonitorState}

theorem cycle_other (h : other.pk ≠ inst.pk) :
    (cycle env other s input).notificationState inst.pk =
      s.notificationState inst.pk := by
  have hend := processInstance_end env other input s
  unfold cycle
  generalize (processInstance env other input s).1 = result at hend
  generalize (processInstance env other input s).2 = after at hend ⊢
  cases hend with
  | notFetched => rfl
  | notStored => rfl
  | notTracked => rfl
  | completed => exact Function.update_of_ne h.symm ..

theorem accounted_cycle (h : Accounted s.longQueries) :
    Accounted (cycle env inst s input).longQueries := by
  rcases cycle_longQueries env inst input s with hsame | ⟨activity, hcall⟩
  · rw [hsame]
    exact h
  · have hafter : (callRecord env.lib env.app inst.pk s.longQueries
        (input.longQueryCall activity)).after =
          (cycle env inst s input).longQueries := hcall.symm
    rw [← hafter]
    exact accounted_call h

theorem completed_batches (h : (processInstance env inst input s).1 = .ok ()) :
    ∃ activity blocking, input.fetch inst = .ok (activity, blocking) ∧
      (callRecord env.lib env.app inst.pk s.longQueries
        (input.longQueryCall activity)).returned = true ∧
      cycleBatches env inst s input =
        (callRecord env.lib env.app inst.pk s.longQueries
          (input.longQueryCall activity)).batch.toList.map
            (Prod.mk inst.pk) := by
  have hend := processInstance_end env inst input s
  unfold cycleBatches cycle
  rw [h] at hend
  generalize (processInstance env inst input s).2 = after at hend ⊢
  cases hend with
  | @completed activity blocking table longQueries cleared hfetch _ htrack =>
      refine ⟨activity, blocking, hfetch, ?_, ?_⟩
      · exact congrArg (fun run => run.1.isOk) htrack
      · have hafter : longQueries = (callRecord env.lib env.app inst.pk
            s.longQueries (input.longQueryCall activity)).after :=
          (congrArg Prod.snd htrack).symm
        change longQueries.cards.drop _ = _
        rw [hafter, callRecord_cards, List.drop_left]

theorem completed_closed (h : (processInstance env inst input s).1 = .ok ())
    (hclosed : lockNotificationsOpen input.config input.now = false) :
    cycleCards env inst s input = [] ∧
      ((cycle env inst s input).notificationState inst.pk).lastFingerprint =
        "" ∧
      ((cycle env inst s input).notificationState inst.pk).lastActiveKeys =
        alertKeys (eligibleAlerts inst.pk
          (cycle env inst s input).lockAlerts) := by
  obtain ⟨activity, blocking, cleared, -, -, hresult⟩ := completed_cycle h
  obtain ⟨hstate, hcards⟩ := Prod.mk.inj hresult
  rcases lockSummaryTransaction_cases env.lib.sha256 input.config input.now
    (cycleSummary inst cleared (cycle env inst s input).lockAlerts)
    input.deliver (s.notificationState inst.pk) with ⟨-, hrun⟩ | ⟨hopen, -⟩ |
      ⟨hopen, -⟩ | ⟨hopen, -⟩
  · rw [hrun] at hstate hcards
    refine ⟨List.map_eq_nil_iff.mp hcards, ?_, ?_⟩
    · rw [hstate]
    · rw [hstate]
      rfl
  all_goals
    rw [hclosed] at hopen
    cases hopen

theorem completed_ordinary (h : (processInstance env inst input s).1 = .ok ())
    (hopen : lockNotificationsOpen input.config input.now = true)
    (hstorm : (s.notificationState inst.pk).stormActive = false)
    (hfew : input.config.lockStormThreshold = 0 ∨
      (activeAlerts inst.pk (cycle env inst s input).lockAlerts).length <
        input.config.lockStormThreshold) :
    ∃ cleared, (cycleCards env inst s input).map Prod.snd =
      (sendOrdinarySummary env.lib.sha256 input.now
        (cycleSummary inst cleared (cycle env inst s input).lockAlerts)
        input.deliver { s.notificationState inst.pk with
          stormActive := false }).2.toList := by
  obtain ⟨activity, blocking, cleared, -, -, hresult⟩ := completed_cycle h
  refine ⟨cleared, (Prod.mk.inj hresult).2.trans ?_⟩
  rcases lockSummaryTransaction_cases env.lib.sha256 input.config input.now
    (cycleSummary inst cleared (cycle env inst s input).lockAlerts)
    input.deliver (s.notificationState inst.pk) with ⟨hclosed, -⟩ |
      ⟨-, -, hactive, -⟩ | ⟨-, -, -, hmany, -⟩ | ⟨-, -, hrun⟩
  · rw [hopen] at hclosed
    cases hclosed
  · rw [hstorm] at hactive
    cases hactive
  · have hzero := hmany.1
    have hle := hmany.2
    change _ ≤ (activeAlerts inst.pk
      (cycle env inst s input).lockAlerts).length at hle
    omega
  · rw [hrun]

theorem silent_outside (h : (processInstance env inst input s).1 = .ok ())
    (hclosed : lockNotificationsOpen input.config input.now = false) :
    cycleCards env inst s input = [] ∧ cycleBatches env inst s input = [] := by
  obtain ⟨activity, blocking, -, -, hbatches⟩ := completed_batches h
  have hbatch : (callRecord env.lib env.app inst.pk s.longQueries
      (input.longQueryCall activity)).batch = none := batch_of_closed hclosed
  refine ⟨(completed_closed h hclosed).1, ?_⟩
  rw [hbatches, hbatch]
  rfl

theorem card_after_closed {eligible : List LockAlert}
    (h : (processInstance env inst input s).1 = .ok ())
    (hopen : lockNotificationsOpen input.config input.now = true)
    (hstorm : (s.notificationState inst.pk).stormActive = false)
    (hfew : input.config.lockStormThreshold = 0 ∨
      (activeAlerts inst.pk (cycle env inst s input).lockAlerts).length <
        input.config.lockStormThreshold)
    (hdigest : ∀ text, env.lib.sha256 text ≠ "")
    (hblank : (s.notificationState inst.pk).lastFingerprint = "")
    (hkeys : (s.notificationState inst.pk).lastActiveKeys =
      alertKeys eligible) :
    (cycleCards env inst s input ≠ [] ↔
      eligibleAlerts inst.pk (cycle env inst s input).lockAlerts ≠ [] ∨
        eligible ≠ []) ∧
    ∀ card ∈ cycleCards env inst s input, card.2.1.alerts =
      eligibleAlerts inst.pk (cycle env inst s input).lockAlerts := by
  obtain ⟨cleared, hcards⟩ := completed_ordinary h hopen hstorm hfew
  constructor
  · have hiff := ordinary_attempt_iff env.lib.sha256 input.now
      (cycleSummary inst cleared (cycle env inst s input).lockAlerts)
      input.deliver { s.notificationState inst.pk with stormActive := false }
    have hsome : cycleCards env inst s input ≠ [] ↔
        ∃ attempt, (sendOrdinarySummary env.lib.sha256 input.now
          (cycleSummary inst cleared (cycle env inst s input).lockAlerts)
          input.deliver { s.notificationState inst.pk with
            stormActive := false }).2 = some attempt := by
      rw [← Option.ne_none_iff_exists', ne_eq, ne_eq, not_iff_not,
        ← Option.toList_eq_nil_iff, ← hcards, List.map_eq_nil_iff]
    rw [hsome, hiff]
    dsimp only
    rw [hblank, hkeys]
    have hfresh : summaryFingerprint env.lib.sha256
        (cycleSummary inst cleared
          (cycle env inst s input).lockAlerts).eligible ≠ "" := hdigest _
    rw [iff_true_intro hfresh, true_and, PyText.sorted_eq_nil,
      alertKeys_eq_nil, alertKeys_eq_nil, not_and_or, or_comm]
    rfl
  · intro card hcard
    have hmem := List.mem_map_of_mem (f := Prod.snd) hcard
    rw [hcards, Option.mem_toList] at hmem
    rw [(ordinary_attempt hmem).1]
    rfl

theorem batch_inside (h : (processInstance env inst input s).1 = .ok ())
    (haccounted : Accounted s.longQueries)
    (hopen : lockNotificationsOpen input.config input.now = true)
    {activity : List ActivityRow} {blocking : List LockRow}
    (hfetch : input.fetch inst = .ok (activity, blocking)) {key : String}
    (hkey : key ∈ ((input.longQueryCall activity).candidates env.lib).keys)
    (hnever : ∀ batch, (inst.pk, batch, true) ∈ s.longQueries.cards →
      key ∉ batch.map LongQueryAlert.alertKey) :
    ∃ batch delivered, (inst.pk, batch, delivered) ∈
        cycleBatches env inst s input ∧
      key ∈ batch.map LongQueryAlert.alertKey := by
  obtain ⟨activity', blocking', hfetch', hreturned, hbatches⟩ :=
    completed_batches h
  rw [hfetch] at hfetch'
  cases hfetch'
  obtain ⟨batch, delivered, hbatch, hmem⟩ :=
    batch_of_open haccounted hreturned hopen hkey hnever
  refine ⟨batch, delivered, ?_, hmem⟩
  rw [hbatches, hbatch]
  exact List.mem_singleton_self _

end Cycles

/-! ## Runs under a schedule -/

structure WindowWatch where
  state : MonitorState
  history : List (CycleInput × List LockAlert)

def WindowWatch.Step (env : MonitorEnv) (inst : RDSInstance) (w : WindowWatch)
    (turn : RDSInstance × CycleInput) (w' : WindowWatch) : Prop :=
  let state := cycle env turn.1 w.state turn.2
  Scheduled turn.2.config ∧
    (processInstance env turn.1 turn.2 w.state).1 = .ok () ∧
    w' = ⟨state,
      if turn.1.pk = inst.pk then
        w.history ++ [(turn.2, eligibleAlerts inst.pk state.lockAlerts)]
      else w.history⟩

structure WindowWatch.Inv (inst : RDSInstance) (w : WindowWatch) : Prop where
  scheduled : ∀ entry ∈ w.history, Scheduled entry.1.config
  accounted : Accounted w.state.longQueries
  closed : ∀ last eligible, w.history.getLast? = some (last, eligible) →
    lockNotificationsOpen last.config last.now = false →
      (w.state.notificationState inst.pk).lastFingerprint = "" ∧
        (w.state.notificationState inst.pk).lastActiveKeys = alertKeys eligible

theorem window_step {env : MonitorEnv} {inst : RDSInstance}
    {turn : RDSInstance × CycleInput} {w w' : WindowWatch} (h : w.Inv inst)
    (hstep : w.Step env inst turn w') : w'.Inv inst := by
  obtain ⟨hscheduled, hcompleted, rfl⟩ := hstep
  refine ⟨?_, accounted_cycle h.accounted, ?_⟩
  · intro entry hmem
    dsimp only at hmem
    split at hmem
    · rcases List.mem_append.mp hmem with hold | hlast
      · exact h.scheduled entry hold
      · rw [List.mem_singleton.mp hlast]
        exact hscheduled
    · exact h.scheduled entry hmem
  intro last eligible hlast hclosed
  dsimp only at hlast ⊢
  split at hlast
  · rename_i hpk
    rw [List.getLast?_append, List.getLast?_singleton, Option.some_or,
      Option.some.injEq, Prod.mk.injEq] at hlast
    obtain ⟨rfl, rfl⟩ := hlast
    rw [← hpk]
    exact (completed_closed hcompleted hclosed).2
  · rename_i hpk
    rw [cycle_other hpk]
    exact h.closed last eligible hlast hclosed

theorem window_run {env : MonitorEnv} {inst : RDSInstance}
    {turns : List (RDSInstance × CycleInput)} {start : MonitorState}
    {w : WindowWatch}
    (hrun : Run (WindowWatch.Step env inst) ⟨start, []⟩ turns w)
    (hstart : Accounted start.longQueries) : w.Inv inst := by
  induction hrun with
  | refl =>
      refine ⟨by simp, hstart, ?_⟩
      intro last eligible hlast
      cases hlast
  | snoc _ hstep ih => exact window_step ih hstep

/--
Any run of completed cycles under enabled schedules, and one more cycle of
the instance.  Outside the window it sends nothing; inside, right after a
cycle outside, it sends a card for what is eligible now or was then.
-/
theorem first_cards_inside_window {env : MonitorEnv} {inst : RDSInstance}
    {turns : List (RDSInstance × CycleInput)} {start : MonitorState}
    {w : WindowWatch} {input : CycleInput}
    (hrun : Run (WindowWatch.Step env inst) ⟨start, []⟩ turns w)
    (hstart : Accounted start.longQueries)
    (hdigest : ∀ text, env.lib.sha256 text ≠ "")
    (hschedule : Scheduled input.config)
    (hcompleted : (processInstance env inst input w.state).1 = .ok ()) :
    (¬ InWindow input.config input.now →
      cycleCards env inst w.state input = [] ∧
        cycleBatches env inst w.state input = []) ∧
    ∀ last eligible, w.history.getLast? = some (last, eligible) →
      ¬ InWindow last.config last.now → InWindow input.config input.now →
      (w.state.notificationState inst.pk).stormActive = false →
      (input.config.lockStormThreshold = 0 ∨
        (activeAlerts inst.pk (cycle env inst w.state input).lockAlerts).length
          < input.config.lockStormThreshold) →
      (cycleCards env inst w.state input ≠ [] ↔
        eligibleAlerts inst.pk (cycle env inst w.state input).lockAlerts ≠ [] ∨
          eligible ≠ []) ∧
      (∀ card ∈ cycleCards env inst w.state input,
        card.2.1.alerts =
          eligibleAlerts inst.pk (cycle env inst w.state input).lockAlerts) ∧
      ∀ activity blocking, input.fetch inst = .ok (activity, blocking) →
        ∀ key ∈ ((input.longQueryCall activity).candidates env.lib).keys,
          (∀ batch, (inst.pk, batch, true) ∈ w.state.longQueries.cards →
            key ∉ batch.map LongQueryAlert.alertKey) →
          ∃ batch delivered, (inst.pk, batch, delivered) ∈
              cycleBatches env inst w.state input ∧
            key ∈ batch.map LongQueryAlert.alertKey := by
  have hinv := window_run hrun hstart
  constructor
  · intro houtside
    apply silent_outside hcompleted
    rwa [← lockNotificationsOpen_iff hschedule, Bool.not_eq_true] at houtside
  · intro last eligible hlast houtside hinside hstorm hfew
    have hopen := (lockNotificationsOpen_iff hschedule).mpr hinside
    have hlastClosed : lockNotificationsOpen last.config last.now = false := by
      rwa [← lockNotificationsOpen_iff
        (hinv.scheduled _ (List.mem_of_getLast? hlast)), Bool.not_eq_true]
        at houtside
    obtain ⟨hblank, hkeys⟩ := hinv.closed last eligible hlast hlastClosed
    obtain ⟨hsent, halerts⟩ := card_after_closed hcompleted hopen hstorm hfew
      hdigest hblank hkeys
    refine ⟨hsent, halerts, ?_⟩
    intro activity blocking hfetch key hkey hnever
    exact batch_inside hcompleted hinv.accounted hopen hfetch hkey hnever

theorem scheduled_defaults (stormThreshold : Nat) (now : Time)
    (blocking : List LockRow) :
    Scheduled (scheduledCycle stormThreshold now blocking).config where
  enabled := rfl
  differs := (by decide : 9 * hour ≠ 21 * hour)
  start_mem := (by decide : 0 ≤ 9 * hour ∧ 9 * hour < day)
  end_mem := (by decide : 0 ≤ 21 * hour ∧ 21 * hour < day)

theorem morning_card_after_night :
    let inst := sampleInstance .postgresql
    let night := scheduledCycle 0 (18 * hour) [samplePair]
    let morning := scheduledCycle 0 (30 * hour) []
    let state := cycle sampleEnv inst .empty night
    cycleCards sampleEnv inst state morning ≠ [] := by
  intro inst night morning state
  have hrun : Run (WindowWatch.Step sampleEnv inst) ⟨.empty, []⟩
      [(inst, night)] ⟨state, [(night, eligibleAlerts 1 state.lockAlerts)]⟩ :=
    .single ⟨scheduled_defaults .., rfl, rfl⟩
  have hcards := (first_cards_inside_window hrun (by intro row hmem; cases hmem)
    sampleDigest_ne (scheduled_defaults 0 (30 * hour) []) rfl).2 night _ rfl
    (by decide) (by decide) rfl (.inl rfl)
  exact hcards.1.mpr (.inr (by decide))

end HealthGrid.Monitor
