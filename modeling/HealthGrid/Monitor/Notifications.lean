import HealthGrid.Monitor.LockAlerts

/-!
# Lock summary cards

The notification transaction of a cycle compares the incidents it works with
to what the notification state stored last, and attempts at most one card.
`sha256` is the hexadecimal digest of the UTF-8 bytes of a text.
-/

namespace HealthGrid.Monitor

open HealthGrid.Foundation

/-! ## The notification window -/

def localTime (now : Time) : Int := (now + 5 * hour + hour / 2) % (24 * hour)

def lockNotificationsOpen (config : NotificationSettings) (now : Time) :
    Bool :=
  if !config.notificationScheduleEnabled then true
  else
    let start := config.notificationStartTime
    let finish := config.notificationEndTime
    if start = finish then true
    else if start < finish then
      decide (start ≤ localTime now ∧ localTime now < finish)
    else decide (localTime now ≥ start ∨ localTime now < finish)

/-! ## Keys and fingerprints -/

def alertKeys (alerts : List LockAlert) : List String :=
  PyText.sorted (alerts.map LockAlert.alertKey)

def summaryText (alerts : List LockAlert) : String :=
  PyText.nul.intercalate (alertKeys alerts)

def summaryFingerprint (sha256 : String → String) (alerts : List LockAlert) :
    String :=
  sha256 (summaryText alerts)

/-- `sorted(set(keys) - set(removed))`. -/
def keyDifference (keys removed : List String) : List String :=
  PyText.sorted (keys.dedup.filter (· ∉ removed))

/-! ## Cards -/

inductive CardEvent where
  | initial
  | update
  | cleared
  | storm
  deriving DecidableEq, Repr

structure Card where
  alerts : List LockAlert
  event : CardEvent
  previousActiveKeys : List String
  clearedKeys : List String
  sentAt : Time
  clearedAlerts : List LockAlert
  deriving DecidableEq, Repr

abbrev Attempt := Card × Bool

structure LockSummary where
  eligible : List LockAlert
  cleared : List LockAlert
  active : List LockAlert

variable (sha256 : String → String) (config : NotificationSettings)
  (now : Time) (summary : LockSummary) (deliver : Card → Bool)

def ordinaryCard (state : LockNotificationState) : Card :=
  let previousKeys := PyText.sorted state.lastActiveKeys
  let currentKeys := alertKeys summary.eligible
  { alerts := summary.eligible
    event :=
      if previousKeys = [] ∧ currentKeys ≠ [] then .initial
      else if previousKeys ≠ [] ∧ currentKeys = [] then .cleared
      else .update
    previousActiveKeys := previousKeys
    clearedKeys := keyDifference previousKeys currentKeys
    sentAt := now
    clearedAlerts := summary.cleared }

def stormCard (state : LockNotificationState) : Card where
  alerts := summary.active
  event := .storm
  previousActiveKeys := PyText.sorted state.lastActiveKeys
  clearedKeys := []
  sentAt := now
  clearedAlerts := []

def sendOrdinarySummary (state : LockNotificationState) :
    LockNotificationState × Option Attempt :=
  let currentFingerprint := summaryFingerprint sha256 summary.eligible
  if currentFingerprint = state.lastFingerprint then (state, none)
  else if PyText.sorted state.lastActiveKeys = [] ∧
      alertKeys summary.eligible = [] then
    ({ state with lastFingerprint := currentFingerprint, lastActiveKeys := [] },
      none)
  else
    let card := ordinaryCard now summary state
    if deliver card then
      ({ state with
          lastFingerprint := currentFingerprint
          lastActiveKeys := alertKeys summary.eligible
          lastSentAt := some now },
        some (card, true))
    else (state, some (card, false))

def sendStormSummary (state : LockNotificationState) :
    LockNotificationState × Option Attempt :=
  let card := stormCard now summary state
  if deliver card then
    ({ lastFingerprint := summaryFingerprint sha256 summary.active
       lastActiveKeys := alertKeys summary.active
       lastSentAt := some now
       stormActive := true },
      some (card, true))
  else (state, some (card, false))

/-- `storm_threshold and len(all_active_alerts) >= storm_threshold`. -/
def IsStorm : Prop :=
  config.lockStormThreshold ≠ 0 ∧
    config.lockStormThreshold ≤ summary.active.length

instance : Decidable (IsStorm config summary) :=
  inferInstanceAs (Decidable (_ ∧ _))

/-- The notification transaction of `process_instance`. -/
def lockSummaryTransaction (state : LockNotificationState) :
    LockNotificationState × Option Attempt :=
  if !lockNotificationsOpen config now then
    ({ state with
        lastFingerprint := ""
        lastActiveKeys := alertKeys summary.eligible },
      none)
  else if summary.active = [] then
    sendOrdinarySummary sha256 now summary deliver
      { state with stormActive := false }
  else if IsStorm config summary then
    if state.stormActive then (state, none)
    else sendStormSummary sha256 now summary deliver state
  else if state.stormActive then (state, none)
  else sendOrdinarySummary sha256 now summary deliver state

theorem lockSummaryTransaction_empty {state : LockNotificationState}
    (h : lockNotificationsOpen config now = true)
    (hactive : summary.active = []) :
    lockSummaryTransaction sha256 config now summary deliver state =
      sendOrdinarySummary sha256 now summary deliver
        { state with stormActive := false } := by
  unfold lockSummaryTransaction
  rw [h, Bool.not_true, if_neg Bool.false_ne_true, if_pos hactive]

theorem lockSummaryTransaction_cases (state : LockNotificationState) :
    (lockNotificationsOpen config now = false ∧
      lockSummaryTransaction sha256 config now summary deliver state =
        ({ state with
            lastFingerprint := ""
            lastActiveKeys := alertKeys summary.eligible }, none)) ∨
    (lockNotificationsOpen config now = true ∧ summary.active ≠ [] ∧
      state.stormActive = true ∧
      lockSummaryTransaction sha256 config now summary deliver state =
        (state, none)) ∨
    (lockNotificationsOpen config now = true ∧ summary.active ≠ [] ∧
      state.stormActive = false ∧ IsStorm config summary ∧
      lockSummaryTransaction sha256 config now summary deliver state =
        sendStormSummary sha256 now summary deliver state) ∨
    (lockNotificationsOpen config now = true ∧
      (summary.active = [] ∨
        state.stormActive = false ∧ ¬ IsStorm config summary) ∧
      lockSummaryTransaction sha256 config now summary deliver state =
        sendOrdinarySummary sha256 now summary deliver
          { state with stormActive := false }) := by
  cases hopen : lockNotificationsOpen config now with
  | false =>
      refine .inl ⟨rfl, ?_⟩
      unfold lockSummaryTransaction
      rw [hopen, Bool.not_false, if_pos rfl]
  | true =>
      by_cases hactive : summary.active = []
      · exact .inr (.inr (.inr ⟨rfl, .inl hactive,
          lockSummaryTransaction_empty sha256 config now summary deliver hopen
            hactive⟩))
      · unfold lockSummaryTransaction
        rw [hopen, Bool.not_true, if_neg Bool.false_ne_true, if_neg hactive]
        cases hstate : state.stormActive with
        | true =>
            refine .inr (.inl ⟨rfl, hactive, rfl, ?_⟩)
            split <;> rfl
        | false =>
            have hsame : { state with stormActive := false } = state := by
              rw [← hstate]
            by_cases hstorm : IsStorm config summary
            · refine .inr (.inr (.inl ⟨rfl, hactive, rfl, hstorm, ?_⟩))
              rw [if_pos hstorm, if_neg Bool.false_ne_true]
            · refine .inr (.inr (.inr ⟨rfl, .inr ⟨rfl, hstorm⟩, ?_⟩))
              rw [if_neg hstorm, if_neg Bool.false_ne_true, hsame]

/-! ## Lemmas on keys -/

theorem alertKey_chars {alert : LockAlert} :
    alert.alertKey ≠ "" ∧ Char.ofNat 0 ∉ alert.alertKey.toList := by
  have hchars : alert.alertKey.toList =
      (toString alert.blockedPid).toList ++
        ':' :: (toString alert.blockingPid).toList := by
    rw [LockAlert.alertKey, pairKey, String.toList_append,
      String.toList_append, List.append_assoc]
    rfl
  constructor
  · intro h
    rw [h] at hchars
    simp at hchars
  · rw [hchars]
    have hpid := PyText.not_mem_toString_int (c := Char.ofNat 0) (by decide)
      (by decide)
    simp only [List.mem_append, List.mem_cons, not_or]
    exact ⟨hpid _, by decide, hpid _⟩

theorem mem_alertKeys {key : String} {alerts : List LockAlert} :
    key ∈ alertKeys alerts ↔ ∃ alert ∈ alerts, alert.alertKey = key := by
  rw [alertKeys, PyText.mem_sorted, List.mem_map]

@[simp] theorem alertKeys_eq_nil {alerts : List LockAlert} :
    alertKeys alerts = [] ↔ alerts = [] := by
  simp [alertKeys]

theorem summaryText_inj {alerts alerts' : List LockAlert}
    (h : summaryText alerts = summaryText alerts') :
    alertKeys alerts = alertKeys alerts' := by
  have hkeys : ∀ alerts : List LockAlert, ∀ key ∈ alertKeys alerts,
      key ≠ "" ∧ Char.ofNat 0 ∉ key.toList := by
    intro alerts key hkey
    obtain ⟨alert, -, rfl⟩ := mem_alertKeys.mp hkey
    exact alertKey_chars
  exact PyText.intercalate_inj (fun key hkey => (hkeys _ key hkey).1)
    (fun key hkey => (hkeys _ key hkey).1)
    (fun key hkey => (hkeys _ key hkey).2)
    (fun key hkey => (hkeys _ key hkey).2) h

theorem alertKeys_ext {alerts alerts' : List LockAlert}
    (h : (alerts.map LockAlert.alertKey).Nodup)
    (h' : (alerts'.map LockAlert.alertKey).Nodup) :
    alertKeys alerts = alertKeys alerts' ↔
      ∀ key, key ∈ alertKeys alerts ↔ key ∈ alertKeys alerts' := by
  constructor
  · intro heq key
    rw [heq]
  · intro hmem
    apply PyText.sorted_congr
    rw [List.perm_ext_iff_of_nodup h h']
    simpa only [alertKeys, PyText.mem_sorted] using hmem

end HealthGrid.Monitor
