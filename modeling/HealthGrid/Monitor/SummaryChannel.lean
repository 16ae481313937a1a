import HealthGrid.Foundation.Run
import HealthGrid.Monitor.Notifications

/-!
# What the channel was told

The notification transactions of one instance, one after another, whichever
cycles they belong to.  While the window is open the stored keys are those of
the last card that was delivered, and the stored fingerprint stands for them.
-/

namespace HealthGrid.Monitor

open HealthGrid.Foundation

/-! ## Deliveries -/

def lastDelivered (sent : List Attempt) : Option Card :=
  (sent.filter Prod.snd).getLast?.map Prod.fst

def told (sent : List Attempt) : List String :=
  match lastDelivered sent with
  | some card => alertKeys card.alerts
  | none => []

@[simp] theorem lastDelivered_delivered (sent : List Attempt) (card : Card) :
    lastDelivered (sent ++ [(card, true)]) = some card := by
  simp [lastDelivered]

@[simp] theorem lastDelivered_failed (sent : List Attempt) (card : Card) :
    lastDelivered (sent ++ [(card, false)]) = lastDelivered sent := by
  simp [lastDelivered]

theorem told_delivered (sent : List Attempt) (card : Card) :
    told (sent ++ [(card, true)]) = alertKeys card.alerts := by
  simp [told]

theorem told_failed (sent : List Attempt) (card : Card) :
    told (sent ++ [(card, false)]) = told sent := by
  simp [told]

/-! ## Transactions -/

/-- One transaction.  Open incidents of an instance have distinct keys. -/
structure Transaction where
  config : NotificationSettings
  now : Time
  summary : LockSummary
  deliver : Card → Bool
  eligible_nodup : (summary.eligible.map LockAlert.alertKey).Nodup
  active_nodup : (summary.active.map LockAlert.alertKey).Nodup

structure Channel where
  state : LockNotificationState
  sent : List Attempt

def Channel.fresh : Channel := ⟨.fresh, []⟩

def Transaction.run (sha256 : String → String) (t : Transaction)
    (state : LockNotificationState) : LockNotificationState × Option Attempt :=
  lockSummaryTransaction sha256 t.config t.now t.summary t.deliver state

def Channel.transact (sha256 : String → String) (channel : Channel)
    (t : Transaction) : Channel where
  state := (t.run sha256 channel.state).1
  sent := channel.sent ++ (t.run sha256 channel.state).2.toList

def Channel.Step (sha256 : String → String) (channel : Channel)
    (t : Transaction) (channel' : Channel) : Prop :=
  channel.transact sha256 t = channel'

def Transaction.texts (t : Transaction) : List String :=
  [summaryText t.summary.eligible, summaryText t.summary.active]

def NoCollision (sha256 : String → String) (texts : List String) : Prop :=
  ∀ text ∈ texts, ∀ text' ∈ texts, sha256 text = sha256 text' → text = text'

/-! ## The stored state stands for what was told -/

/-- The stored keys were told, and the fingerprint is theirs or blank. -/
structure StandsFor (sha256 : String → String) (texts : List String)
    (state : LockNotificationState) (sent : List Attempt) : Prop where
  keys : state.lastActiveKeys = told sent
  fingerprint : ∃ alerts : List LockAlert,
    (alerts.map LockAlert.alertKey).Nodup ∧
    state.lastActiveKeys = alertKeys alerts ∧
    ((state.lastFingerprint = "" ∧ alerts = []) ∨
      (state.lastFingerprint = summaryFingerprint sha256 alerts ∧
        summaryText alerts ∈ texts))

section Steps

variable {sha256 : String → String} {texts : List String}
  {state : LockNotificationState} {sent : List Attempt}

theorem StandsFor.sorted_keys (h : StandsFor sha256 texts state sent) :
    PyText.sorted state.lastActiveKeys = told sent := by
  obtain ⟨alerts, -, hkeys, -⟩ := h.fingerprint
  rw [← h.keys, hkeys, alertKeys, PyText.sorted_sorted]

theorem StandsFor.mono {texts' : List String}
    (h : StandsFor sha256 texts state sent) (hsub : texts ⊆ texts') :
    StandsFor sha256 texts' state sent := by
  obtain ⟨alerts, hnodup, hkeys, hfingerprint⟩ := h.fingerprint
  refine ⟨h.keys, alerts, hnodup, hkeys, ?_⟩
  rcases hfingerprint with hblank | ⟨heq, hmem⟩
  · exact .inl hblank
  · exact .inr ⟨heq, hsub hmem⟩

theorem standsFor_ordinary {now : Time} {summary : LockSummary}
    {deliver : Card → Bool} (h : StandsFor sha256 texts state sent)
    (hnodup : (summary.eligible.map LockAlert.alertKey).Nodup)
    (htext : summaryText summary.eligible ∈ texts) :
    StandsFor sha256 texts
      (sendOrdinarySummary sha256 now summary deliver state).1
      (sent ++ (sendOrdinarySummary sha256 now summary deliver
        state).2.toList) := by
  unfold sendOrdinarySummary
  dsimp only
  split
  · simpa using h
  · split
    · rename_i hempty
      have hnil : summary.eligible = [] := alertKeys_eq_nil.mp hempty.2
      refine ⟨?_, summary.eligible, hnodup, ?_, .inr ⟨rfl, htext⟩⟩
      · have htold := hempty.1
        rw [h.sorted_keys] at htold
        simpa using htold.symm
      · exact hempty.2.symm
    · split
      · refine ⟨?_, summary.eligible, hnodup, rfl, .inr ⟨rfl, htext⟩⟩
        exact (told_delivered sent (ordinaryCard now summary state)).symm
      · refine ⟨?_, h.fingerprint⟩
        exact h.keys.trans (told_failed sent _).symm

theorem standsFor_storm {now : Time} {summary : LockSummary}
    {deliver : Card → Bool} (h : StandsFor sha256 texts state sent)
    (hnodup : (summary.active.map LockAlert.alertKey).Nodup)
    (htext : summaryText summary.active ∈ texts) :
    StandsFor sha256 texts
      (sendStormSummary sha256 now summary deliver state).1
      (sent ++ (sendStormSummary sha256 now summary deliver
        state).2.toList) := by
  unfold sendStormSummary
  dsimp only
  split
  · refine ⟨?_, summary.active, hnodup, rfl, .inr ⟨rfl, htext⟩⟩
    exact (told_delivered sent (stormCard now summary state)).symm
  · exact ⟨h.keys.trans (told_failed sent _).symm, h.fingerprint⟩

end Steps

theorem lockNotificationsOpen_of_disabled {config : NotificationSettings}
    {now : Time} (h : config.notificationScheduleEnabled = false) :
    lockNotificationsOpen config now = true := by
  simp [lockNotificationsOpen, h]

theorem standsFor_transact {sha256 : String → String} {texts : List String}
    {channel : Channel} {t : Transaction}
    (h : StandsFor sha256 texts channel.state channel.sent)
    (hopen : t.config.notificationScheduleEnabled = false)
    (htexts : t.texts ⊆ texts) :
    StandsFor sha256 texts (channel.transact sha256 t).state
      (channel.transact sha256 t).sent := by
  have heligible : summaryText t.summary.eligible ∈ texts :=
    htexts (by simp [Transaction.texts])
  have hactive : summaryText t.summary.active ∈ texts :=
    htexts (by simp [Transaction.texts])
  have hreset : StandsFor sha256 texts
      { channel.state with stormActive := false } channel.sent :=
    ⟨h.keys, h.fingerprint⟩
  unfold Channel.transact Transaction.run
  rcases lockSummaryTransaction_cases sha256 t.config t.now t.summary t.deliver
    channel.state with ⟨hclosed, -⟩ | ⟨-, -, -, hrun⟩ | ⟨-, -, -, -, hrun⟩ |
      ⟨-, -, hrun⟩
  · rw [lockNotificationsOpen_of_disabled hopen] at hclosed
    cases hclosed
  · rw [hrun]
    simpa using h
  · rw [hrun]
    exact standsFor_storm h t.active_nodup hactive
  · rw [hrun]
    exact standsFor_ordinary hreset t.eligible_nodup heligible

theorem standsFor_run {sha256 : String → String}
    {transactions : List Transaction} {channel : Channel}
    (hrun : Run (Channel.Step sha256) .fresh transactions channel)
    (hopen : ∀ t ∈ transactions, t.config.notificationScheduleEnabled = false) :
    StandsFor sha256 (transactions.flatMap Transaction.texts) channel.state
      channel.sent := by
  induction hrun with
  | refl => exact ⟨rfl, [], by simp, rfl, .inl ⟨rfl, rfl⟩⟩
  | snoc _ hstep ih =>
      subst hstep
      have hlast := hopen _ (List.mem_append_right _ (List.mem_singleton_self _))
      refine standsFor_transact ((ih ?_).mono ?_) hlast ?_
      · intro t hmem
        exact hopen t (List.mem_append_left _ hmem)
      · simp
      · simp

/-! ## Which cards are attempted -/

def NotStorming (state : LockNotificationState) (t : Transaction) : Prop :=
  t.summary.active = [] ∨
    (state.stormActive = false ∧
      (t.config.lockStormThreshold = 0 ∨
        t.summary.active.length < t.config.lockStormThreshold))

structure Card.Describes (card : Card) (before : List String)
    (eligible : List LockAlert) : Prop where
  alerts : card.alerts = eligible
  cleared : card.clearedKeys = keyDifference before (alertKeys eligible)
  event : card.event =
    if before = [] then .initial
    else if eligible = [] then .cleared
    else .update

section Attempts

variable {sha256 : String → String} {now : Time} {summary : LockSummary}
  {deliver : Card → Bool} {state : LockNotificationState}

theorem ordinary_attempt {attempt : Attempt}
    (h : (sendOrdinarySummary sha256 now summary deliver state).2 =
      some attempt) :
    attempt.1 = ordinaryCard now summary state ∧
      ¬ (PyText.sorted state.lastActiveKeys = [] ∧
        alertKeys summary.eligible = []) := by
  unfold sendOrdinarySummary at h
  dsimp only at h
  split at h
  · cases h
  · split at h
    · cases h
    · rename_i hkeys
      split at h <;> cases h <;> exact ⟨rfl, hkeys⟩

theorem ordinary_attempt_iff (sha256 : String → String) (now : Time)
    (summary : LockSummary) (deliver : Card → Bool)
    (state : LockNotificationState) :
    (∃ attempt, (sendOrdinarySummary sha256 now summary deliver state).2 =
      some attempt) ↔
      summaryFingerprint sha256 summary.eligible ≠ state.lastFingerprint ∧
        ¬ (PyText.sorted state.lastActiveKeys = [] ∧
          alertKeys summary.eligible = []) := by
  unfold sendOrdinarySummary
  dsimp only
  split
  · rename_i heq
    simp [heq]
  · rename_i hne
    split
    · rename_i hkeys
      simp [hkeys]
    · rename_i hkeys
      split <;> exact iff_of_true ⟨_, rfl⟩ ⟨hne, hkeys⟩

theorem ordinaryCard_describes
    (hkeys : ¬ (PyText.sorted state.lastActiveKeys = [] ∧
      alertKeys summary.eligible = [])) :
    (ordinaryCard now summary state).Describes
      (PyText.sorted state.lastActiveKeys) summary.eligible := by
  refine ⟨rfl, rfl, ?_⟩
  have hnil : alertKeys summary.eligible = [] ↔ summary.eligible = [] :=
    alertKeys_eq_nil
  simp only [ordinaryCard]
  by_cases hprevious : PyText.sorted state.lastActiveKeys = []
  · have hcurrent : alertKeys summary.eligible ≠ [] :=
      fun h => hkeys ⟨hprevious, h⟩
    rw [if_pos ⟨hprevious, hcurrent⟩, if_pos hprevious]
  · rw [if_neg (fun h => hprevious h.1), if_neg hprevious]
    by_cases hcurrent : summary.eligible = []
    · rw [if_pos ⟨hprevious, hnil.mpr hcurrent⟩, if_pos hcurrent]
    · rw [if_neg (fun h => hcurrent (hnil.mp h.2)), if_neg hcurrent]

theorem ordinaryCard_event : (ordinaryCard now summary state).event ≠ .storm := by
  simp only [ordinaryCard]
  split
  · simp
  · split <;> simp

theorem storm_attempt {attempt : Attempt}
    (h : (sendStormSummary sha256 now summary deliver state).2 =
      some attempt) : attempt.1.event = .storm := by
  unfold sendStormSummary at h
  dsimp only at h
  split at h <;> cases h <;> rfl

end Attempts

theorem fingerprint_eq_iff {sha256 : String → String} {texts : List String}
    {state : LockNotificationState} {sent : List Attempt}
    {eligible : List LockAlert} (h : StandsFor sha256 texts state sent)
    (hdigest : ∀ text, sha256 text ≠ "")
    (hcollision : NoCollision sha256 texts)
    (htext : summaryText eligible ∈ texts)
    (hne : ¬ (told sent = [] ∧ alertKeys eligible = [])) :
    summaryFingerprint sha256 eligible = state.lastFingerprint ↔
      told sent = alertKeys eligible := by
  obtain ⟨alerts, -, hkeys, hfingerprint⟩ := h.fingerprint
  rw [h.keys] at hkeys
  rcases hfingerprint with ⟨hblank, rfl⟩ | ⟨hstored, hmem⟩
  · have htold : told sent = [] := hkeys
    rw [hblank]
    constructor
    · exact fun heq => absurd heq (hdigest _)
    · exact fun heq => absurd ⟨htold, heq.symm.trans htold⟩ hne
  · rw [hstored, hkeys]
    constructor
    · intro heq
      exact (summaryText_inj (hcollision _ htext _ hmem heq)).symm
    · intro heq
      unfold summaryFingerprint summaryText
      rw [heq]

theorem run_of_notStorming {sha256 : String → String} {t : Transaction}
    {state : LockNotificationState}
    (hopen : t.config.notificationScheduleEnabled = false)
    (h : NotStorming state t) :
    t.run sha256 state = sendOrdinarySummary sha256 t.now t.summary t.deliver
      { state with stormActive := false } := by
  rcases lockSummaryTransaction_cases sha256 t.config t.now t.summary t.deliver
    state with ⟨hclosed, -⟩ | ⟨-, hactive, hstate, -⟩ |
      ⟨-, hactive, -, hstorm, -⟩ | ⟨-, -, hrun⟩
  · rw [lockNotificationsOpen_of_disabled hopen] at hclosed
    cases hclosed
  · rcases h with hnone | ⟨hquiet, -⟩
    · exact absurd hnone hactive
    · rw [hstate] at hquiet
      cases hquiet
  · rcases h with hnone | ⟨-, hthreshold⟩
    · exact absurd hnone hactive
    · have hzero := hstorm.1
      have hmany := hstorm.2
      omega
  · exact hrun

theorem ordinary_of_run {sha256 : String → String} {t : Transaction}
    {state : LockNotificationState} {attempt : Attempt}
    (h : (t.run sha256 state).2 = some attempt)
    (hordinary : attempt.1.event ≠ .storm) :
    attempt.1.Describes (PyText.sorted state.lastActiveKeys)
      t.summary.eligible := by
  unfold Transaction.run at h
  rcases lockSummaryTransaction_cases sha256 t.config t.now t.summary t.deliver
    state with ⟨-, hrun⟩ | ⟨-, -, -, hrun⟩ | ⟨-, -, -, -, hrun⟩ |
      ⟨-, -, hrun⟩
  · rw [hrun] at h
    cases h
  · rw [hrun] at h
    cases h
  · rw [hrun] at h
    exact absurd (storm_attempt h) hordinary
  · rw [hrun] at h
    obtain ⟨hcard, hkeys⟩ := ordinary_attempt h
    rw [hcard]
    exact ordinaryCard_describes hkeys

theorem ordinary_run_iff {sha256 : String → String} {t : Transaction}
    {state : LockNotificationState}
    (hopen : t.config.notificationScheduleEnabled = false)
    (h : NotStorming state t) :
    (∃ attempt, (t.run sha256 state).2 = some attempt ∧
        attempt.1.event ≠ .storm) ↔
      summaryFingerprint sha256 t.summary.eligible ≠ state.lastFingerprint ∧
        ¬ (PyText.sorted state.lastActiveKeys = [] ∧
          alertKeys t.summary.eligible = []) := by
  rw [run_of_notStorming hopen h]
  have hiff := ordinary_attempt_iff sha256 t.now t.summary t.deliver
    { state with stormActive := false }
  rw [← hiff]
  constructor
  · rintro ⟨attempt, hattempt, -⟩
    exact ⟨attempt, hattempt⟩
  · rintro ⟨attempt, hattempt⟩
    refine ⟨attempt, hattempt, ?_⟩
    rw [(ordinary_attempt hattempt).1]
    exact ordinaryCard_event

/-! ## The channel over whole runs -/

/--
After any transactions the stored keys are the last delivered ones, and the
next ordinary card describes the change from them and is attempted exactly
when there is one.
-/
theorem summary_channel {sha256 : String → String}
    {transactions : List Transaction} {channel : Channel}
    (hrun : Run (Channel.Step sha256) .fresh transactions channel)
    (hopen : ∀ t ∈ transactions, t.config.notificationScheduleEnabled = false)
    (hdigest : ∀ text, sha256 text ≠ "") :
    channel.state.lastActiveKeys = told channel.sent ∧
    ∀ t : Transaction, t.config.notificationScheduleEnabled = false →
      (∀ attempt, (t.run sha256 channel.state).2 = some attempt →
        attempt.1.event ≠ .storm →
        attempt.1.Describes (told channel.sent) t.summary.eligible) ∧
      (NoCollision sha256 ((transactions ++ [t]).flatMap Transaction.texts) →
        NotStorming channel.state t →
        ((∃ attempt, (t.run sha256 channel.state).2 = some attempt ∧
            attempt.1.event ≠ .storm) ↔
          ¬ ∀ key, key ∈ told channel.sent ↔
            key ∈ alertKeys t.summary.eligible)) := by
  have hstands := standsFor_run hrun hopen
  refine ⟨hstands.keys, ?_⟩
  intro t ht
  constructor
  · intro attempt hattempt hordinary
    rw [← hstands.sorted_keys]
    exact ordinary_of_run hattempt hordinary
  · intro hcollision hquiet
    rw [List.flatMap_append, List.flatMap_singleton] at hcollision
    have hwide := hstands.mono
      (List.subset_append_left (transactions.flatMap Transaction.texts) t.texts)
    have htext : summaryText t.summary.eligible ∈
        transactions.flatMap Transaction.texts ++ t.texts :=
      List.mem_append_right _ (by simp [Transaction.texts])
    obtain ⟨alerts, hnodup, hkeys, -⟩ := hstands.fingerprint
    rw [hstands.keys] at hkeys
    have hset : told channel.sent = alertKeys t.summary.eligible ↔
        ∀ key, key ∈ told channel.sent ↔
          key ∈ alertKeys t.summary.eligible := by
      rw [hkeys]
      exact alertKeys_ext hnodup t.eligible_nodup
    rw [ordinary_run_iff ht hquiet, ← hset]
    rw [hstands.sorted_keys]
    constructor
    · rintro ⟨hfingerprint, hne⟩ heq
      exact hfingerprint
        ((fingerprint_eq_iff hwide hdigest hcollision htext hne).mpr heq)
    · intro hdiffer
      have hne : ¬ (told channel.sent = [] ∧
          alertKeys t.summary.eligible = []) :=
        fun h => hdiffer (h.1.trans h.2.symm)
      exact ⟨fun heq => hdiffer
        ((fingerprint_eq_iff hwide hdigest hcollision htext hne).mp heq), hne⟩

def sampleDigest (text : String) : String :=
  if text = "" then
    "e3b0c44298fc1c149afbf4c8996fb92427ae41e4649b934ca495991b7852b855"
  else if text = "1:2" then
    "673aeeb08cfbb00b91e5e3c60b5ba31896d55b522b1be2dccb0645a59bae8775"
  else "3adf4e63cc74037434c465d9c496622f3ce0032a18a0fa328857858c33933dbb"

theorem sampleDigest_ne (text : String) : sampleDigest text ≠ "" := by
  unfold sampleDigest
  split
  · decide
  · split <;> decide

def sampleTransaction (alerts : List LockAlert)
    (h : (alerts.map LockAlert.alertKey).Nodup) : Transaction where
  config := .defaults
  now := 0
  summary := ⟨alerts, [], alerts⟩
  deliver _ := true
  eligible_nodup := h
  active_nodup := h

theorem summary_channel_cleared :
    let opening := sampleTransaction [sampleAlert 1 2] (by decide)
    let channel := Channel.fresh.transact sampleDigest opening
    channel.state.lastActiveKeys = ["1:2"] ∧
      ∃ attempt, ((sampleTransaction [] (by decide)).run sampleDigest
        channel.state).2 = some attempt ∧ attempt.1.event ≠ .storm := by
  intro opening channel
  have hrun : Run (Channel.Step sampleDigest) .fresh [opening] channel :=
    .single rfl
  obtain ⟨hkeys, hnext⟩ := summary_channel hrun (by
    intro t hmem
    rw [List.mem_singleton.mp hmem]
    rfl) sampleDigest_ne
  have htold : told channel.sent = ["1:2"] := by decide
  refine ⟨hkeys.trans htold, ?_⟩
  refine ((hnext (sampleTransaction [] (by decide)) rfl).2 ?_ (.inl rfl)).mpr ?_
  · unfold NoCollision
    decide
  · rw [htold]
    intro h
    have := (h "1:2").mp (List.mem_singleton_self _)
    exact absurd this (by decide)

end HealthGrid.Monitor
