import HealthGrid.Background.WeeklyReport

/-!
# One report for each recipient and week

Runs of weekly report calls between monitor cycles, cleanups and changes of
the settings and of the registry.
-/

namespace HealthGrid.Background

open HealthGrid.Foundation HealthGrid.Monitor HealthGrid.Db HealthGrid.Registry

structure ReportWorld where
  clock : Time
  state : ReportState
  monitor : MonitorState
  instances : InstanceTable

inductive ReportEvent where
  | settings (managed : ManagedSettings)
  /-- instances are added and edited -/
  | registry (instances : InstanceTable)
  | removal (pk : Nat)
  | cycle (inst : RDSInstance) (input : CycleInput)
  | cleanup (now : Time)
  | report (call : ReportCall)

def ReportWorld.call (w : ReportWorld) (call : ReportCall) :
    Bool × ReportState :=
  maybeSendWeeklyReport w.instances w.monitor.lockAlerts call w.state

def ReportWorld.history (w : ReportWorld) : StoredHistory :=
  ⟨w.monitor, w.state.reports, w.state.config.lastCleanupAt⟩

def ReportWorld.withHistory (w : ReportWorld) (history : StoredHistory) :
    ReportWorld :=
  { w with
    monitor := history.monitor
    state := { w.state with
      reports := history.reports
      config := { w.state.config with
        lastCleanupAt := history.lastCleanupAt } } }

def ReportWorld.remove (w : ReportWorld) (pk : Nat) : ReportWorld :=
  { w with
    instances := w.instances.filter fun record => record.pk != pk
    monitor :=
      { w.monitor with
        lockAlerts := w.monitor.lockAlerts.filter fun alert =>
          alert.instancePk != pk
        longQueries :=
          { w.monitor.longQueries with
            alerts := w.monitor.longQueries.alerts.filter fun alert =>
              alert.instancePk != pk }
        notificationState := fun instancePk =>
          if instancePk = pk then .fresh
          else w.monitor.notificationState instancePk } }

def reportStep (env : MonitorEnv) (w : ReportWorld) :
    ReportEvent → Option ReportWorld
  | .settings managed =>
      some { w with state := { w.state with
        config := w.state.config.withManaged managed } }
  | .registry instances =>
      if w.instances.rows.all fun record =>
          (instances.findPk? record.pk).isSome then
        some { w with instances := instances }
      else none
  | .removal pk => some (w.remove pk)
  | .cycle inst input =>
      if w.clock ≤ input.now then
        some { w with
          clock := input.now
          monitor := cycle env inst w.monitor input }
      else none
  | .cleanup now =>
      if w.clock ≤ now then
        some { w.withHistory (cleanupMonitorHistory now
          (some w.state.config.resolvedAlertRetentionDays) w.history).2 with
            clock := now }
      else none
  | .report call =>
      if w.clock ≤ call.now then
        some { w with clock := call.now, state := (w.call call).2 }
      else none

inductive Stepped (env : MonitorEnv) (w : ReportWorld) :
    ReportEvent → ReportWorld → Prop
  | settings {managed : ManagedSettings} :
      Stepped env w (.settings managed)
        { w with state := { w.state with
          config := w.state.config.withManaged managed } }
  | registry {instances : InstanceTable} :
      (w.instances.rows.all fun record =>
        (instances.findPk? record.pk).isSome) = true →
      Stepped env w (.registry instances) { w with instances := instances }
  | removal {pk : Nat} : Stepped env w (.removal pk) (w.remove pk)
  | cycle {inst : RDSInstance} {input : CycleInput} : w.clock ≤ input.now →
      Stepped env w (.cycle inst input)
        { w with
          clock := input.now
          monitor := cycle env inst w.monitor input }
  | cleanup {now : Time} : w.clock ≤ now →
      Stepped env w (.cleanup now)
        { w.withHistory (cleanupMonitorHistory now
          (some w.state.config.resolvedAlertRetentionDays) w.history).2 with
            clock := now }
  | report {call : ReportCall} : w.clock ≤ call.now →
      Stepped env w (.report call)
        { w with clock := call.now, state := (w.call call).2 }

theorem stepped {env : MonitorEnv} {w w' : ReportWorld} {event : ReportEvent}
    (h : reportStep env w event = some w') : Stepped env w event w' := by
  cases event with
  | settings managed =>
      cases h
      exact .settings
  | registry instances =>
      obtain ⟨hkept, ⟨⟩⟩ := Option.ite_none_right_eq_some.mp h
      exact .registry hkept
  | removal pk =>
      cases h
      exact .removal
  | cycle inst input =>
      obtain ⟨hle, ⟨⟩⟩ := Option.ite_none_right_eq_some.mp h
      exact .cycle hle
  | cleanup now =>
      obtain ⟨hle, ⟨⟩⟩ := Option.ite_none_right_eq_some.mp h
      exact .cleanup hle
  | report call =>
      obtain ⟨hle, ⟨⟩⟩ := Option.ite_none_right_eq_some.mp h
      exact .report hle

structure IsDue (config : SettingsRow) (now : Time) : Prop where
  enabled : config.weeklyReportEnabled = true
  day : weekday (localDay now) = config.weeklyReportDay
  hour : (config.weeklyReportHour : Int) ≤ localHour now
  week : ∀ last, config.lastWeeklyReportAt = some last →
    isoWeek (localDay last) ≠ isoWeek (localDay now)

/-! ## What one call sends -/

/-- At most one POST to each of the recipients, all under the same settings. -/
structure Sends (call : ReportCall) (channelAlerts : List LockAlert)
    (s : ReportState) (recipients : List ReportRecipient)
    (result : Bool × ReportState) : Prop where
  config : result.2.config = s.config
  posts : ∃ new, result.2.posts = s.posts ++ new ∧
    (new.map ReportPost.recipient).Sublist recipients ∧
    (∀ post ∈ new, post.now = call.now ∧
      post.settings = s.config.toManagedSettings ∧
      (post.recipient = .channel → post.alerts = channelAlerts)) ∧
    result.1 = new.any ReportPost.accepted

section Sending

variable {instances : InstanceTable} {table : LockAlertTable}
  {call : ReportCall} {channelAlerts : List LockAlert}
  {s s' s'' : ReportState} {recipients recipients' : List ReportRecipient}

theorem Sends.trans {sent sent' : Bool}
    (first : Sends call channelAlerts s recipients (sent, s'))
    (second : Sends call channelAlerts s' recipients' (sent', s'')) :
    Sends call channelAlerts s (recipients ++ recipients')
      (sent' || sent, s'') := by
  obtain ⟨new, hposts, hrecipients, hnew, hsent⟩ := first.posts
  obtain ⟨new', hposts', hrecipients', hnew', hsent'⟩ := second.posts
  have hconfig : s'.config = s.config := first.config
  refine ⟨second.config.trans hconfig, new ++ new', ?_, ?_, ?_, ?_⟩
  · rw [hposts', show s'.posts = s.posts ++ new from hposts, List.append_assoc]
  · rw [List.map_append]
    exact hrecipients.append hrecipients'
  · intro post hmem
    rcases List.mem_append.mp hmem with hmem | hmem
    · exact hnew post hmem
    · have h := hnew' post hmem
      rw [hconfig] at h
      exact h
  · dsimp only at hsent hsent' ⊢
    rw [List.any_append, hsent, hsent', Bool.or_comm]

theorem Sends.channel_post {sent : Bool} {post : ReportPost}
    (h : Sends call channelAlerts s recipients (sent, s'))
    (hpost : post ∈ s'.posts.drop s.posts.length)
    (hchannel : post.recipient = .channel) : post.alerts = channelAlerts := by
  obtain ⟨new, hposts, -, hnew, -⟩ := h.posts
  change s'.posts = s.posts ++ new at hposts
  rw [hposts, List.drop_left] at hpost
  exact (hnew post hpost).2.2 hchannel

theorem sends_nothing (recipients : List ReportRecipient)
    (hconfig : s'.config = s.config) (hposts : s'.posts = s.posts) :
    Sends call channelAlerts s recipients (false, s') :=
  ⟨hconfig, [], by simp [hposts], by simp, by simp, rfl⟩

theorem sends_to_webhook {recipient : ReportRecipient}
    {webhookUrl scope : String} {alerts : List LockAlert}
    (halerts : recipient = .channel → alerts = channelAlerts) :
    Sends call channelAlerts s [recipient] (sendReportToWebhook instances call
      recipient webhookUrl scope alerts s) := by
  unfold sendReportToWebhook
  split
  · exact sends_nothing _ rfl rfl
  · dsimp only
    split
    · exact sends_nothing _ rfl rfl
    · refine ⟨rfl, [_], rfl, by simp, ?_, by simp⟩
      intro post hmem
      cases List.mem_singleton.mp hmem
      exact ⟨rfl, rfl, halerts⟩

theorem sends_to_channel :
    Sends call (weeklyAlerts (reportNames instances) call.now none table) s
      [.channel] (sendToChannel instances table call s) := by
  unfold sendToChannel
  dsimp only
  split
  · exact sends_to_webhook fun _ => rfl
  · exact sends_nothing _ rfl rfl

theorem sends_to_owners (records : List InstanceRecord)
    {result : Bool × ReportState}
    (h : Sends call channelAlerts s recipients result) :
    Sends call channelAlerts s
      (recipients ++ records.map fun record => .owner record.pk)
      (records.foldl (sendToOwner instances table call) result) := by
  induction records generalizing recipients result with
  | nil => simpa using h
  | cons record records ih =>
      have hone : Sends call channelAlerts s (recipients ++ [.owner record.pk])
          (sendToOwner instances table call result record) :=
        h.trans (sends_to_webhook fun hchannel => nomatch hchannel)
      simpa using ih hone

def reportRecipients (instances : InstanceTable) : List ReportRecipient :=
  .channel :: (reportedInstances instances).map fun record => .owner record.pk

theorem reportRecipients_nodup : (reportRecipients instances).Nodup := by
  have hpks : ((reportedInstances instances).map InstanceRecord.pk).Nodup :=
    ((List.perm_insertionSort _ _).map _).nodup_iff.mpr
      (instances.pk_nodup.sublist (List.filter_sublist.map _))
  refine List.nodup_cons.mpr ⟨by simp, ?_⟩
  have howners := hpks.map (f := ReportRecipient.owner)
    fun _ _ heq => ReportRecipient.owner.inj heq
  rw [List.map_map] at howners
  exact howners

theorem sends_weekly_reports :
    Sends call (weeklyAlerts (reportNames instances) call.now none table) s
      (reportRecipients instances)
      (sendWeeklyReports instances table call s) := by
  let kept := { s with
    reports := s.reports.filter fun report =>
      !decide (report.expiresAt < call.now) }
  have hchannel : Sends call (weeklyAlerts (reportNames instances) call.now none
      table) kept [.channel] (sendToChannel instances table call kept) :=
    sends_to_channel
  have hall : Sends call (weeklyAlerts (reportNames instances) call.now none
      table) kept (reportRecipients instances)
      (sendWeeklyReports instances table call s) :=
    sends_to_owners (reportedInstances instances) hchannel
  exact ⟨hall.config, hall.posts⟩

end Sending

/-! ## Every way a call ends -/

inductive ReportEnd (instances : InstanceTable) (table : LockAlertTable)
    (call : ReportCall) (s : ReportState) : Bool × ReportState → Prop
  | notDue : ¬ IsDue s.config call.now →
      ReportEnd instances table call s (false, s)
  | undelivered {after : ReportState} : IsDue s.config call.now →
      Sends call (weeklyAlerts (reportNames instances) call.now none table) s
        (reportRecipients instances) (false, after) →
      ReportEnd instances table call s (false, after)
  | delivered {after : ReportState} : IsDue s.config call.now →
      Sends call (weeklyAlerts (reportNames instances) call.now none table) s
        (reportRecipients instances) (true, after) →
      ReportEnd instances table call s (true, { after with
        config := { after.config with lastWeeklyReportAt := some call.now } })

section Ends

variable {env : MonitorEnv} {instances : InstanceTable} {table : LockAlertTable}
  {call : ReportCall} {s : ReportState} {w w' w₀ : ReportWorld}
  {events : List ReportEvent}

theorem maybeSendWeeklyReport_end :
    ReportEnd instances table call s
      (maybeSendWeeklyReport instances table call s) := by
  unfold maybeSendWeeklyReport
  split
  · rename_i hdisabled
    exact .notDue fun hdue => by simp [hdue.enabled] at hdisabled
  · rename_i henabled
    split
    · rename_i hearly
      refine .notDue fun hdue => ?_
      have := hdue.hour
      simp [hdue.day] at hearly
      omega
    · rename_i hontime
      dsimp only
      split
      · rename_i hsent
        refine .notDue fun hdue => ?_
        obtain ⟨last, hlast, hweek⟩ := (Option.any_eq_true _ _).mp hsent
        exact hdue.week last hlast (by simpa using hweek)
      · rename_i hweek
        have hdue : IsDue s.config call.now := by
          refine ⟨by simpa using henabled, ?_, ?_, ?_⟩
          · by_contra hday
            simp [hday] at hontime
          · by_contra hhour
            simp at hontime
            omega
          · intro last hlast hsame
            simp [hlast, hsame] at hweek
        have hsends : Sends call (weeklyAlerts (reportNames instances) call.now
            none table) s (reportRecipients instances)
            (sendWeeklyReports instances table call s) := sends_weekly_reports
        generalize sendWeeklyReports instances table call s = result at hsends ⊢
        obtain ⟨delivered, after⟩ := result
        cases delivered with
        | false => exact .undelivered hdue hsends
        | true => exact .delivered hdue hsends

def marked (call : ReportCall) (result : Bool × ReportState) :
    Bool × ReportState :=
  if result.1 then
    (true, { result.2 with
      config := { result.2.config with lastWeeklyReportAt := some call.now } })
  else (false, result.2)

theorem maybeSendWeeklyReport_due (h : IsDue s.config call.now) :
    maybeSendWeeklyReport instances table call s =
      marked call (sendWeeklyReports instances table call s) := by
  have hhour := h.hour
  have hunsent : (s.config.lastWeeklyReportAt.any fun last =>
      isoWeek (localDay last) == isoWeek (localDay call.now)) = false := by
    cases hlast : s.config.lastWeeklyReportAt with
    | none => rfl
    | some last => simpa using h.week last hlast
  unfold maybeSendWeeklyReport
  simp only [h.enabled, h.day, hunsent, marked, not_lt.mpr hhour]
  simp

theorem localHour_mono {now later : Int} (hle : now ≤ later)
    (hday : localDay later = localDay now) : localHour now ≤ localHour later := by
  unfold localHour localTime localDay at *
  simp only [hour] at *
  omega

theorem IsDue.later {config : SettingsRow} {now later : Time}
    (h : IsDue config now) (hle : now ≤ later)
    (hday : localDay later = localDay now) : IsDue config later where
  enabled := h.enabled
  day := by rw [hday, h.day]
  hour := le_trans h.hour (localHour_mono hle hday)
  week := by rw [hday]; exact h.week

theorem IsDue.congr {config config' : SettingsRow} {now : Time}
    (h : IsDue config now)
    (hmanaged : config'.toManagedSettings = config.toManagedSettings)
    (hmarker : config'.lastWeeklyReportAt = config.lastWeeklyReportAt) :
    IsDue config' now where
  enabled := by rw [hmanaged, h.enabled]
  day := by rw [hmanaged, h.day]
  hour := by rw [hmanaged]; exact h.hour
  week := by rw [hmarker]; exact h.week

/-! ## Once for each recipient and week -/

def ReportPost.week (post : ReportPost) : Int := weekIndex (localDay post.now)

def acceptedBy (recipient : ReportRecipient) (posts : List ReportPost) :
    List ReportPost :=
  posts.filter fun post => post.recipient == recipient && post.accepted

structure ReportPost.OnSchedule (post : ReportPost) : Prop where
  enabled : post.settings.weeklyReportEnabled = true
  day : weekday (localDay post.now) = post.settings.weeklyReportDay
  hour : (post.settings.weeklyReportHour : Int) ≤ localHour post.now

structure OncePerWeek (w : ReportWorld) : Prop where
  once : ∀ recipient,
    ((acceptedBy recipient w.state.posts).map ReportPost.week).Nodup
  onSchedule : ∀ post ∈ w.state.posts, post.OnSchedule
  marked : ∀ post ∈ w.state.posts, post.accepted = true →
    ∃ last, w.state.config.lastWeeklyReportAt = some last ∧
      post.week ≤ weekIndex (localDay last) ∧ last ≤ w.clock

theorem acceptedBy_append (recipient : ReportRecipient)
    (posts posts' : List ReportPost) : acceptedBy recipient (posts ++ posts') =
      acceptedBy recipient posts ++ acceptedBy recipient posts' := by
  simp [acceptedBy]

theorem mem_acceptedBy {recipient : ReportRecipient} {posts : List ReportPost}
    {post : ReportPost} : post ∈ acceptedBy recipient posts ↔
      post ∈ posts ∧ post.recipient = recipient ∧ post.accepted = true := by
  simp [acceptedBy]

theorem acceptedBy_length_le {recipient : ReportRecipient}
    {posts : List ReportPost} (h : (posts.map ReportPost.recipient).Nodup) :
    (acceptedBy recipient posts).length ≤ 1 := by
  have hcount : posts.countP (fun post => post.recipient == recipient) ≤ 1 := by
    have := List.nodup_iff_count_le_one.mp h recipient
    simpa [List.count, List.countP_map, Function.comp_def] using this
  refine le_trans ?_ hcount
  rw [acceptedBy, ← List.countP_eq_length_filter]
  apply List.countP_mono_left
  intro post _ h
  simp only [Bool.and_eq_true] at h
  exact h.1

theorem localDay_mono {now later : Int} (h : now ≤ later) :
    localDay now ≤ localDay later := by
  unfold localDay
  simp only [hour]
  omega

theorem OncePerWeek.tick {clock : Time} (h : OncePerWeek w)
    (hle : w.clock ≤ clock) (hposts : w'.state.posts = w.state.posts)
    (hmarker : w'.state.config.lastWeeklyReportAt =
      w.state.config.lastWeeklyReportAt) (hclock : w'.clock = clock) :
    OncePerWeek w' := by
  refine ⟨?_, ?_, ?_⟩
  · rw [hposts]
    exact h.once
  · rw [hposts]
    exact h.onSchedule
  · rw [hposts, hmarker, hclock]
    intro post hmem haccepted
    obtain ⟨last, hlast, hweek, hold⟩ := h.marked post hmem haccepted
    exact ⟨last, hlast, hweek, le_trans hold hle⟩

theorem Sends.onSchedule {channelAlerts : List LockAlert}
    {recipients : List ReportRecipient} {result : Bool × ReportState}
    (h : Sends call channelAlerts s recipients result)
    (hdue : IsDue s.config call.now) (hold : ∀ post ∈ s.posts, post.OnSchedule) :
    ∀ post ∈ result.2.posts, post.OnSchedule := by
  obtain ⟨new, hposts, -, hnew, -⟩ := h.posts
  intro post hmem
  rw [hposts, List.mem_append] at hmem
  rcases hmem with hmem | hmem
  · exact hold post hmem
  · obtain ⟨hnow, hsettings, -⟩ := hnew post hmem
    refine ⟨?_, ?_, ?_⟩
    · rw [hsettings]
      exact hdue.enabled
    · rw [hnow, hsettings]
      exact hdue.day
    · rw [hnow, hsettings]
      exact hdue.hour

theorem oncePerWeek_undelivered (h : OncePerWeek w) {after : ReportState}
    (hle : w.clock ≤ call.now) (hdue : IsDue w.state.config call.now)
    {channelAlerts : List LockAlert}
    (hsends : Sends call channelAlerts w.state (reportRecipients w.instances)
      (false, after)) :
    OncePerWeek { w with clock := call.now, state := after } := by
  have hconfig : after.config = w.state.config := hsends.config
  have hschedule := hsends.onSchedule hdue h.onSchedule
  obtain ⟨new, hposts, -, -, hrefused⟩ := hsends.posts
  have hnone : ∀ post ∈ new, post.accepted ≠ true := by
    intro post hmem haccepted
    have hany : new.any ReportPost.accepted = true :=
      List.any_eq_true.mpr ⟨post, hmem, haccepted⟩
    rw [← hrefused] at hany
    cases hany
  change after.posts = w.state.posts ++ new at hposts
  refine ⟨?_, hschedule, ?_⟩
  · intro recipient
    have hempty : acceptedBy recipient new = [] := by
      simp only [acceptedBy, List.filter_eq_nil_iff]
      intro post hmem
      simp [hnone post hmem]
    simp only [hposts, acceptedBy_append, hempty, List.append_nil]
    exact h.once recipient
  · intro post hmem haccepted
    simp only [hposts, List.mem_append] at hmem
    rcases hmem with hmem | hmem
    · obtain ⟨last, hlast, hweek, hold⟩ := h.marked post hmem haccepted
      exact ⟨last, by simp [hconfig, hlast], hweek, le_trans hold hle⟩
    · exact absurd haccepted (hnone post hmem)

theorem OncePerWeek.before (h : OncePerWeek w) (hle : w.clock ≤ call.now)
    (hdue : IsDue w.state.config call.now) {post : ReportPost}
    (hmem : post ∈ w.state.posts) (haccepted : post.accepted = true) :
    post.week < weekIndex (localDay call.now) := by
  obtain ⟨last, hlast, hweek, hold⟩ := h.marked post hmem haccepted
  have hmono := weekIndex_mono (localDay_mono (le_trans hold hle))
  have hne : weekIndex (localDay last) ≠ weekIndex (localDay call.now) :=
    fun heq => hdue.week last hlast (isoWeek_eq_iff.mpr heq)
  omega

theorem oncePerWeek_delivered (h : OncePerWeek w) {after : ReportState}
    (hle : w.clock ≤ call.now) (hdue : IsDue w.state.config call.now)
    {channelAlerts : List LockAlert}
    (hsends : Sends call channelAlerts w.state (reportRecipients w.instances)
      (true, after)) :
    OncePerWeek { w with clock := call.now, state := { after with
      config := { after.config with lastWeeklyReportAt := some call.now } } } := by
  have hschedule := hsends.onSchedule hdue h.onSchedule
  obtain ⟨new, hposts, hrecipients, hnew, -⟩ := hsends.posts
  change after.posts = w.state.posts ++ new at hposts
  have hthis : ∀ post ∈ new, post.week = weekIndex (localDay call.now) := by
    intro post hmem
    rw [ReportPost.week, (hnew post hmem).1]
  refine ⟨?_, hschedule, ?_⟩
  · intro recipient
    simp only [hposts, acceptedBy_append, List.map_append]
    refine List.nodup_append.mpr ⟨h.once recipient, ?_, ?_⟩
    · have hone : (acceptedBy recipient new).length ≤ 1 :=
        acceptedBy_length_le (reportRecipients_nodup.sublist hrecipients)
      match hlist : acceptedBy recipient new with
      | [] => simp
      | [post] => simp
      | _ :: _ :: _ => simp [hlist] at hone
    · intro week hold week' hmem heq
      obtain ⟨post, hpost, rfl⟩ := List.mem_map.mp hold
      obtain ⟨post', hpost', rfl⟩ := List.mem_map.mp hmem
      obtain ⟨hposted, -, haccepted⟩ := mem_acceptedBy.mp hpost
      have hbefore := h.before hle hdue hposted haccepted
      have hnow := hthis post' (mem_acceptedBy.mp hpost').1
      omega
  · intro post hmem haccepted
    simp only [hposts, List.mem_append] at hmem
    refine ⟨call.now, rfl, ?_, le_refl _⟩
    rcases hmem with hmem | hmem
    · exact le_of_lt (h.before hle hdue hmem haccepted)
    · exact le_of_eq (hthis post hmem)

theorem oncePerWeek_report (h : OncePerWeek w) (hle : w.clock ≤ call.now) :
    OncePerWeek { w with clock := call.now, state := (w.call call).2 } := by
  have hend : ReportEnd w.instances w.monitor.lockAlerts call w.state
      (w.call call) := maybeSendWeeklyReport_end
  generalize w.call call = result at hend ⊢
  cases hend with
  | notDue => exact h.tick hle rfl rfl rfl
  | undelivered hdue hsends => exact oncePerWeek_undelivered h hle hdue hsends
  | delivered hdue hsends => exact oncePerWeek_delivered h hle hdue hsends

theorem oncePerWeek_step {event : ReportEvent} (h : OncePerWeek w)
    (hstep : reportStep env w event = some w') : OncePerWeek w' := by
  cases stepped hstep with
  | settings => exact h.tick (le_refl _) rfl rfl rfl
  | registry => exact h.tick (le_refl _) rfl rfl rfl
  | removal => exact h.tick (le_refl _) rfl rfl rfl
  | cycle hle => exact h.tick hle rfl rfl rfl
  | cleanup hle => exact h.tick hle rfl rfl rfl
  | report hle => exact oncePerWeek_report h hle

theorem oncePerWeek_run (hrun : Run (Enabled (reportStep env)) w₀ events w)
    (hstart : w₀.state.posts = []) : OncePerWeek w := by
  refine hrun.invariant OncePerWeek ?_ ?_
  · intro w event w' h hstep
    exact oncePerWeek_step h hstep
  · refine ⟨?_, ?_, ?_⟩ <;> simp [hstart, acceptedBy]

theorem call_posts (w : ReportWorld) (call : ReportCall) :
    ∃ new, (w.call call).2.posts = w.state.posts ++ new ∧
    ((∀ post ∈ new, post.accepted = false) →
      (w.call call).2.config = w.state.config) := by
  have hend : ReportEnd w.instances w.monitor.lockAlerts call w.state
      (w.call call) := maybeSendWeeklyReport_end
  generalize w.call call = result at hend ⊢
  cases hend with
  | notDue => exact ⟨[], by simp, fun _ => rfl⟩
  | undelivered _ hsends =>
      obtain ⟨new, hposts, -⟩ := hsends.posts
      exact ⟨new, hposts, fun _ => hsends.config⟩
  | delivered _ hsends =>
      obtain ⟨new, hposts, -, -, hany⟩ := hsends.posts
      refine ⟨new, hposts, ?_⟩
      intro hrefused
      obtain ⟨post, hmem, haccepted⟩ := List.any_eq_true.mp hany.symm
      simp [hrefused post hmem] at haccepted

end Ends

/--
Calls, settings and the rest in any order, with the clock never going back:
a recipient accepts one automatic report an ISO week at most, on the day and
from the hour that were set, and a call that nobody accepts leaves the marker,
so that a later call of the day sends again.
-/
theorem one_report_each_week {env : MonitorEnv} {events : List ReportEvent}
    {start w : ReportWorld} (hrun : Run (Enabled (reportStep env)) start events w)
    (hstart : start.state.posts = []) :
    (∀ recipient, ((acceptedBy recipient w.state.posts).map fun post =>
      isoWeek (localDay post.now)).Nodup) ∧
    (∀ post ∈ w.state.posts, post.accepted = true →
      weekday (localDay post.now) = post.settings.weeklyReportDay ∧
      post.settings.weeklyReportHour ≤ localHour post.now) ∧
    ∀ call w', reportStep env w (.report call) = some w' →
      (∀ post ∈ w'.state.posts.drop w.state.posts.length,
        post.accepted = false) →
      w'.state.config.lastWeeklyReportAt = w.state.config.lastWeeklyReportAt ∧
      ∀ (later : ReportWorld) (call' : ReportCall),
        later.state.config.toManagedSettings =
          w'.state.config.toManagedSettings →
        later.state.config.lastWeeklyReportAt =
          w'.state.config.lastWeeklyReportAt →
        call.now ≤ call'.now → localDay call'.now = localDay call.now →
        IsDue w.state.config call.now →
        later.call call' = marked call' (sendWeeklyReports later.instances
          later.monitor.lockAlerts call' later.state) := by
  have hweekly := oncePerWeek_run hrun hstart
  refine ⟨?_, ?_, ?_⟩
  · intro recipient
    have hweeks := hweekly.once recipient
    refine (List.nodup_map_iff_inj_on ?_).mpr ?_
    · exact List.Nodup.of_map _ hweeks
    · intro post hmem post' hmem' heq
      exact List.inj_on_of_nodup_map hweeks hmem hmem' (isoWeek_eq_iff.mp heq)
  · intro post hmem _
    have hschedule := hweekly.onSchedule post hmem
    exact ⟨hschedule.day, hschedule.hour⟩
  · intro call w' hstep hrefused
    cases stepped hstep with
    | report =>
        obtain ⟨new, hposts, hconfig⟩ := call_posts w call
        simp only [hposts, List.drop_left] at hrefused
        have hsame := hconfig hrefused
        refine ⟨by simp [hsame], ?_⟩
        intro later call' hmanaged hmarker hle hday hdue
        simp only [hsame] at hmanaged hmarker
        apply maybeSendWeeklyReport_due
        exact (hdue.later hle hday).congr hmanaged hmarker

/-! ## A deployment with one instance, and reports on Thursdays from 09:00 -/

def reportedInstance : InstanceRecord :=
  { InstanceRecord.blank with
    name := "orders"
    dbIdentifier := "orders-db"
    ownerTeamsWebhookUrl := "https://teams.example/owner" }

def reportingWorld : ReportWorld where
  clock := 0
  state :=
    { config := { SettingsRow.defaults with
        channelWebhookUrl := "https://teams.example/channel"
        weeklyReportEnabled := true
        weeklyReportDay := 3
        reportBaseUrl := "https://healthgrid.example" }
      reports := []
      nextReportPk := 1
      posts := [] }
  monitor := .empty
  instances := insertRecord .empty reportedInstance

def reportCycle (now : Time) (pairs : List (Int × Int)) : ReportEvent :=
  .cycle reportedInstance.target (sampleCycle now (pairs.map fun pair =>
    ⟨some pair.1, some pair.2, none, none, none, none, some 300⟩))

def reportAt (now : Time) (outcome : ReportRecipient → PostOutcome) :
    ReportEvent :=
  .report ⟨now, now, id, fun recipient _ => outcome recipient⟩

/-- Nobody answers, then the channel only; the owner has to wait a week. -/
def twoThursdays : List ReportEvent :=
  [reportCycle 0 [(1, 2)], reportAt (4 * hour) fun _ => .raised,
    reportAt (5 * hour) fun recipient =>
      if recipient = .channel then .accepted else .refused,
    reportAt (6 * hour) fun _ => .accepted,
    reportAt (days 7 + 4 * hour) fun _ => .accepted]

theorem one_report_each_thursday :
    ∃ w, execute (reportStep sampleEnv) reportingWorld twoThursdays = some w ∧
      w.state.posts.map ReportPost.accepted = [false, false, true, false, true] ∧
      ∀ recipient, ((acceptedBy recipient w.state.posts).map fun post =>
        isoWeek (localDay post.now)).Nodup := by
  have hsome : (execute (reportStep sampleEnv) reportingWorld
      twoThursdays).isSome = true := by decide +kernel
  have hposts : ((execute (reportStep sampleEnv) reportingWorld
      twoThursdays).map fun w => w.state.posts.map ReportPost.accepted) =
      some [false, false, true, false, true] := by decide +kernel
  obtain ⟨w, hw⟩ := Option.isSome_iff_exists.mp hsome
  refine ⟨w, hw, ?_, ?_⟩
  · rw [hw] at hposts
    exact Option.some.inj hposts
  · exact (one_report_each_week (run_of_execute hw) rfl).1

end HealthGrid.Background
