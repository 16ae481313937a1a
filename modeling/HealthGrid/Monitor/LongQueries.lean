import HealthGrid.Monitor.Notifications

/-!
# Long-running queries

`process_long_queries` tracks the active queries of one activity snapshot that
run longer than the configured threshold, and announces the new ones once.
-/

namespace HealthGrid.Monitor

open HealthGrid.Foundation HealthGrid.Foundation.PyText HealthGrid.Db

structure TextLibrary where
  sha256 : String → String
  casefold : String → String
  strDatetime : Time → String

abbrev LongQueryTable := OpenTable LongQueryAlert

structure LongQueryState where
  alerts : LongQueryTable
  cards : List (Nat × List LongQueryAlert × Bool)

variable (lib : TextLibrary) (app : AppDatabase)
  (config : NotificationSettings) (now : Time)

def longQueryKey (row : ActivityRow) : String :=
  let values := [strPid row.pid, textOr row.usename "",
    (row.queryStart.map lib.strDatetime).getD "", textOr row.query ""]
  strPid row.pid ++ ":" ++ lib.sha256 (nul.intercalate values)

def excludedUsers : List String :=
  ((config.manualQueryExcludedUsers.splitOn ",").map stripText).filter
      (· ≠ "") |>.map lib.casefold

def isLongQuery (row : ActivityRow) : Bool :=
  let username := stripText (textOr row.usename "")
  let applicationName := stripText (textOr row.applicationName "")
  row.state == some "active" && username != "" &&
    !(excludedUsers lib config).contains (lib.casefold username) &&
    lib.casefold applicationName != "healthgrid-control" &&
    decide (intOr row.durationSeconds 0 ≥ config.manualQueryThresholdSeconds)

def longQueryCandidates (activity : List ActivityRow) :
    Dict String ActivityRow :=
  (activity.filter (isLongQuery lib config)).foldl
    (fun candidates row => candidates.set (longQueryKey lib row) row) .empty

def newLongQueryAlert (instancePk pk : Nat) (alertKey : String) (pid : Int)
    (row : ActivityRow) : LongQueryAlert where
  pk := pk
  instancePk := instancePk
  alertKey := alertKey
  pid := pid
  username := textOr row.usename ""
  applicationName := textOr row.applicationName ""
  clientAddr := textOr row.clientAddr ""
  query := textOr row.query ""
  queryStart := row.queryStart
  durationSeconds := max 0 (intOr row.durationSeconds 0)
  firstSeenAt := now
  lastSeenAt := now
  alertedAt := none
  resolvedAt := none

section

variable (instancePk nextPk : Nat) (alertKey : String) (pid : Int)
  (row : ActivityRow)

theorem pk_newLongQueryAlert :
    pk (newLongQueryAlert now instancePk nextPk alertKey pid row) = nextPk :=
  rfl

theorem key_newLongQueryAlert :
    key (newLongQueryAlert now instancePk nextPk alertKey pid row) =
      (instancePk, alertKey) :=
  rfl

end

def stillRunning (row : ActivityRow) (alert : LongQueryAlert) :
    LongQueryAlert :=
  { alert with
    lastSeenAt := now
    durationSeconds :=
      max 0 (intOr row.durationSeconds alert.durationSeconds) }

theorem stillRunning_keeps (row : ActivityRow) : Keeps (stillRunning now row) :=
  ⟨fun _ => rfl, fun _ => rfl, fun _ h => h⟩

/-- `get_or_create` of one candidate, and the row as it is afterwards. -/
def storeLongQuery (instancePk : Nat) (alertKey : String) (row : ActivityRow) :
    Call Exn LongQueryState LongQueryAlert := fun s =>
  match h : s.alerts.findOpen? (instancePk, alertKey) with
  | some found =>
      if app.acceptsActivityRow row then
        (.ok (stillRunning now row found),
          { s with
            alerts := s.alerts.update
              (fun alert =>
                if alert.pk = found.pk then stillRunning now row alert
                else alert)
              ((stillRunning_keeps now row).ite _) })
      else (.error (.appDatabaseError "value out of range"), s)
  | none =>
      match row.pid with
      | none => (.error (.appDatabaseError "null value in pid"), s)
      | some pid =>
          if app.acceptsActivityRow row then
            (.ok (newLongQueryAlert now instancePk s.alerts.nextPk alertKey pid
                row),
              { s with
                alerts := s.alerts.insert
                  (newLongQueryAlert now instancePk s.alerts.nextPk alertKey
                    pid row)
                  (pk_newLongQueryAlert ..)
                  (by rw [key_newLongQueryAlert]; exact h) })
          else (.error (.appDatabaseError "value out of range"), s)

def storeLongQueries (instancePk : Nat) :
    List (String × ActivityRow) → Call Exn LongQueryState (List LongQueryAlert)
  | [] => pure []
  | (alertKey, row) :: rest => do
      let alert ← storeLongQuery app now instancePk alertKey row
      let later ← storeLongQueries instancePk rest
      pure (if alert.alertedAt = none then alert :: later else later)

def longQueryResolved (alert : LongQueryAlert) : LongQueryAlert :=
  { alert with resolvedAt := some now }

theorem longQueryResolved_keeps : Keeps (longQueryResolved now) :=
  ⟨fun _ => rfl, fun _ => rfl, fun _ h => by cases h⟩

def resolveLongQueries (instancePk : Nat) (seenKeys : List String)
    (s : LongQueryState) : LongQueryState :=
  { s with
    alerts := s.alerts.update
      (fun alert =>
        if alert.instancePk = instancePk ∧ alert.resolvedAt = none ∧
            alert.alertKey ∉ seenKeys then
          longQueryResolved now alert
        else alert)
      ((longQueryResolved_keeps now).ite _) }

def longQueryAlerted (alert : LongQueryAlert) : LongQueryAlert :=
  { alert with alertedAt := some now }

theorem longQueryAlerted_keeps : Keeps (longQueryAlerted now) :=
  ⟨fun _ => rfl, fun _ => rfl, fun _ h => h⟩

def markLongQueriesAlerted (pks : List Nat) (s : LongQueryState) :
    LongQueryState :=
  { s with
    alerts := s.alerts.update
      (fun alert =>
        if alert.pk ∈ pks then longQueryAlerted now alert else alert)
      ((longQueryAlerted_keeps now).ite _) }

/--
The text of the card is left out, and with it that the card of a new query whose
`query_start` has no time zone cannot be built.
-/
def notifyLongQueries (instancePk : Nat) (deliver : List LongQueryAlert → Bool)
    (newAlerts : List LongQueryAlert) (s : LongQueryState) : LongQueryState :=
  let delivered := deliver newAlerts
  let s := { s with cards := s.cards ++ [(instancePk, newAlerts, delivered)] }
  if delivered then
    markLongQueriesAlerted now (newAlerts.map LongQueryAlert.pk) s
  else s

def processLongQueries (instancePk : Nat) (activity : List ActivityRow)
    (deliver : List LongQueryAlert → Bool) : Call Exn LongQueryState Unit := do
  if config.manualQueryAlertEnabled then
    let candidates := longQueryCandidates lib config activity
    let newAlerts ← storeLongQueries app now instancePk candidates.entries
    Call.modify (resolveLongQueries now instancePk candidates.keys)
    if !newAlerts.isEmpty && lockNotificationsOpen config now then
      Call.modify (notifyLongQueries now instancePk deliver newAlerts)
  else
    Call.modify (resolveLongQueries now instancePk [])

/-! ## When the rows can be stored -/

def LongQueryStorable (instancePk : Nat) (s : LongQueryState)
    (entry : String × ActivityRow) : Prop :=
  app.acceptsActivityRow entry.2 = true ∧
    (entry.2.pid.isSome = true ∨
      (s.alerts.findOpen? (instancePk, entry.1)).isSome = true)

def LongQueriesStorable (instancePk : Nat) (activity : List ActivityRow)
    (s : LongQueryState) : Prop :=
  config.manualQueryAlertEnabled = true →
    ∀ entry ∈ (longQueryCandidates lib config activity).entries,
      LongQueryStorable app instancePk s entry

section Storable

variable {app} {instancePk : Nat} {s s' : LongQueryState}
  {alertKey : String} {row : ActivityRow}

theorem storeLongQuery_ok_iff :
    (∃ alert s', storeLongQuery app now instancePk alertKey row s =
      (.ok alert, s')) ↔ LongQueryStorable app instancePk s (alertKey, row) := by
  unfold storeLongQuery LongQueryStorable
  dsimp only
  split
  · rename_i found hfind
    rw [hfind]
    split
    · rename_i haccepts
      exact iff_of_true ⟨_, _, rfl⟩ ⟨haccepts, .inr rfl⟩
    · rename_i hrefuses
      exact iff_of_false (by rintro ⟨_, _, h⟩; cases h) (fun h => hrefuses h.1)
  · rename_i hfind
    have hclosed : (s.alerts.findOpen? (instancePk, alertKey)).isSome =
        false := by
      rw [hfind]
      rfl
    rw [hclosed]
    cases hpid : row.pid with
    | none =>
        exact iff_of_false (by rintro ⟨_, _, h⟩; cases h)
          (by rintro ⟨-, h | h⟩ <;> cases h)
    | some pid =>
        dsimp only
        split
        · rename_i haccepts
          exact iff_of_true ⟨_, _, rfl⟩ ⟨haccepts, .inl rfl⟩
        · rename_i hrefuses
          exact iff_of_false (by rintro ⟨_, _, h⟩; cases h)
            (fun h => hrefuses h.1)

theorem storeLongQuery_findOpen? {alert : LongQueryAlert} {key : Nat × String}
    (h : storeLongQuery app now instancePk alertKey row s = (.ok alert, s'))
    (hne : key ≠ (instancePk, alertKey)) :
    (s'.alerts.findOpen? key).isSome = (s.alerts.findOpen? key).isSome := by
  rw [← OpenTable.any_open_history, ← OpenTable.any_open_history]
  unfold storeLongQuery at h
  split at h
  · rename_i found hfind
    split at h
    · cases h
      rw [OpenTable.history_update]
      conv_rhs => rw [← List.map_id (s.alerts.history key)]
      congr 1
      apply List.map_congr_left
      intro other hmem
      exact if_neg (OpenTable.pk_ne_of_key_ne hfind hmem hne)
    · cases h
  · split at h
    · cases h
    · split at h
      · cases h
        dsimp only
        rw [OpenTable.history_insert, if_neg]
        rw [key_newLongQueryAlert]
        exact fun heq => hne heq.symm
      · cases h

theorem storeLongQueries_ok_iff {entries : List (String × ActivityRow)}
    (hnodup : (entries.map Prod.fst).Nodup) :
    (∃ alerts s', storeLongQueries app now instancePk entries s =
      (.ok alerts, s')) ↔
      ∀ entry ∈ entries, LongQueryStorable app instancePk s entry := by
  induction entries generalizing s with
  | nil => exact iff_of_true ⟨[], s, rfl⟩ (by simp)
  | cons entry rest ih =>
      obtain ⟨alertKey, row⟩ := entry
      rw [List.map_cons, List.nodup_cons] at hnodup
      rw [List.forall_mem_cons, storeLongQueries, ← storeLongQuery_ok_iff now]
      cases hfirst : storeLongQuery app now instancePk alertKey row s with
      | mk result middle =>
          cases result with
          | error e =>
              rw [Call.bind_error hfirst]
              exact iff_of_false (by rintro ⟨_, _, h⟩; cases h)
                (by rintro ⟨⟨_, _, h⟩, -⟩; cases h)
          | ok alert =>
              have hrest : (∀ entry ∈ rest,
                    LongQueryStorable app instancePk middle entry) ↔
                  ∀ entry ∈ rest, LongQueryStorable app instancePk s entry := by
                refine forall₂_congr fun entry hmem => ?_
                have hkey : (instancePk, entry.1) ≠ (instancePk, alertKey) := by
                  intro heq
                  exact hnodup.1 (List.mem_map.mpr
                    ⟨entry, hmem, (Prod.mk.inj heq).2⟩)
                unfold LongQueryStorable
                rw [storeLongQuery_findOpen? now hfirst hkey]
              rw [Call.bind_ok hfirst, ← hrest, ← ih hnodup.2]
              constructor
              · rintro ⟨alerts, s', h⟩
                refine ⟨⟨alert, middle, rfl⟩, ?_⟩
                cases hlater : storeLongQueries app now instancePk rest
                    middle with
                | mk result last =>
                    cases result with
                    | error e =>
                        rw [Call.bind_error hlater] at h
                        cases h
                    | ok later => exact ⟨later, last, rfl⟩
              · rintro ⟨-, later, last, hlater⟩
                rw [Call.bind_ok hlater]
                exact ⟨_, last, rfl⟩

end Storable

theorem processLongQueries_ok_iff {instancePk : Nat}
    {activity : List ActivityRow} {deliver : List LongQueryAlert → Bool}
    {s : LongQueryState} :
    (∃ s', processLongQueries lib app config now instancePk activity deliver
      s = (.ok (), s')) ↔
      LongQueriesStorable lib app config instancePk activity s := by
  unfold processLongQueries LongQueriesStorable
  cases henabled : config.manualQueryAlertEnabled with
  | false =>
      rw [if_neg Bool.false_ne_true]
      exact iff_of_true ⟨_, rfl⟩ (fun h => by cases h)
  | true =>
      rw [if_pos rfl, forall_prop_of_true rfl, ← storeLongQueries_ok_iff now
        (Dict.keys_nodup _)]
      cases hstore : storeLongQueries app now instancePk
          (longQueryCandidates lib config activity).entries s with
      | mk result middle =>
          cases result with
          | error e =>
              rw [Call.bind_error hstore]
              exact iff_of_false (by rintro ⟨_, h⟩; cases h)
                (by rintro ⟨_, _, h⟩; cases h)
          | ok newAlerts =>
              rw [Call.bind_ok hstore, Call.bind_ok (Call.modify_run _ _)]
              refine iff_of_true ?_ ⟨newAlerts, middle, rfl⟩
              split
              · exact ⟨_, rfl⟩
              · exact ⟨_, rfl⟩

end HealthGrid.Monitor
