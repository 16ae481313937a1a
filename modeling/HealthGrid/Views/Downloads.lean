import HealthGrid.Background.ReportCsv
import HealthGrid.Db.Activity
import HealthGrid.Registry.Visibility

/-!
# Downloading locks and sessions

`download_locks` and `download_sessions` write one snapshot of a monitored
database as a CSV file, with the full texts of its queries.
-/

namespace HealthGrid.Views.Downloads

open HealthGrid.Foundation HealthGrid.Foundation.Csv HealthGrid.Db
open HealthGrid.Access HealthGrid.Background HealthGrid.Monitor

/-! ## Values in a row -/

/-- `csv.writer` writes `None` as an empty field. -/
def textField (value : Option String) : String := value.getD ""

def numberField (value : Option Int) : String :=
  textField (value.map toString)

def padded (width : Nat) (n : Int) : String :=
  let digits := toString n
  String.ofList (List.replicate (width - digits.length) '0') ++ digits

def dateTime (now : Time) (dash middle colon : String) : String :=
  let (year, month, date) := civilDate (now / (24 * hour))
  let seconds := now % (24 * hour) / 1000000
  padded 4 year ++ dash ++ padded 2 month ++ dash ++ padded 2 date ++ middle ++
    padded 2 (seconds / 3600) ++ colon ++ padded 2 (seconds / 60 % 60) ++
    colon ++ padded 2 (seconds % 60)

/-- `datetime.isoformat` leaves out a fraction of zero. -/
def isoformat (now : Time) : String :=
  let micros := now % 1000000
  dateTime now "-" "T" ":" ++
    (if micros = 0 then "" else "." ++ padded 6 micros) ++ "+00:00"

example : isoformat 1709144730000250 = "2024-02-28T18:25:30.000250+00:00" := by
  decide

def lockHeader : List String :=
  ["captured_at", "blocked_pid", "blocked_user", "blocked_query",
    "blocking_pid", "blocking_user", "blocking_query", "waiting_seconds"]

def lockRecord (capturedAt : Time) (row : LockRow) : List String :=
  [isoformat capturedAt, numberField row.blockedPid,
    textField row.blockedUser, textField row.blockedQuery,
    numberField row.blockingPid, textField row.blockingUser,
    textField row.blockingQuery, numberField row.waitingSeconds]

def sessionHeader : List String :=
  ["captured_at", "pid", "usename", "state", "wait_event", "duration_seconds",
    "query"]

/-- A row of the activity query, and its `wait_event` column. -/
def sessionRecord (capturedAt : Time) (row : ActivityRow × Option String) :
    List String :=
  [isoformat capturedAt, numberField row.1.pid, textField row.1.usename,
    textField row.1.state, textField row.2,
    numberField row.1.durationSeconds, textField row.1.query]

/-! ## The views -/

inductive Answer where
  | redirect (message : String)
  | csv (fileName content : String)
  deriving DecidableEq, Repr

structure Clock where
  fileTime : Time
  capturedAt : Time

def downloadRows {ρ : Type} (what : String) (clock : Clock) (inst : RDSInstance)
    (header : List String) (record : Time → ρ → List String)
    (fetched : Except Exn (List ρ)) : Except Exn Answer :=
  match fetched with
  | .error (.connectionError message) =>
      .ok (.redirect ("Could not fetch " ++ what ++ " to download: " ++ message))
  | .error e => .error e
  | .ok rows =>
      .ok (.csv
        (inst.dbIdentifier ++ "-" ++ what ++ "-" ++
          dateTime clock.fileTime "" "-" "" ++ ".csv")
        (String.join (csvRow header ::
          rows.map fun row => csvRow (record clock.capturedAt row))))

variable (drivers : Drivers) (calls : CatalogCalls) (r : Registry)
  (user : Account) (clock : Clock)

def viewableInstance (pk : Nat) : Except Exn RDSInstance := do
  let inst ← getInstance r pk
  requireInstanceAccess r.tables user inst false
  return inst

def downloadLocks (pk : Nat) : Except Exn Answer := do
  let inst ← viewableInstance r user pk
  downloadRows "locks" clock inst lockHeader lockRecord
    ((fetchActivity drivers calls inst).map Prod.snd)

/-- `waitEvent` is the column of the query that an activity row leaves out. -/
def downloadSessions (waitEvent : Nat → Option String) (pk : Nat) :
    Except Exn Answer := do
  let inst ← viewableInstance r user pk
  downloadRows "sessions" clock inst sessionHeader sessionRecord
    ((fetchActivity drivers calls inst).map fun rows =>
      rows.1.zipIdx.map fun (row, i) => (row, waitEvent i))

/-! ## Reading a download back -/

section ReadBack

variable {drivers calls r user clock} {pk : Nat} {fileName content : String}

theorem downloadRows_reads_back {ρ : Type} {what : String} {inst : RDSInstance}
    {header : List String} {record : Time → ρ → List String}
    {fetched : Except Exn (List ρ)}
    (hheader : 2 ≤ header.length) (hrecord : ∀ now row, 2 ≤ (record now row).length)
    (h : downloadRows what clock inst header record fetched =
      .ok (.csv fileName content)) :
    ∃ rows, fetched = .ok rows ∧
      readRecords content = header :: rows.map (record clock.capturedAt) := by
  unfold downloadRows at h
  split at h
  · cases h
  · cases h
  · rename_i rows
    cases h
    refine ⟨rows, rfl, ?_⟩
    have hlength : ∀ fields ∈ header :: rows.map (record clock.capturedAt),
        2 ≤ fields.length := by
      rw [List.forall_mem_cons, List.forall_mem_map]
      exact ⟨hheader, fun row _ => hrecord _ row⟩
    have hrows := readRecords_csvRows hlength
    rwa [List.map_cons, List.map_map] at hrows

theorem viewableInstance_ok {inst : RDSInstance}
    (h : viewableInstance r user pk = .ok inst) :
    inst ∈ r.instances.rows ∧ inst.pk = pk ∧
      canViewInstance r.tables user inst = true := by
  obtain ⟨found, hfound, h⟩ := of_bind_eq_ok h
  obtain ⟨_, haccess, h⟩ := of_bind_eq_ok h
  cases h
  unfold getInstance at hfound
  split at hfound
  · cases hfound
  · rename_i hfind
    cases hfound
    obtain ⟨hmem, hpk⟩ := OpenTable.findPk?_eq_some.mp hfind
    exact ⟨hmem, hpk, Registry.requireInstanceAccess_view.mp haccess⟩

theorem viewableInstance_eq_ok {inst : RDSInstance}
    (hmem : inst ∈ r.instances.rows) (hpk : inst.pk = pk)
    (hview : canViewInstance r.tables user inst = true) :
    viewableInstance r user pk = .ok inst := by
  have hfound : getInstance r pk = .ok inst := by
    unfold getInstance
    rw [OpenTable.findPk?_eq_some.mpr ⟨hmem, hpk⟩]
  have haccess := Registry.requireInstanceAccess_view.mpr hview
  rw [viewableInstance, hfound]
  change (do requireInstanceAccess r.tables user inst false; return inst) = _
  rw [haccess]
  rfl

theorem of_map_eq_ok {ε α β : Type} {f : α → β} {result : Except ε α} {b : β}
    (h : result.map f = .ok b) : ∃ a, result = .ok a ∧ f a = b := by
  cases result with
  | error e => cases h
  | ok a => exact ⟨a, rfl, Except.ok.inj h⟩

/--
A file is only written for an instance that the user may view, and it reads
back as one record for each row of the snapshot; where the instance cannot be
connected to, the user is sent back with the message.
-/
theorem downloads_read_back (drivers : Drivers) (calls : CatalogCalls)
    (r : Registry) (user : Account) (clock : Clock)
    (waitEvent : Nat → Option String) (pk : Nat) :
    (∀ fileName content,
      downloadLocks drivers calls r user clock pk =
          .ok (.csv fileName content) →
        ∃ inst ∈ r.instances.rows, inst.pk = pk ∧
          canViewInstance r.tables user inst = true ∧
          ∃ activity blocking,
            fetchActivity drivers calls inst = .ok (activity, blocking) ∧
            readRecords content =
              lockHeader :: blocking.map (lockRecord clock.capturedAt)) ∧
    (∀ fileName content,
      downloadSessions drivers calls r user clock waitEvent pk =
          .ok (.csv fileName content) →
        ∃ inst ∈ r.instances.rows, inst.pk = pk ∧
          canViewInstance r.tables user inst = true ∧
          ∃ activity blocking,
            fetchActivity drivers calls inst = .ok (activity, blocking) ∧
            readRecords content = sessionHeader ::
              activity.zipIdx.map fun (row, i) =>
                sessionRecord clock.capturedAt (row, waitEvent i)) ∧
    ∀ inst ∈ r.instances.rows, inst.pk = pk →
      canViewInstance r.tables user inst = true →
      ∀ message,
        fetchActivity drivers calls inst = .error (.connectionError message) →
        downloadLocks drivers calls r user clock pk = .ok (.redirect
          ("Could not fetch locks to download: " ++ message)) ∧
        downloadSessions drivers calls r user clock waitEvent pk =
          .ok (.redirect
            ("Could not fetch sessions to download: " ++ message)) := by
  refine ⟨?_, ?_, ?_⟩
  · intro fileName content h
    obtain ⟨inst, hinst, h⟩ := of_bind_eq_ok h
    obtain ⟨hmem, hpk, hview⟩ := viewableInstance_ok hinst
    obtain ⟨rows, hfetched, hreads⟩ := downloadRows_reads_back (by decide)
      (fun now row => by simp [lockRecord]) h
    obtain ⟨⟨activity, blocking⟩, hfetch, rfl⟩ := of_map_eq_ok hfetched
    exact ⟨inst, hmem, hpk, hview, activity, blocking, hfetch, hreads⟩
  · intro fileName content h
    obtain ⟨inst, hinst, h⟩ := of_bind_eq_ok h
    obtain ⟨hmem, hpk, hview⟩ := viewableInstance_ok hinst
    obtain ⟨rows, hfetched, hreads⟩ := downloadRows_reads_back (by decide)
      (fun now row => by simp [sessionRecord]) h
    obtain ⟨⟨activity, blocking⟩, hfetch, rfl⟩ := of_map_eq_ok hfetched
    refine ⟨inst, hmem, hpk, hview, activity, blocking, hfetch, ?_⟩
    rw [hreads, List.map_map]
    rfl
  · intro inst hmem hpk hview message hfetch
    have hinst := viewableInstance_eq_ok hmem hpk hview
    constructor
    · rw [downloadLocks, hinst]
      change downloadRows _ _ _ _ _ _ = _
      rw [hfetch]
      rfl
    · rw [downloadSessions, hinst]
      change downloadRows _ _ _ _ _ _ = _
      rw [hfetch]
      rfl

end ReadBack

end HealthGrid.Views.Downloads
