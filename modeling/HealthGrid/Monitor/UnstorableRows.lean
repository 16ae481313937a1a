import HealthGrid.Monitor.WaitingSeconds

/-!
# Rows that PostgreSQL does not take

A snapshot is stored in one transaction.  A missing PID, or a connection id
past the range of an integer column, fails it for every pair.
-/

namespace HealthGrid.Monitor

open HealthGrid.Foundation HealthGrid.Foundation.PyText HealthGrid.Db

/-! ## The columns of the application database -/

def maxInteger : Int := 2147483647

def fitsInteger (n : Int) : Bool :=
  decide (-maxInteger - 1 ≤ n ∧ n ≤ maxInteger)

/-- No text of PostgreSQL holds the character zero. -/
def fitsText (text : Option String) : Bool :=
  !(textOr text "").toList.contains (Char.ofNat 0)

def fitsUser (user : Option String) : Bool :=
  fitsText user && decide ((textOr user "").length ≤ 255)

def fitsLockColumns (row : LockRow) : Bool :=
  row.blockedPid.all fitsInteger && row.blockingPid.all fitsInteger &&
    fitsUser row.blockedUser && fitsUser row.blockingUser &&
    fitsText row.blockedQuery && fitsText row.blockingQuery &&
    decide (waited row ≤ maxInteger)

def postgresApp (acceptsActivityRow : ActivityRow → Bool) : AppDatabase where
  acceptsLockRow := fitsLockColumns
  acceptsActivityRow := acceptsActivityRow

/-- The columns of the PIDs do not take NULL. -/
def FitsLockAlert (row : LockRow) : Prop :=
  row.blockedPid.isSome = true ∧ row.blockingPid.isSome = true ∧
    fitsLockColumns row = true

/-! ## What a cycle records -/

def RecordedByCycle (env : MonitorEnv) (inst : RDSInstance)
    (input : CycleInput) (blocking : List LockRow) (s : MonitorState)
    (blockedPid blockingPid : Int) : Prop :=
  snapshotTable env inst input blocking s.lockAlerts =
      .ok (cycle env inst s input).lockAlerts ∧
    ∃ alert ∈ (cycle env inst s input).lockAlerts.rows,
      alert.instancePk = inst.pk ∧ alert.blockedPid = blockedPid ∧
        alert.blockingPid = blockingPid ∧ alert.resolvedAt = none

def RecordsPairs (env : MonitorEnv) (inst : RDSInstance) (input : CycleInput)
    (blocking : List LockRow) (s : MonitorState) : Prop :=
  ∀ blockedPid blockingPid, Shows blocking blockedPid blockingPid →
    RecordedByCycle env inst input blocking s blockedPid blockingPid

section Records

variable {env : MonitorEnv} {inst : RDSInstance} {input : CycleInput}
  {activity : List ActivityRow} {blocking : List LockRow} {s : MonitorState}

theorem mem_values_uniqueBlocking {row : LockRow} :
    row ∈ (uniqueBlocking blocking).values ↔ KeptRow blocking row := by
  constructor
  · intro hmem
    obtain ⟨⟨key, row⟩, hentry, rfl⟩ := List.mem_map.mp hmem
    exact (uniqueBlocking_eq_some.mp (Dict.get?_eq_some_iff.mpr hentry)).1
  · intro hkept
    have hget := uniqueBlocking_eq_some.mpr ⟨hkept, rfl⟩
    exact List.mem_map_of_mem (f := Prod.snd) (Dict.get?_eq_some_iff.mp hget)

theorem snapshot_eq_some (hfetch : input.fetch inst = .ok (activity, blocking)) :
    input.snapshot env inst = some blocking ↔
      ∀ row, KeptRow blocking row → Storable env.app row := by
  rw [CycleInput.snapshot, hfetch]
  dsimp only
  rw [Option.ite_none_right_eq_some, and_iff_left rfl]
  exact forall_congr' fun row => imp_congr_left mem_values_uniqueBlocking

theorem recordedByCycle_of_stored (hsnapshot : input.snapshot env inst =
    some blocking) {blockedPid blockingPid : Int}
    (hshows : Shows blocking blockedPid blockingPid) :
    RecordedByCycle env inst input blocking s blockedPid blockingPid := by
  have hcycle := cycle_lockAlerts env inst input s
  rw [hsnapshot] at hcycle
  refine ⟨hcycle, ?_⟩
  obtain ⟨alert, hfind, -⟩ := recordsWait_snapshot hcycle hshows
  obtain ⟨hmem, hopen, hkey⟩ := OpenTable.findOpen?_spec hfind
  obtain ⟨hinstance, hpair⟩ := Prod.mk.inj hkey
  obtain ⟨hblocked, hblocking⟩ := pairKey_inj hpair
  exact ⟨alert, hmem, hinstance, hblocked, hblocking,
    Option.isNone_iff_eq_none.mp hopen⟩

theorem cycle_of_unstorable (hfetch : input.fetch inst = .ok (activity, blocking))
    {row : LockRow} (hkept : KeptRow blocking row)
    (hrow : ¬ Storable env.app row) :
    (∀ table table', snapshotTable env inst input blocking table ≠
        .ok table') ∧ cycle env inst s input = s := by
  have hfailed : ∀ table table', upsertLockAlerts env.app inst.pk
      input.config.thresholdSeconds input.now table
        (uniqueBlocking blocking).values ≠ .ok table' := by
    intro table table' hstored
    exact hrow (upsertLockAlerts_storable.mp ⟨table', hstored⟩ row
      (mem_values_uniqueBlocking.mpr hkept))
  constructor
  · intro table table' htable
    obtain ⟨stored, hstored, -⟩ := snapshotTable_stored htable
    exact hfailed table stored hstored
  · cases hstored : upsertLockAlerts env.app inst.pk
        input.config.thresholdSeconds input.now s.lockAlerts
        (uniqueBlocking blocking).values with
    | ok stored => exact absurd hstored (hfailed _ _)
    | error e => rw [cycle, processInstance_notStored hfetch hstored]

end Records

theorem pairs_recorded {acceptsActivityRow : ActivityRow → Bool}
    {lib : TextLibrary} {inst : RDSInstance} {input : CycleInput}
    {activity : List ActivityRow} {blocking : List LockRow} {s : MonitorState}
    (hfetch : input.fetch inst = .ok (activity, blocking)) :
    RecordsPairs ⟨postgresApp acceptsActivityRow, lib⟩ inst input blocking s ↔
      (∀ row, KeptRow blocking row → FitsLockAlert row) ∨
        ∀ blockedPid blockingPid,
          ¬ Shows blocking blockedPid blockingPid := by
  let env : MonitorEnv := ⟨postgresApp acceptsActivityRow, lib⟩
  constructor
  · intro hrecords
    by_contra hneither
    obtain ⟨hfits, hshown⟩ := not_or.mp hneither
    push Not at hfits hshown
    obtain ⟨row, hkept, hrow⟩ := hfits
    obtain ⟨blockedPid, blockingPid, hshows⟩ := hshown
    have hstorable : ¬ Storable env.app row := hrow
    exact (cycle_of_unstorable (s := s) hfetch hkept hstorable).1 _ _
      (hrecords blockedPid blockingPid hshows).1
  · rintro (hfits | hnone) blockedPid blockingPid hshows
    · have hstored : input.snapshot env inst = some blocking :=
        (snapshot_eq_some hfetch).mpr hfits
      exact recordedByCycle_of_stored hstored hshows
    · exact absurd hshows (hnone blockedPid blockingPid)

/-! ## A thread without a connection -/

def mysqlPair (blockedPid blockingPid : Option Int) : LockRow :=
  ⟨blockedPid, blockingPid, some "app", some "app", some "UPDATE orders",
    some "ALTER TABLE orders", some 30⟩

/-- Three pairs: one has no blocked PID, one has an id past 2^31. -/
def mixedSnapshot : List LockRow :=
  [mysqlPair (some 11) (some 12), mysqlPair none (some 12),
    mysqlPair (some 3000000000) (some 12)]

def postgresEnv : MonitorEnv := ⟨postgresApp fun _ => true, sampleEnv.lib⟩

theorem mixed_snapshot_records_nothing :
    (cycle postgresEnv (sampleInstance .mysql) .empty
        (sampleCycle 0 mixedSnapshot)).lockAlerts.rows = [] ∧
      ¬ RecordsPairs postgresEnv (sampleInstance .mysql)
        (sampleCycle 0 mixedSnapshot) mixedSnapshot .empty := by
  have hrows : (cycle postgresEnv (sampleInstance .mysql) .empty
      (sampleCycle 0 mixedSnapshot)).lockAlerts.rows = [] := by decide
  refine ⟨hrows, fun hrecords => ?_⟩
  obtain ⟨alert, hmem, -⟩ := (hrecords 11 12 (by decide)).2
  rw [hrows] at hmem
  cases hmem

theorem complete_snapshot_recorded :
    RecordsPairs postgresEnv (sampleInstance .mysql)
      (sampleCycle 0 [mysqlPair (some 11) (some 12)])
      [mysqlPair (some 11) (some 12)] .empty := by
  have hfetch : (sampleCycle 0 [mysqlPair (some 11) (some 12)]).fetch
      (sampleInstance .mysql) = .ok ([], [mysqlPair (some 11) (some 12)]) := rfl
  refine (pairs_recorded hfetch).mpr (.inl fun row hkept => ?_)
  rw [List.mem_singleton.mp hkept.mem]
  unfold FitsLockAlert
  decide

end HealthGrid.Monitor
