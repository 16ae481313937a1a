import HealthGrid.Db.Termination

/-!
# Replication slots

`terminate_replication_slot_backend` and `drop_replication_slot`, over the
statements they run on the monitored server in autocommit mode.
-/

namespace HealthGrid.Db

open HealthGrid.Foundation

structure ReplicationSlot where
  slotName : String
  pluginName : Option String
  slotType : Option String
  database : Option String
  active : Bool
  activePid : Option Int
  restartLsn : Option String
  confirmedFlushLsn : Option String
  retainedWal : Option String
  deriving DecidableEq, Repr

def fetchReplicationSlots (drivers : Drivers)
    (rows : Except String (List ReplicationSlot)) (inst : RDSInstance) :
    Except Exn (List ReplicationSlot) :=
  if isMysql inst || isMssql inst then .ok []
  else do
    let _conn ← getConnection drivers inst
    rows.mapError .driverError

structure SlotServer (σ : Type) where
  /-- `SELECT active_pid` of the slot with this name, if there is one. -/
  activePid : String → Call String σ (Option (Option Int))
  terminateBackend : Int → Call String σ Bool
  dropSlot : String → Call String σ Unit

variable {σ : Type}

def terminateReplicationSlotBackend (server : SlotServer σ) (drivers : Drivers)
    (inst : RDSInstance) (slotName : String) : Call Exn σ Bool :=
  if isMysql inst || isMssql inst then pure false
  else do
    let _conn ← Call.ofExcept (getConnection drivers inst)
    let row ← runStatement (server.activePid slotName)
    match row with
    | some (some pid) =>
        if pid = 0 then pure false
        else runStatement (server.terminateBackend pid)
    | _ => pure false

def dropReplicationSlot (server : SlotServer σ) (drivers : Drivers)
    (inst : RDSInstance) (slotName : String) :
    Call Exn σ (Bool × Option String) :=
  if isMysql inst || isMssql inst then
    pure (false, some "Replication slots are only supported for PostgreSQL.")
  else do
    let _conn ← Call.ofExcept (getConnection drivers inst)
    Call.tryExcept
      (do
        runStatement (server.dropSlot slotName)
        pure (true, none))
      fun e =>
        match e with
        | .connectionError message => Call.raise (.connectionError message)
        | e => pure (false, some e.str)

end HealthGrid.Db
