import HealthGrid.Access.Routes
import Mathlib.Data.List.Dedup

/-!
# Registered instances

The rows of the registry with the columns its forms and its API write, and the
functions of the model class on them.
-/

namespace HealthGrid.Registry

open HealthGrid.Foundation HealthGrid.Db HealthGrid.Access

/-- The engine column holds any text: a form is not bound to the choices. -/
structure InstanceRecord where
  pk : Nat
  name : String
  connectionGroup : Nat
  engine : String
  dbIdentifier : String
  region : String
  host : String
  port : Nat
  dbName : String
  username : String
  lockControlEnabled : Bool
  controlUsername : String
  ownerTeamsWebhookUrl : String
  excludeFromGlobalNotifications : Bool
  passwordEncrypted : String
  controlPasswordEncrypted : String
  queryRunnerEnabled : Bool
  queryRunnerUsername : String
  queryRunnerPasswordEncrypted : String
  sslRequired : Bool
  isActive : Bool
  addedBy : Option Nat
  deriving DecidableEq, Repr

/-- The defaults of the model class, and an empty text where it has none. -/
def InstanceRecord.blank : InstanceRecord where
  pk := 0
  name := ""
  connectionGroup := 0
  engine := "postgresql"
  dbIdentifier := ""
  region := "us-east-1"
  host := ""
  port := 5432
  dbName := ""
  username := ""
  lockControlEnabled := false
  controlUsername := ""
  ownerTeamsWebhookUrl := ""
  excludeFromGlobalNotifications := false
  passwordEncrypted := ""
  controlPasswordEncrypted := ""
  queryRunnerEnabled := false
  queryRunnerUsername := ""
  queryRunnerPasswordEncrypted := ""
  sslRequired := true
  isActive := true
  addedBy := none

instance : OpenRow InstanceRecord Nat where
  pk := InstanceRecord.pk
  key := InstanceRecord.pk
  isOpen _ := true

abbrev InstanceTable := OpenTable InstanceRecord

/-- How `_is_mysql` and `_is_mssql` read the engine column. -/
def engineOf (engine : String) : Engine :=
  if engine = "mysql" then .mysql
  else if engine = "mariadb" then .mariadb
  else if engine = "mssql" then .mssql
  else .postgresql

/-- The row as the permission and connection functions see it. -/
def InstanceRecord.target (record : InstanceRecord) : RDSInstance where
  pk := record.pk
  name := record.name
  engine := engineOf record.engine
  dbIdentifier := record.dbIdentifier
  host := record.host
  port := record.port
  dbName := record.dbName
  username := record.username
  passwordEncrypted := record.passwordEncrypted
  lockControlEnabled := record.lockControlEnabled
  controlUsername := record.controlUsername
  controlPasswordEncrypted := record.controlPasswordEncrypted
  queryRunnerEnabled := record.queryRunnerEnabled
  queryRunnerUsername := record.queryRunnerUsername
  queryRunnerPasswordEncrypted := record.queryRunnerPasswordEncrypted
  sslRequired := record.sslRequired

def str (record : InstanceRecord) : String :=
  record.name ++ " (" ++ record.dbIdentifier ++ ")"

/--
Numbers in texts, decryption, the URL validator, and which rows the database
takes.  A ciphertext is never empty; one stands for all that Fernet may draw.
-/
structure RegistryLibrary where
  parseInt : String → Option Int
  drivers : Drivers
  encrypt : String → String
  encrypt_ne : ∀ text, encrypt text ≠ ""
  validUrl : String → Bool
  storable : InstanceRecord → Bool

inductive Refusal where
  | raised (e : Exn)
  | valueError (text : String)
  /-- a filter of a template whose argument the context lacks -/
  | variableDoesNotExist (key : String)
  | message (text : String)
  deriving DecidableEq, Repr

/-! ## Passwords -/

def encryptPassword (lib : RegistryLibrary) (plaintext : String) : String :=
  if plaintext = "" then "" else lib.encrypt plaintext

@[simp] theorem encryptPassword_eq_empty {lib : RegistryLibrary}
    {plaintext : String} :
    encryptPassword lib plaintext = "" ↔ plaintext = "" := by
  unfold encryptPassword
  split <;> simp_all [lib.encrypt_ne]

def setPassword (lib : RegistryLibrary) (rawPassword : String)
    (record : InstanceRecord) : InstanceRecord :=
  { record with passwordEncrypted := encryptPassword lib rawPassword }

def setControlPassword (lib : RegistryLibrary) (rawPassword : String)
    (record : InstanceRecord) : InstanceRecord :=
  { record with controlPasswordEncrypted := encryptPassword lib rawPassword }

def getPassword (lib : RegistryLibrary) (record : InstanceRecord) :
    Except Exn String :=
  decryptPassword lib.drivers record.passwordEncrypted

def getControlPassword (lib : RegistryLibrary) (record : InstanceRecord) :
    Except Exn String :=
  decryptPassword lib.drivers record.controlPasswordEncrypted

/-! ## The table -/

/-- `get_object_or_404` -/
def getRecord (instances : InstanceTable) (pk : Int) :
    Except Refusal InstanceRecord :=
  match if pk < 0 then none else instances.findPk? pk.toNat with
  | none =>
      .error (.raised (.http404 "No RDSInstance matches the given query."))
  | some record => .ok record

def InstanceRecord.numbered (record : InstanceRecord) (pk : Nat) :
    InstanceRecord :=
  { record with pk := pk }

def insertRecord (instances : InstanceTable) (record : InstanceRecord) :
    InstanceTable :=
  instances.insert (record.numbered instances.nextPk) rfl (by
    rw [OpenTable.findOpen?_eq_none]
    intro row hmem _
    exact Nat.ne_of_lt (instances.pk_lt row hmem))

@[simp] theorem insertRecord_rows (instances : InstanceTable)
    (record : InstanceRecord) :
    (insertRecord instances record).rows =
      instances.rows ++ [record.numbered instances.nextPk] := rfl

def insertRecords (instances : InstanceTable) (records : List InstanceRecord) :
    InstanceTable :=
  records.foldl insertRecord instances

/-- `instance.save()` on a row that is in the table. -/
def saveRecord (instances : InstanceTable) (record : InstanceRecord) :
    InstanceTable :=
  instances.update (fun row => if row.pk = record.pk then record else row)
    ⟨fun row => by
      split
      · rename_i heq
        exact heq.symm
      · rfl, fun row => by
      split
      · rename_i heq
        exact heq.symm
      · rfl, fun _ _ => rfl⟩

def accessibleInstances (t : AccessTables) (user : Account)
    (instances : InstanceTable) : List InstanceRecord :=
  let active := instances.rows.filter fun record => record.isActive
  if user.isSuperuser || !hasScope t user then active
  else
    -- the join with the grants of the user, then `distinct()`
    (active.flatMap fun record =>
      (t.instanceAccess.keys.filter fun key =>
        key.1 == user.pk && key.2 == record.pk).map fun _ => record).dedup

theorem mem_of_mem_accessibleInstances {t : AccessTables} {user : Account}
    {instances : InstanceTable} {record : InstanceRecord}
    (h : record ∈ accessibleInstances t user instances) :
    record ∈ instances.rows ∧ record.isActive = true := by
  unfold accessibleInstances at h
  dsimp only at h
  split at h
  · exact List.mem_filter.mp h
  · rw [List.mem_dedup, List.mem_flatMap] at h
    obtain ⟨active, hactive, hjoin⟩ := h
    obtain ⟨-, -, rfl⟩ := List.mem_map.mp hjoin
    exact List.mem_filter.mp hactive

theorem getRecord_mem {instances : InstanceTable} {pk : Int}
    {record : InstanceRecord} (h : getRecord instances pk = .ok record) :
    record ∈ instances.rows := by
  unfold getRecord at h
  split at h
  · cases h
  · rename_i found hfind
    cases h
    split at hfind
    · cases hfind
    · exact (OpenTable.findPk?_eq_some.mp hfind).1

theorem mem_saveRecord {instances : InstanceTable}
    {record row : InstanceRecord}
    (hmem : row ∈ (saveRecord instances record).rows) :
    row = record ∨ (row ∈ instances.rows ∧ row.pk ≠ record.pk) := by
  obtain ⟨old, hold, rfl⟩ := List.mem_map.mp hmem
  split
  · exact .inl rfl
  · rename_i hne
    exact .inr ⟨hold, hne⟩

theorem mem_saveRecord_self {instances : InstanceTable}
    {record before : InstanceRecord} (hbefore : before ∈ instances.rows)
    (hpk : record.pk = before.pk) :
    record ∈ (saveRecord instances record).rows :=
  List.mem_map.mpr ⟨before, hbefore, if_pos hpk.symm⟩

theorem mem_insertRecords {instances : InstanceTable}
    {records : List InstanceRecord} {row : InstanceRecord}
    (hmem : row ∈ (insertRecords instances records).rows) :
    row ∈ instances.rows ∨
      ∃ record ∈ records, row = record.numbered row.pk := by
  induction records generalizing instances with
  | nil => exact .inl hmem
  | cons record records ih =>
      rcases ih hmem with hold | ⟨later, hlater, hrow⟩
      · rw [insertRecord_rows, List.mem_append, List.mem_singleton] at hold
        rcases hold with hold | rfl
        · exact .inl hold
        · exact .inr ⟨record, by simp, rfl⟩
      · exact .inr ⟨later, List.mem_cons_of_mem _ hlater, hrow⟩

theorem insertRecords_map {α : Type} (f : InstanceRecord → α)
    (hf : ∀ record pk, f (record.numbered pk) = f record)
    (instances : InstanceTable) (records : List InstanceRecord) :
    (insertRecords instances records).rows.map f =
      instances.rows.map f ++ records.map f := by
  induction records generalizing instances with
  | nil => simp [insertRecords]
  | cons record records ih =>
      change (insertRecords (insertRecord instances record) records).rows.map f
        = _
      simp [ih, hf]

end HealthGrid.Registry
