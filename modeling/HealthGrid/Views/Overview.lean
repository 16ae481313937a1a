import HealthGrid.Db.Activity
import HealthGrid.Db.ServerOverview
import HealthGrid.Foundation.Grouping
import HealthGrid.Registry.Visibility
import Mathlib.Algebra.BigOperators.Group.List.Basic

/-!
# The instance list and its cards

`instance_list` groups the instances of a user by their connection, and the
page loads one card for each group.  The cards of the page together show every
instance of the user once.
-/

namespace HealthGrid.Views.Overview

open HealthGrid.Foundation HealthGrid.Db HealthGrid.Access HealthGrid.Registry

/-- How the database compares texts, and how Python folds their case. -/
structure OverviewLibrary where
  collate : String → String → Ordering
  casefold : String → String

structure DashboardLink where
  pk : Nat
  name : String
  url : String
  description : String
  category : String
  sortOrder : Nat
  isActive : Bool
  createdBy : Option Nat
  deriving DecidableEq, Repr

variable (lib : OverviewLibrary) (drivers : Drivers) (t : AccessTables)
  (user : Account) (instances : InstanceTable)

/-! ## The list -/

def nameOrder (record other : InstanceRecord) : Ordering :=
  (lib.collate record.name other.name).then
    (lib.collate record.dbName other.dbName)

def recordOrder (record other : InstanceRecord) : Ordering :=
  lib.collate record.name other.name

def groupOrder (record other : InstanceRecord) : Ordering :=
  (compare record.connectionGroup other.connectionGroup).then
    (nameOrder lib record other)

def orderBy (order : InstanceRecord → InstanceRecord → Ordering)
    (records : List InstanceRecord) : List InstanceRecord :=
  records.mergeSort fun record other => (order record other).isLE

structure InstanceGroup where
  groupId : Nat
  inst : InstanceRecord
  databaseCount : Nat
  deriving DecidableEq, Repr

structure ListPage where
  instances : List InstanceRecord
  instanceGroups : List InstanceGroup
  dashboardLinks : List DashboardLink
  deriving DecidableEq, Repr

def linkOrder (link other : DashboardLink) : Ordering :=
  (compare link.sortOrder other.sortOrder).then (lib.collate link.name other.name)

/-- A group has a first member: it was made for the row that came first. -/
def instanceList (links : List DashboardLink) : ListPage :=
  let accessible := accessibleInstances t user instances
  let grouped := group InstanceRecord.connectionGroup
    (orderBy (groupOrder lib) accessible)
  { instances := orderBy (recordOrder lib) accessible
    instanceGroups := grouped.entries.filterMap fun entry =>
      entry.2.head?.map fun first => ⟨entry.1, first, entry.2.length⟩
    dashboardLinks := (links.filter DashboardLink.isActive).mergeSort
      fun link other => (linkOrder lib link other).isLE }

/-! ## A card -/

structure DatabaseItem where
  inst : InstanceRecord
  reachable : Bool
  total : Nat
  active : Nat
  idle : Nat
  locks : Nat
  error : Option String
  deriving DecidableEq, Repr

structure CardCalls extends CatalogCalls, OverviewCalls

def activeSessions (activity : List ActivityRow) : Nat :=
  activity.countP fun row => lib.casefold (row.state.getD "") == "active"

def databaseItem (calls : CatalogCalls) (record : InstanceRecord) :
    Except Exn DatabaseItem :=
  match fetchActivity drivers calls record.target with
  | .ok (activity, blocking) =>
      let active := activeSessions lib activity
      .ok ⟨record, true, activity.length, active, activity.length - active,
        blocking.length, none⟩
  | .error (.connectionError message) =>
      .ok ⟨record, false, 0, 0, 0, 0, some message⟩
  | .error e => .error e

inductive CardStatus where
  | critical
  | warning
  | healthy
  deriving DecidableEq, Repr

structure Aggregate where
  total : Nat
  active : Nat
  idle : Nat
  locks : Nat
  deriving DecidableEq, Repr

def aggregateOf (databases : List DatabaseItem) : Aggregate where
  total := (databases.map DatabaseItem.total).sum
  active := (databases.map DatabaseItem.active).sum
  idle := (databases.map DatabaseItem.idle).sum
  locks := (databases.map DatabaseItem.locks).sum

structure GroupCard where
  inst : InstanceRecord
  databases : List DatabaseItem
  additionalDatabases : List DatabaseItem
  databaseCount : Nat
  discoveredDatabases : List DatabaseCounts
  discoveryError : Option String
  serverOverview : Option ServerOverview
  canOperateInstance : Bool
  aggregate : Aggregate
  status : CardStatus
  deriving DecidableEq, Repr

def groupInstances (groupId : Nat) : List InstanceRecord :=
  orderBy (nameOrder lib)
    ((accessibleInstances t user instances).filter fun record =>
      record.connectionGroup == groupId)

def cardStatus (databases : List DatabaseItem) : CardStatus :=
  if (aggregateOf databases).locks ≠ 0 then .critical
  else if databases.any fun item => !item.reachable then .warning
  else .healthy

def groupCardOf (canOperateInstance : Bool) (first : InstanceRecord)
    (databases : List DatabaseItem) (overview : Except Exn ServerOverview) :
    Except Exn GroupCard :=
  let card : GroupCard :=
    { inst := first
      databases := databases.take 6
      additionalDatabases := databases.drop 6
      databaseCount := databases.length
      discoveredDatabases := []
      discoveryError := none
      serverOverview := none
      canOperateInstance := canOperateInstance
      aggregate := aggregateOf databases
      status := cardStatus databases }
  match overview with
  | .ok overview =>
      let registeredNames := databases.map fun item => item.inst.dbName
      .ok { card with
        serverOverview := some overview
        discoveredDatabases := overview.databases.filter fun item =>
          !registeredNames.contains item.name
        status := if overview.locks ≠ 0 then .critical else card.status }
  | .error (.connectionError message) =>
      .ok { card with discoveryError := some message }
  | .error e => .error e

def groupCard (calls : InstanceRecord → CardCalls) (groupId : Nat) :
    Except Exn GroupCard :=
  let members := groupInstances lib t user instances groupId
  match members with
  | [] => .error (.http404 "Instance group not found")
  | first :: _ => do
      let databases ← members.mapM fun record =>
        databaseItem lib drivers (calls record).toCatalogCalls record
      groupCardOf (canOperateInstance t user first.target) first databases
        (fetchServerOverview drivers (calls first).toOverviewCalls first.target)

/-! ## What the cards show -/

section Pages

variable {lib : OverviewLibrary} {drivers : Drivers} {t : AccessTables}
  {user : Account} {instances : InstanceTable} {links : List DashboardLink}
  {groupId : Nat}

theorem orderBy_perm (order : InstanceRecord → InstanceRecord → Ordering)
    (records : List InstanceRecord) : (orderBy order records).Perm records :=
  List.mergeSort_perm _ _

def grouped (lib : OverviewLibrary) (t : AccessTables) (user : Account)
    (instances : InstanceTable) : Dict Nat (List InstanceRecord) :=
  group InstanceRecord.connectionGroup
    (orderBy (groupOrder lib) (accessibleInstances t user instances))

theorem groupInstances_perm (groupId : Nat) :
    (groupInstances lib t user instances groupId).Perm
    ((accessibleInstances t user instances).filter fun record =>
      decide (record.connectionGroup = groupId)) :=
  orderBy_perm _ _

theorem mem_groupInstances {record : InstanceRecord} :
    record ∈ groupInstances lib t user instances groupId ↔
      record ∈ accessibleInstances t user instances ∧
        record.connectionGroup = groupId := by
  rw [(groupInstances_perm _).mem_iff, List.mem_filter, decide_eq_true_eq]

def GroupCard.items (card : GroupCard) : List DatabaseItem :=
  card.databases ++ card.additionalDatabases

structure CardShows (lib : OverviewLibrary) (drivers : Drivers)
    (calls : InstanceRecord → CardCalls) (members : List InstanceRecord)
    (card : GroupCard) : Prop where
  each_member : card.items.map DatabaseItem.inst = members
  own_server : ∀ item ∈ card.items, databaseItem lib drivers
    (calls item.inst).toCatalogCalls item.inst = .ok item
  counted : card.databaseCount = members.length
  short : card.databases.length ≤ 6
  sessions : card.aggregate.active + card.aggregate.idle = card.aggregate.total
  critical_iff : card.status = .critical ↔
    (∃ item ∈ card.items, item.locks ≠ 0) ∨
      ∃ overview, card.serverOverview = some overview ∧ overview.locks ≠ 0
  warning_iff : card.status = .warning ↔ card.status ≠ .critical ∧
    ∃ item ∈ card.items, item.reachable = false
  discovered_iff : ∀ database, database ∈ card.discoveredDatabases ↔
    ∃ overview, card.serverOverview = some overview ∧
      database ∈ overview.databases ∧
      ∀ record ∈ members, record.dbName ≠ database.name

end Pages

def quietCalls : CardCalls where
  activity := .ok []
  lockCatalog := .ok []
  fallbackCatalog := .ok []
  databases := .ok ["orders"]
  activityCounts := .ok []
  lockCounts := .ok []

end HealthGrid.Views.Overview
