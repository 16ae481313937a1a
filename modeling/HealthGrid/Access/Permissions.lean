import HealthGrid.Db.Connection
import HealthGrid.Foundation.Dict

/-!
# Accounts and permissions

`monitor/permissions.py` over the tables that it reads.  Rows are keyed as
their unique constraints say: instance access by user and instance, scope and
slot access by user.
-/

namespace HealthGrid.Access

open HealthGrid.Foundation

structure Account where
  pk : Nat
  username : String
  isActive : Bool
  isStaff : Bool
  isSuperuser : Bool
  deriving DecidableEq, Repr

/-- Usernames are unique among all accounts. -/
instance : OpenRow Account String where
  pk := Account.pk
  key := Account.username
  isOpen _ := true

inductive Role where
  | readonly
  | operator
  deriving DecidableEq, Repr

structure UserInstanceAccess where
  role : Role
  canManageNotifications : Bool
  deriving DecidableEq, Repr

structure UserInstanceAccessScope where
  canManageGlobalNotifications : Bool
  deriving DecidableEq, Repr

structure ReplicationSlotAccess where
  canDrop : Bool
  canTerminate : Bool
  deriving DecidableEq, Repr

structure AccessTables where
  accounts : OpenTable Account
  instanceAccess : Dict (Nat × Nat) UserInstanceAccess
  scopes : Dict Nat UserInstanceAccessScope
  slotAccess : Dict Nat ReplicationSlotAccess
  queryRunnerGrants : List (Nat × Nat)

/-- What `instance_role` answers, when it is not `None`. -/
inductive InstanceRole where
  | administrator
  | operator
  | readonly
  deriving DecidableEq, Repr

def Role.toInstanceRole : Role → InstanceRole
  | .readonly => .readonly
  | .operator => .operator

inductive SlotAction where
  | drop
  | terminate
  deriving DecidableEq, Repr

def ReplicationSlotAccess.allows (access : ReplicationSlotAccess) :
    SlotAction → Bool
  | .drop => access.canDrop
  | .terminate => access.canTerminate

variable (t : AccessTables) (user : Account) (inst : RDSInstance)

def hasScope : Bool :=
  (t.scopes.get? user.pk).isSome ||
    t.instanceAccess.keys.any fun key => key.1 == user.pk

def instanceRole : Option InstanceRole :=
  if !user.isActive then none
  else if user.isSuperuser then some .administrator
  else
    match t.instanceAccess.get? (user.pk, inst.pk) with
    | some grant => some grant.role.toInstanceRole
    | none =>
        if hasScope t user then none
        else if user.isStaff then some .operator else some .readonly

def canViewInstance : Bool := (instanceRole t user inst).isSome

def canOperateInstance : Bool :=
  instanceRole t user inst == some .administrator ||
    instanceRole t user inst == some .operator

def canManageInstanceNotifications : Bool :=
  if !user.isActive then false
  else if user.isSuperuser then true
  else if !hasScope t user then user.isStaff
  else
    t.instanceAccess.get? (user.pk, inst.pk) == some ⟨.operator, true⟩

def canManageGlobalNotifications : Bool :=
  if !(user.isActive && user.isStaff) then false
  else if user.isSuperuser then true
  else
    match t.scopes.get? user.pk with
    | none => true
    | some scope => scope.canManageGlobalNotifications

def canRunQueries : Bool :=
  if !user.isActive then false
  else if !inst.queryRunnerEnabled then false
  else if user.isSuperuser then true
  else t.queryRunnerGrants.contains (user.pk, inst.pk)

def canManageReplicationSlot (action : SlotAction) : Bool :=
  if !(user.isActive && user.isStaff) then false
  else if user.isSuperuser then true
  else
    match t.slotAccess.get? user.pk with
    | none => false
    | some access => access.allows action

/-- What `_require_administrator` asks for. -/
def isAdministrator : Bool :=
  user.isActive && user.isStaff && user.isSuperuser

end HealthGrid.Access
