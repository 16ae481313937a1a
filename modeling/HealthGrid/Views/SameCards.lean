import HealthGrid.Views.SamePages

/-!
# Cards of dashboards that look alike

A card asks the server of its instance.  Two dashboards that look alike give
the same cards, up to the message of a connection that failed.
-/

namespace HealthGrid.Views.Reading

open HealthGrid.Foundation HealthGrid.Db HealthGrid.Access HealthGrid.Registry
open HealthGrid.Views.Overview

namespace LooksAlike

variable {lib : ReadingLibrary} {drivers : Drivers} {redact : String → String}
  {user : Account} {w w' : Dashboard} {pk : Nat}

/-- `except ConnectionError`. -/
def rescue {α : Type} (onError : String → Except Exn α) :
    Except Exn α → Except Exn α
  | .error (.connectionError message) => onError message
  | result => result

theorem rescue_error {α : Type} {onError : String → Except Exn α} {e : Exn}
    (he : ∀ message, e ≠ .connectionError message) :
    rescue onError (.error e) = .error e := by
  cases e with
  | connectionError message => exact absurd rfl (he message)
  | _ => rfl

theorem of_redactError {e : Exn} {message : String}
    (h : redactError redact e = .connectionError message) :
    ∃ message', e = .connectionError message' ∧ redact message' = message := by
  cases e with
  | connectionError message' => exact ⟨message', rfl, Exn.connectionError.inj h⟩
  | _ => cases h

theorem seen_rescue {α β : Type} {r : α → β} {x y : Except Exn α}
    {onError onError' : String → Except Exn α}
    (hxy : seen (redactError redact) r x = seen (redactError redact) r y)
    (herror : ∀ message message', redact message = redact message' →
      seen (redactError redact) r (onError message) =
        seen (redactError redact) r (onError' message')) :
    seen (redactError redact) r (rescue onError x) =
      seen (redactError redact) r (rescue onError' y) := by
  cases x with
  | ok a =>
      cases y with
      | error e => cases hxy
      | ok b => exact hxy
  | error e =>
      cases y with
      | ok b => cases hxy
      | error e' =>
          have he : redactError redact e = redactError redact e' :=
            Except.error.inj hxy
          by_cases hconnection : ∃ message, e = .connectionError message
          · obtain ⟨message, rfl⟩ := hconnection
            obtain ⟨message', rfl, hmessage⟩ := of_redactError he.symm
            exact herror message message' hmessage.symm
          · have hne : ∀ message, e ≠ .connectionError message :=
              fun message hmessage => hconnection ⟨message, hmessage⟩
            have hne' : ∀ message, e' ≠ .connectionError message := by
              rintro message rfl
              obtain ⟨message', rfl, -⟩ := of_redactError he
              exact hne message' rfl
            rw [rescue_error hne, rescue_error hne']
            exact hxy

theorem fetchActivity_seen (h : LooksAlike lib drivers redact user w w')
    {record record' : InstanceRecord} (hmem : record ∈ w.viewable user)
    (hmem' : record' ∈ w'.viewable user)
    (hknown : known lib w.tables user record = known lib w.tables user record') :
    seen (redactError redact) id (fetchActivity drivers
        (w.servers record).toCatalogCalls record.target) =
      seen (redactError redact) id (fetchActivity drivers
        (w'.servers record').toCatalogCalls record'.target) := by
  have hpk := known_pk hknown
  have hengine : record.target.engine = record'.target.engine :=
    known_engine hknown
  refine seen_bind (h.connections record hmem record' hmem' hpk)
    fun _ _ _ _ _ => ?_
  unfold isMysql isMssql
  rw [h.servers record hmem record' hmem' hpk, hengine]

theorem fetchServerOverview_seen (h : LooksAlike lib drivers redact user w w')
    {record record' : InstanceRecord} (hmem : record ∈ w.viewable user)
    (hmem' : record' ∈ w'.viewable user)
    (hknown : known lib w.tables user record = known lib w.tables user record') :
    seen (redactError redact) id (fetchServerOverview drivers
        (w.servers record).toOverviewCalls record.target) =
      seen (redactError redact) id (fetchServerOverview drivers
        (w'.servers record').toOverviewCalls record'.target) := by
  have hpk := known_pk hknown
  have hengine : record.target.engine = record'.target.engine :=
    known_engine hknown
  unfold fetchServerOverview isMysql
  rw [hengine]
  split
  · rfl
  · refine seen_bind (h.connections record hmem record' hmem' hpk)
      fun _ _ _ _ _ => ?_
    rw [h.servers record hmem record' hmem' hpk]

theorem databaseItem_eq {calls : CatalogCalls} {record : InstanceRecord} :
    databaseItem lib.toOverviewLibrary drivers calls record =
      rescue (fun message => .ok ⟨record, false, 0, 0, 0, 0, some message⟩)
        (fetchActivity drivers calls record.target >>= fun result =>
          let active := activeSessions lib.toOverviewLibrary result.1
          .ok ⟨record, true, result.1.length, active, result.1.length - active,
            result.2.length, none⟩) := by
  unfold databaseItem
  cases fetchActivity drivers calls record.target with
  | ok result => rfl
  | error e => cases e <;> rfl

theorem databaseItem_seen (h : LooksAlike lib drivers redact user w w')
    {record record' : InstanceRecord} (hmem : record ∈ w.viewable user)
    (hmem' : record' ∈ w'.viewable user)
    (hknown : known lib w.tables user record = known lib w.tables user record') :
    seen (redactError redact) (fun item => redactItem redact (printedItem lib user item))
        (databaseItem lib.toOverviewLibrary drivers
          (w.servers record).toCatalogCalls record) =
      seen (redactError redact) (fun item => redactItem redact (printedItem lib user item))
        (databaseItem lib.toOverviewLibrary drivers
          (w'.servers record').toCatalogCalls record') := by
  have hprinted : printed lib user record = printed lib user record' :=
    printed_factors hknown
  rw [databaseItem_eq, databaseItem_eq]
  refine seen_rescue (seen_bind (h.fetchActivity_seen hmem hmem' hknown) ?_) ?_
  · intro result result' _ _ hresult
    obtain rfl : result = result' := hresult
    simp only [seen, redactItem, printedItem, hprinted]
  · intro message message' hmessage
    simp only [seen, redactItem, printedItem, hprinted, Option.map_some, hmessage]

theorem instanceCard_seen (h : LooksAlike lib drivers redact user w w')
    (pk : Nat) :
    seen (redactError redact) (fun card => PageAnswer.redacted redact
        (.instanceCard card)) (instanceCard lib drivers w user pk) =
      seen (redactError redact) (fun card => PageAnswer.redacted redact
        (.instanceCard card)) (instanceCard lib drivers w' user pk) := by
  refine h.seen_page pk false fun record hmem record' hmem' hknown _ => ?_
  have hoperate : canOperateInstance w.tables user record.target =
      canOperateInstance w'.tables user record'.target := by
    rw [h.operates]
    exact canOperateInstance_congr (known_pk hknown)
  refine seen_bind (h.databaseItem_seen hmem hmem' hknown)
    fun item item' _ _ hitem => ?_
  change Except.ok _ = Except.ok _
  unfold PageAnswer.redacted
  dsimp only at hitem ⊢
  rw [hitem, hoperate]

/-! ### The card of a group -/

def plainCard (canOperateInstance : Bool) (first : InstanceRecord)
    (databases : List DatabaseItem) : GroupCard where
  inst := first
  databases := databases.take 6
  additionalDatabases := databases.drop 6
  databaseCount := databases.length
  discoveredDatabases := []
  discoveryError := none
  serverOverview := none
  canOperateInstance := canOperateInstance
  aggregate := aggregateOf databases
  status := cardStatus databases

def discoveredCard (canOperateInstance : Bool) (first : InstanceRecord)
    (databases : List DatabaseItem) (overview : ServerOverview) : GroupCard :=
  let registeredNames := databases.map fun item => item.inst.dbName
  let card := plainCard canOperateInstance first databases
  { card with
    serverOverview := some overview
    discoveredDatabases := overview.databases.filter fun item =>
      !registeredNames.contains item.name
    status := if overview.locks ≠ 0 then .critical else card.status }

section Cards

variable {canOperate : Bool} {first : InstanceRecord}
  {databases : List DatabaseItem}

theorem groupCardOf_eq {overview : Except Exn ServerOverview} :
    groupCardOf canOperate first databases overview =
      rescue (fun message => .ok
          { plainCard canOperate first databases with
            discoveryError := some message })
        (overview >>= fun overview =>
          .ok (discoveredCard canOperate first databases overview)) := by
  cases overview with
  | ok overview => rfl
  | error e => cases e <;> rfl

theorem printed_plainCard :
    printedCard lib user (plainCard canOperate first databases) =
      plainCard canOperate (printed lib user first)
        (databases.map (printedRow lib user)) := by
  have haggregate : aggregateOf (databases.map (printedRow lib user)) =
      aggregateOf databases := by
    unfold aggregateOf
    simp only [List.map_map]
    rfl
  have hstatus : cardStatus (databases.map (printedRow lib user)) =
      cardStatus databases := by
    unfold cardStatus
    rw [haggregate, List.any_map]
    rfl
  unfold printedCard plainCard
  dsimp only
  rw [haggregate, hstatus, List.length_map, ← List.map_take, ← List.map_drop]

theorem printed_discoveredCard {overview : ServerOverview} :
    printedCard lib user (discoveredCard canOperate first databases overview) =
      discoveredCard canOperate (printed lib user first)
        (databases.map (printedRow lib user)) overview := by
  have hnames : (databases.map (printedRow lib user)).map
      (fun item => item.inst.dbName) =
      databases.map fun item => item.inst.dbName := by
    rw [List.map_map]
    rfl
  unfold discoveredCard
  dsimp only
  rw [hnames, ← printed_plainCard]
  rfl

theorem groupCardOf_seen {first' : InstanceRecord}
    {databases' : List DatabaseItem}
    {overview overview' : Except Exn ServerOverview}
    (hfirst : printed lib user first = printed lib user first')
    (hdatabases : databases.map (printedRow lib user) =
      databases'.map (printedRow lib user))
    (hoverview : seen (redactError redact) id overview =
      seen (redactError redact) id overview') :
    seen (redactError redact) (fun card => redactCard redact (printedCard lib user card))
        (groupCardOf canOperate first databases overview) =
      seen (redactError redact) (fun card => redactCard redact (printedCard lib user card))
        (groupCardOf canOperate first' databases' overview') := by
  have hplain : printedCard lib user (plainCard canOperate first databases) =
      printedCard lib user (plainCard canOperate first' databases') := by
    rw [printed_plainCard, printed_plainCard, hfirst, hdatabases]
  rw [groupCardOf_eq, groupCardOf_eq]
  refine seen_rescue (seen_bind hoverview ?_) ?_
  · rintro overview _ - - rfl
    simp only [seen, printed_discoveredCard, hfirst, hdatabases, id]
  · intro message message' hmessage
    change Except.ok { printedCard lib user (plainCard canOperate first databases) with
        discoveryError := some (redact message) } =
      Except.ok { printedCard lib user (plainCard canOperate first' databases') with
        discoveryError := some (redact message') }
    rw [hplain, hmessage]

end Cards

theorem known_groupInstances (h : LooksAlike lib drivers redact user w w')
    (hactive : user.isActive = true) (groupId : Nat) :
    (groupInstances lib.toOverviewLibrary w.tables user w.instances groupId).map
        (known lib w.tables user) =
      (groupInstances lib.toOverviewLibrary w'.tables user w'.instances
        groupId).map (known lib w.tables user) := by
  refine known_orderBy (nameOrder lib.toOverviewLibrary) (fun _ _ => rfl) ?_
  have hkept : ∀ w' : Dashboard,
      ((w'.accessible user).filter fun record =>
        record.connectionGroup == groupId).map (known lib w.tables user) =
      ((w'.accessible user).map (known lib w.tables user)).filter fun record =>
        record.connectionGroup == groupId := by
    intro w'
    rw [List.filter_map]
    rfl
  exact (hkept w).trans (h.known_accessible hactive ▸ (hkept w').symm)

theorem viewable_of_mem_groupInstances {w : Dashboard} {groupId : Nat}
    {record : InstanceRecord} (hactive : user.isActive = true)
    (hmem : record ∈ groupInstances lib.toOverviewLibrary w.tables user
      w.instances groupId) : record ∈ w.viewable user := by
  have haccessible := (mem_groupInstances.mp hmem).1
  rw [accessible_eq hactive] at haccessible
  exact List.mem_of_mem_filter haccessible

theorem groupCard_seen (h : LooksAlike lib drivers redact user w w')
    (hactive : user.isActive = true) (groupId : Nat) :
    seen (redactError redact) (fun card => redactCard redact (printedCard lib user card))
        (groupCard lib.toOverviewLibrary drivers w.tables user w.instances
          w.servers groupId) =
      seen (redactError redact) (fun card => redactCard redact (printedCard lib user card))
        (groupCard lib.toOverviewLibrary drivers w'.tables user w'.instances
          w'.servers groupId) := by
  have hmembers := h.known_groupInstances hactive groupId
  have hview : ∀ record ∈ groupInstances lib.toOverviewLibrary w.tables user
      w.instances groupId, record ∈ w.viewable user :=
    fun _ => viewable_of_mem_groupInstances hactive
  have hview' : ∀ record ∈ groupInstances lib.toOverviewLibrary w'.tables user
      w'.instances groupId, record ∈ w'.viewable user :=
    fun _ => viewable_of_mem_groupInstances hactive
  unfold groupCard
  dsimp only
  generalize groupInstances lib.toOverviewLibrary w.tables user w.instances
    groupId = members at hmembers hview ⊢
  generalize groupInstances lib.toOverviewLibrary w'.tables user w'.instances
    groupId = members' at hmembers hview' ⊢
  cases members with
  | nil =>
      rw [List.map_nil, eq_comm, List.map_eq_nil_iff] at hmembers
      rw [hmembers]
  | cons first rest =>
      cases members' with
      | nil => cases hmembers
      | cons first' rest' =>
          have hfirst : known lib w.tables user first =
              known lib w.tables user first' := (List.cons.inj hmembers).1
          have hpk : first.target.pk = first'.target.pk := known_pk hfirst
          have hoverview := h.fetchServerOverview_seen
            (hview first List.mem_cons_self)
            (hview' first' List.mem_cons_self) hfirst
          have hitems := seen_mapM hmembers fun record hmem record' hmem' hknown =>
            seen_comp (fun item : DatabaseItem => { item with error := none })
              (h.databaseItem_seen (hview record hmem) (hview' record' hmem')
                hknown)
          dsimp only
          rw [h.operates, canOperateInstance_congr hpk]
          exact seen_bind hitems fun databases databases' _ _ hdatabases =>
            groupCardOf_seen (printed_factors hfirst) hdatabases hoverview

end LooksAlike

end HealthGrid.Views.Reading
