import HealthGrid.Registry.Requests

/-!
# Databases of a connection group

Each row stands for one database of its group.  The add form compares the
submitted names with the stored ones, not with each other.
-/

namespace HealthGrid.Registry

open HealthGrid.Foundation HealthGrid.Foundation.PyText HealthGrid.Access

/-- A POST of the add form and the group that `uuid.uuid4()` would draw. -/
structure AddPost where
  requester : Requester
  form : Form
  group : Nat

def AddPost.call (post : AddPost) : RegistryCall :=
  ⟨post.requester, .addInstance post.form post.group⟩

def isFresh (instances : InstanceTable) (group : Nat) : Bool :=
  instances.rows.all fun row => row.connectionGroup != group

/-- `uuid.uuid4()` draws no group twice. -/
def addStep (lib : Libraries) (s : RegistryState) (post : AddPost) :
    Option RegistryState :=
  if isFresh s.instances post.group then some (serve lib post.call s) else none

def NoTwins (s : RegistryState) : Prop :=
  ∀ row ∈ s.instances.rows, ∀ row' ∈ s.instances.rows,
    row.connectionGroup = row'.connectionGroup → row.dbName = row'.dbName →
      row = row'

def RepeatsName (lib : Libraries) (s : RegistryState) (post : AddPost) : Prop :=
  post.requester.user.isActive = true ∧ ¬ (databaseNames post.form).Nodup ∧
    ∃ targets, newTargets lib.registry post.requester post.form s.instances
      post.group = .ok targets

/-! ## Rows as databases -/

def InstanceRecord.database (record : InstanceRecord) : Nat × String :=
  (record.connectionGroup, record.dbName)

variable {lib : Libraries} {s s₀ : RegistryState} {post : AddPost}
  {posts : List AddPost}

theorem noTwins_iff :
    NoTwins s ↔ (s.instances.rows.map InstanceRecord.database).Nodup := by
  constructor
  · intro h
    refine List.Nodup.map_on ?_ (List.Nodup.of_map _ s.instances.pk_nodup)
    intro row hmem row' hmem' heq
    exact h row hmem row' hmem' (congrArg Prod.fst heq) (congrArg Prod.snd heq)
  · intro h row hmem row' hmem' hgroup hname
    exact List.inj_on_of_nodup_map h hmem hmem' (Prod.ext hgroup hname)

theorem targets_databases (names : List String) (common : InstanceRecord) :
    (names.map (forDatabase common)).map InstanceRecord.database =
      names.map fun name => (common.connectionGroup, name) := by
  rw [List.map_map]
  rfl

theorem accepted_not_registered {source : Option InstanceRecord}
    {control : ControlValues} {common row : InstanceRecord} {name : String}
    (h : Accepted lib.registry post.requester post.form s.instances post.group
      source control common)
    (hfresh : isFresh s.instances post.group = true)
    (hname : name ∈ databaseNames post.form) (hmem : row ∈ s.instances.rows) :
    row.database ≠ (common.connectionGroup, name) := by
  intro heq
  obtain ⟨hgroup, rfl⟩ := Prod.mk.inj heq
  cases source with
  | none =>
      rw [(commonFields_none h.hcommon).1] at hgroup
      simpa [hgroup] using List.all_eq_true.mp hfresh row hmem
  | some source =>
      rw [(commonFields_some h.hcommon).1] at hgroup
      have hnone := h.hduplicates source rfl
      rw [duplicateNames, sorted_eq_nil, List.dedup_eq_nil,
        List.filter_eq_nil_iff] at hnone
      refine hnone row.dbName hname (List.any_eq_true.mpr ⟨row, hmem, ?_⟩)
      simp [hgroup]

theorem added_nodup_iff {targets : List InstanceRecord} (h : NoTwins s)
    (hfresh : isFresh s.instances post.group = true)
    (htargets : newTargets lib.registry post.requester post.form s.instances
      post.group = .ok targets) :
    ((insertRecords s.instances targets).rows.map
        InstanceRecord.database).Nodup ↔ (databaseNames post.form).Nodup := by
  obtain ⟨source, control, common, haccepted, rfl⟩ := newTargets_ok htargets
  have hinjective : Function.Injective fun name : String =>
      (common.connectionGroup, name) := fun _ _ heq => congrArg Prod.snd heq
  rw [insertRecords_map _ (fun _ _ => rfl), targets_databases,
    List.nodup_append', List.nodup_map_iff hinjective]
  constructor
  · exact fun hall => hall.2.1
  · intro hnames
    refine ⟨noTwins_iff.mp h, hnames, ?_⟩
    intro database hstored hadded
    obtain ⟨row, hmem, rfl⟩ := List.mem_map.mp hstored
    obtain ⟨name, hname, heq⟩ := List.mem_map.mp hadded
    exact accepted_not_registered haccepted hfresh hname hmem heq.symm

/-! ## Runs of the add form -/

theorem noTwins_step (h : NoTwins s)
    (hfresh : isFresh s.instances post.group = true)
    (hpost : ¬ RepeatsName lib s post) : NoTwins (serve lib post.call s) := by
  by_cases hactive : post.requester.user.isActive = true
  · have hend := serve_end lib post.call s
    rw [noTwins_iff]
    generalize (serve lib post.call s).instances = after at hend ⊢
    unfold AddPost.call at hend
    cases hend with
    | unchanged => exact noTwins_iff.mp h
    | added htargets =>
        rw [added_nodup_iff h hfresh htargets]
        by_contra hrepeats
        exact hpost ⟨hactive, hrepeats, _, htargets⟩
  · rw [serve_inactive s hactive]
    exact h

theorem repeatsName_breaks (h : NoTwins s)
    (hfresh : isFresh s.instances post.group = true)
    (hpost : RepeatsName lib s post) : ¬ NoTwins (serve lib post.call s) := by
  obtain ⟨hactive, hrepeats, targets, htargets⟩ := hpost
  have hserve : (serve lib post.call s).instances =
      insertRecords s.instances targets := by
    refine serve_ok hactive (by rw [AddPost.call, answer]) ?_
    rw [addInstance, htargets]
    rfl
  rw [noTwins_iff, hserve, added_nodup_iff h hfresh htargets]
  exact hrepeats

theorem databases_registered_once (hempty : s₀.instances.rows = [])
    (run : Run (Enabled (addStep lib)) s₀ posts s) :
    Always (addStep lib) NoTwins s₀ posts ↔
      Run (Guarded (fun s post => ¬ RepeatsName lib s post)
        (Enabled (addStep lib))) s₀ posts s := by
  have hstart : NoTwins s₀ := by
    intro row hmem
    rw [hempty] at hmem
    cases hmem
  refine always_iff_guarded ?_ ?_ hstart run
  · intro s post s' h hpost hstep
    obtain ⟨hfresh, hserve⟩ := Option.ite_none_right_eq_some.mp hstep
    cases hserve
    exact noTwins_step h hfresh hpost
  · intro s post s' h hpost hstep
    obtain ⟨hfresh, hserve⟩ := Option.ite_none_right_eq_some.mp hstep
    cases hserve
    exact repeatsName_breaks h hfresh (not_not.mp hpost)

/-! ## A database named twice -/

def sampleForm (fields : List (String × String)) : Form :=
  fun key => fields.lookup key

def ordersPost (databases : String) : AddPost where
  requester := operator
  form := sampleForm [("name", "orders"), ("db_identifier", "orders-db"),
    ("host", "orders.example"), ("username", "app"), ("password", "secret"),
    ("database_names", databases)]
  group := 1

theorem database_registered_twice :
    ¬ Always (addStep openLibraries) NoTwins noInstances
      [ordersPost "orders, orders"] := by
  intro halways
  refine repeatsName_breaks ?_ rfl ?_ (halways _ [] _ rfl (.single rfl))
  · intro row hmem
    cases hmem
  · exact ⟨rfl, by decide, _, rfl⟩

def extensionPost (databases : String) : AddPost where
  requester := operator
  form := sampleForm [("extend_instance", "0"), ("database_names", databases)]
  group := 2

theorem databases_registered_in_turn :
    Always (addStep openLibraries) NoTwins noInstances
      [ordersPost "orders, billing", extensionPost "audit"] := by
  let registered := serve openLibraries (ordersPost "orders, billing").call
    noInstances
  have hfirst : addStep openLibraries noInstances
      (ordersPost "orders, billing") = some registered := if_pos rfl
  have hsecond : addStep openLibraries registered (extensionPost "audit") =
      some (serve openLibraries (extensionPost "audit").call registered) :=
    if_pos (by decide +kernel)
  refine (databases_registered_once rfl ((Run.single hfirst).snoc hsecond)).mpr
    ((Run.single ⟨?_, hfirst⟩).snoc ⟨?_, hsecond⟩)
  · rintro ⟨-, hrepeats, -⟩
    exact hrepeats (by decide)
  · rintro ⟨-, hrepeats, -⟩
    exact hrepeats (by decide)

/-- The extension is accepted, and its row joins the group of the first. -/
example : (serve openLibraries (extensionPost "audit").call
    (serve openLibraries (ordersPost "orders, billing").call
      noInstances)).instances.rows.map InstanceRecord.database =
        [(1, "orders"), (1, "billing"), (1, "audit")] := by
  decide +kernel

end HealthGrid.Registry
