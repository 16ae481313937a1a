import HealthGrid.Access.Demotion

/-!
# Who may use the query runner

A grant is a row of the access tables.  Over any requests to the mutating
routes, such a row stands exactly when the last decision about it, always an
Administrator's, was to grant it, and a statement is run for an account only
while it stands.
-/

namespace HealthGrid.Access

open HealthGrid.Foundation HealthGrid.Db

/-! ## Visits -/

structure Visit where
  registry : Registry
  request : Request

def Visit.performer? (visit : Visit) : Option Account :=
  match visit.registry.tables.accounts.findPk? visit.request.requester with
  | none => none
  | some user =>
      match visit.request.route.check visit.registry user with
      | .error _ => none
      | .ok () =>
          if user.isActive && visit.request.accepted then some user else none

def Route.decision? (r : Registry) (userPk inst : Nat) : Route → Option Bool
  | .grantQueryRunner inst' username =>
      match r.tables.accounts.findOpen? username with
      | none => none
      | some target =>
          if !target.isSuperuser && target.pk == userPk && inst' == inst then
            some true
          else none
  | .revokeQueryRunner inst' userPk' =>
      if userPk' == userPk && inst' == inst then some false else none
  | .removeInstances _ removed =>
      if removed.contains inst then some false else none
  | _ => none

def Visit.decision? (userPk inst : Nat) (visit : Visit) : Option Bool :=
  visit.performer?.bind fun _ =>
    visit.request.route.decision? visit.registry userPk inst

section Runs

variable (lib : ManagementLibrary)

def after (r : Registry) (requests : List Request) : Registry :=
  requests.foldl (fun r request => (respond lib r request).1) r

def visits : Registry → List Request → List Visit
  | _, [] => []
  | r, request :: requests =>
      ⟨r, request⟩ :: visits (respond lib r request).1 requests

def Visit.operations (visit : Visit) : List Operation :=
  (respond lib visit.registry visit.request).2

def Visit.RunsStatement (visit : Visit) (inst : Nat) : Prop :=
  .previewStatement inst ∈ visit.operations lib ∨
    .commitStatement inst ∈ visit.operations lib

/-- An Administrator granted it, and nobody has decided about it since. -/
def Delegated (before : List Visit) (userPk inst : Nat) : Prop :=
  ∃ front visit administrator later,
    before = front ++ visit :: later ∧
      visit.performer? = some administrator ∧
      isAdministrator administrator = true ∧
      visit.decision? userPk inst = some true ∧
      ∀ visit' ∈ later, visit'.decision? userPk inst = none

def withoutGrants (r : Registry) : Registry :=
  { r with tables := { r.tables with queryRunnerGrants := [] } }

end Runs

/-! ## One request -/

section Requests

variable {lib : ManagementLibrary} {r : Registry} {request : Request}
  {visit : Visit} {user : Account} {userPk inst : Nat}

theorem respond_eq : respond lib r request =
    match (⟨r, request⟩ : Visit).performer? with
    | none => (r, [])
    | some user => request.route.perform lib r user := by
  unfold respond Visit.performer?
  dsimp only
  cases r.tables.accounts.findPk? request.requester with
  | none => rfl
  | some user =>
      dsimp only
      cases user.isActive <;> cases request.route.check r user <;>
        cases request.accepted <;> rfl

theorem performer_checked (h : visit.performer? = some user) :
    user.isActive = true ∧
      visit.request.route.check visit.registry user = .ok () := by
  unfold Visit.performer? at h
  split at h
  · cases h
  · split at h
    · cases h
    · rename_i hcheck
      rw [Option.ite_none_right_eq_some, Option.some.injEq] at h
      obtain ⟨haccepted, rfl⟩ := h
      exact ⟨(Bool.and_eq_true_iff.mp haccepted).1, hcheck⟩

theorem manage_grants {t : AccessTables} {request : ManagementRequest} :
    (manage lib t request).queryRunnerGrants = t.queryRunnerGrants := by
  have hend : ManagementEnd lib t request (manage lib t request) := manage_end
  generalize manage lib t request = t' at hend ⊢
  cases hend <;> rfl

def Grantable (r : Registry) (username : String) (userPk : Nat) : Prop :=
  ∃ target, r.tables.accounts.findOpen? username = some target ∧
    target.isSuperuser = false ∧ target.pk = userPk

theorem mem_withQueryRunnerGrant {inst' : Nat} {username : String} :
    (userPk, inst) ∈
        (withQueryRunnerGrant r inst' username).queryRunnerGrants ↔
      (Grantable r username userPk ∧ inst' = inst) ∨
        (userPk, inst) ∈ r.tables.queryRunnerGrants := by
  unfold withQueryRunnerGrant Grantable
  cases r.tables.accounts.findOpen? username with
  | none => simp
  | some target =>
      cases htarget : target.isSuperuser with
      | true => simp [htarget]
      | false =>
          have hgranted : (∃ target', some target = some target' ∧
              target'.isSuperuser = false ∧ target'.pk = userPk) ∧
                inst' = inst ↔ (userPk, inst) = (target.pk, inst') := by
            constructor
            · rintro ⟨⟨target', hsame, -, rfl⟩, rfl⟩
              cases hsame
              rfl
            · intro hpair
              cases hpair
              exact ⟨⟨target, rfl, htarget, rfl⟩, rfl⟩
          rw [hgranted]
          dsimp only
          rw [htarget, if_neg Bool.false_ne_true]
          by_cases hheld : (target.pk, inst') ∈ r.tables.queryRunnerGrants
          · rw [if_pos (List.contains_iff_mem.mpr hheld)]
            exact (or_iff_right_of_imp fun heq => heq ▸ hheld).symm
          · simp [hheld, or_comm]

theorem grant_decision {inst' : Nat} {username : String} {granted : Bool} :
    (Route.grantQueryRunner inst' username).decision? r userPk inst =
        some granted ↔
      granted = true ∧ Grantable r username userPk ∧ inst' = inst := by
  unfold Grantable
  dsimp only [Route.decision?]
  cases r.tables.accounts.findOpen? username with
  | none => simp
  | some target => cases granted <;> simp [and_assoc]

theorem mem_grants_respond :
    (userPk, inst) ∈ (respond lib r request).1.tables.queryRunnerGrants ↔
      match (⟨r, request⟩ : Visit).decision? userPk inst with
      | some granted => granted = true
      | none => (userPk, inst) ∈ r.tables.queryRunnerGrants := by
  rw [respond_eq, Visit.decision?]
  cases (⟨r, request⟩ : Visit).performer? with
  | none => rfl
  | some user =>
      rw [Option.bind_some]
      cases hroute : request.route with
      | userManagement activeInstances form =>
          dsimp only [Route.perform, Route.decision?]
          rw [manage_grants]
      | grantQueryRunner inst' username =>
          dsimp only [Route.perform]
          rw [mem_withQueryRunnerGrant]
          cases hdecision :
            (Route.grantQueryRunner inst' username).decision? r userPk inst with
          | none =>
              have hno : ¬ (Grantable r username userPk ∧ inst' = inst) := by
                intro hgrant
                rw [grant_decision.mpr ⟨rfl, hgrant⟩] at hdecision
                cases hdecision
              exact or_iff_right hno
          | some granted =>
              obtain ⟨htrue, hgrant⟩ := grant_decision.mp hdecision
              simp [htrue, hgrant]
      | revokeQueryRunner inst' userPk' =>
          by_cases hsame : userPk' = userPk ∧ inst' = inst
          · simp [Route.perform, Route.decision?, hsame]
          · have hne : (userPk, inst) ≠ (userPk', inst') := by
              rintro heq
              cases heq
              exact hsame ⟨rfl, rfl⟩
            simp [Route.perform, Route.decision?, hsame, hne]
      | removeInstances inst' removed =>
          by_cases hremoved : inst ∈ removed <;>
            simp [Route.perform, Route.decision?, withoutInstances, hremoved]
      | replicationSlot action inst' => cases action <;> rfl
      | _ => rfl

theorem decision_administrator {granted : Bool}
    (h : visit.decision? userPk inst = some granted) :
    ∃ administrator, visit.performer? = some administrator ∧
      isAdministrator administrator = true := by
  obtain ⟨user, hperformer, hdecision⟩ := Option.bind_eq_some_iff.mp h
  refine ⟨user, hperformer, ?_⟩
  have hcheck := (performer_checked hperformer).2
  cases hroute : visit.request.route with
  | grantQueryRunner | revokeQueryRunner | removeInstances =>
      rw [hroute] at hcheck
      dsimp only [Route.check] at hcheck
      obtain ⟨_, hadministrator, _⟩ := of_bind_eq_ok hcheck
      exact requireAdministrator_ok hadministrator
  | _ =>
      rw [hroute] at hdecision
      cases hdecision

theorem respond_tables (h : (respond lib r request).1.tables ≠ r.tables) :
    ∃ administrator, (⟨r, request⟩ : Visit).performer? = some administrator ∧
      isAdministrator administrator = true := by
  rw [respond_eq] at h
  cases hperformer : (⟨r, request⟩ : Visit).performer? with
  | none =>
      rw [hperformer] at h
      exact absurd rfl h
  | some user =>
      refine ⟨user, rfl, ?_⟩
      rw [hperformer] at h
      have hcheck := (performer_checked hperformer).2
      dsimp only at h hcheck
      cases hroute : request.route with
      | grantQueryRunner | revokeQueryRunner | removeInstances =>
          rw [hroute] at hcheck
          dsimp only [Route.check] at hcheck
          obtain ⟨_, hadministrator, _⟩ := of_bind_eq_ok hcheck
          exact requireAdministrator_ok hadministrator
      | userManagement =>
          rw [hroute] at hcheck
          exact requireAdministrator_ok hcheck
      | replicationSlot action =>
          rw [hroute] at h
          cases action <;> exact absurd rfl h
      | _ =>
          rw [hroute] at h
          exact absurd rfl h

theorem canRunQueries_cases {t : AccessTables} {record : RDSInstance}
    (h : canRunQueries t user record = true) :
    record.queryRunnerEnabled = true ∧
      (user.isSuperuser = true ∨ (user.pk, record.pk) ∈ t.queryRunnerGrants) := by
  unfold canRunQueries at h
  split at h
  · cases h
  · split at h
    · cases h
    · rename_i henabled
      refine ⟨by simpa using henabled, ?_⟩
      split at h
      · exact .inl ‹_›
      · exact .inr (List.contains_iff_mem.mp h)

theorem runsStatement_granted (h : visit.RunsStatement lib inst) :
    ∃ user, visit.performer? = some user ∧
      (∃ record ∈ visit.registry.instances.rows, record.pk = inst ∧
        record.queryRunnerEnabled = true) ∧
      (user.isSuperuser = true ∨
        (user.pk, inst) ∈ visit.registry.tables.queryRunnerGrants) := by
  obtain ⟨r, request⟩ := visit
  unfold Visit.RunsStatement Visit.operations at h
  dsimp only at h
  rw [respond_eq] at h
  cases hperformer : (⟨r, request⟩ : Visit).performer? with
  | none => simp [hperformer] at h
  | some user =>
      rw [hperformer] at h
      have hcheck := (performer_checked hperformer).2
      have hguard : (do
          let record ← getInstance r inst
          requireQueryRunner r.tables user record) = .ok () := by
        dsimp only at hcheck h
        cases hroute : request.route with
        | previewQuery | commitQuery =>
            rw [hroute] at h hcheck
            simp only [Route.perform, List.mem_singleton,
              Operation.previewStatement.injEq, Operation.commitStatement.injEq,
              reduceCtorEq, or_false, false_or] at h
            subst h
            exact hcheck
        | replicationSlot action =>
            rw [hroute] at h
            cases action <;> simp [Route.perform] at h
        | _ =>
            rw [hroute] at h
            simp [Route.perform] at h
      obtain ⟨record, hrecord, hguard⟩ := of_bind_eq_ok hguard
      have hfound : record ∈ r.instances.rows ∧ record.pk = inst := by
        unfold getInstance at hrecord
        split at hrecord
        · cases hrecord
        · rename_i hfind
          cases hrecord
          exact OpenTable.findPk?_eq_some.mp hfind
      obtain ⟨henabled, hallowed⟩ :=
        canRunQueries_cases (requireQueryRunner_ok hguard).2
      refine ⟨user, rfl, ⟨record, hfound.1, hfound.2, henabled⟩, ?_⟩
      rw [← hfound.2]
      exact hallowed

end Requests

/-! ## Runs of requests -/

section Runs

variable {lib : ManagementLibrary} {r : Registry} {request : Request}
  {requests : List Request} {userPk inst : Nat}

theorem after_snoc : after lib r (requests ++ [request]) =
    (respond lib (after lib r requests) request).1 := by
  simp [after]

theorem visits_snoc : visits lib r (requests ++ [request]) =
    visits lib r requests ++ [⟨after lib r requests, request⟩] := by
  induction requests generalizing r with
  | nil => rfl
  | cons first requests ih =>
      rw [List.cons_append, visits, visits, ih]
      rfl

theorem mem_grants_after :
    (userPk, inst) ∈
        (after lib (withoutGrants r) requests).tables.queryRunnerGrants ↔
      latest (Visit.decision? userPk inst)
        (visits lib (withoutGrants r) requests) = some true := by
  induction requests using List.reverseRecOn with
  | nil => simp [after, visits, withoutGrants, latest]
  | append_singleton requests request ih =>
      rw [after_snoc, visits_snoc, mem_grants_respond, latest_snoc]
      cases Visit.decision? userPk inst
        ⟨after lib (withoutGrants r) requests, request⟩ with
      | none => exact ih
      | some granted => simp

theorem delegated_iff_latest {before : List Visit} :
    Delegated before userPk inst ↔
      latest (Visit.decision? userPk inst) before = some true := by
  unfold latest
  rw [List.findSome?_eq_some_iff]
  constructor
  · rintro ⟨front, visit, -, later, rfl, -, -, hdecision, hnone⟩
    refine ⟨later.reverse, visit, front.reverse, by simp, hdecision, ?_⟩
    intro visit' hmem
    exact hnone visit' (List.mem_reverse.mp hmem)
  · rintro ⟨later, visit, front, hsplit, hdecision, hnone⟩
    obtain ⟨administrator, hperformer, hadministrator⟩ :=
      decision_administrator hdecision
    refine ⟨front.reverse, visit, administrator, later.reverse, ?_, hperformer,
      hadministrator, hdecision, ?_⟩
    · rw [← List.reverse_reverse before, hsplit]
      simp
    · intro visit' hmem
      exact hnone visit' (List.mem_reverse.mp hmem)

end Runs

/--
Over any requests from a registry without grants, a statement is executed on
an instance only for an Administrator's account or under a grant that an
Administrator made and nobody has withdrawn since; a grant stands exactly while
that is so, and only Administrators change any access table.
-/
theorem query_runner_use_is_delegated (lib : ManagementLibrary) (r : Registry)
    (requests : List Request) :
    let trace := visits lib (withoutGrants r) requests
    EachAfter (fun before visit =>
      (∀ inst, visit.RunsStatement lib inst →
        ∃ user, visit.performer? = some user ∧
          (∃ record ∈ visit.registry.instances.rows, record.pk = inst ∧
            record.queryRunnerEnabled = true) ∧
          (user.isSuperuser = true ∨ Delegated before user.pk inst)) ∧
      (∀ userPk inst,
        (userPk, inst) ∈ visit.registry.tables.queryRunnerGrants ↔
          Delegated before userPk inst) ∧
      ((respond lib visit.registry visit.request).1.tables ≠
          visit.registry.tables →
        ∃ administrator, visit.performer? = some administrator ∧
          isAdministrator administrator = true)) trace := by
  intro trace
  induction requests using List.reverseRecOn with
  | nil => exact eachAfter_nil
  | append_singleton requests request ih =>
      rw [show trace = _ from visits_snoc]
      have hgrants : ∀ userPk inst, (userPk, inst) ∈
          (after lib (withoutGrants r) requests).tables.queryRunnerGrants ↔
            Delegated (visits lib (withoutGrants r) requests) userPk inst :=
        fun userPk inst => mem_grants_after.trans delegated_iff_latest.symm
      refine EachAfter.snoc ih ⟨?_, hgrants, respond_tables⟩
      intro inst hruns
      obtain ⟨user, hperformer, hrecord, hallowed⟩ := runsStatement_granted hruns
      exact ⟨user, hperformer, hrecord,
        hallowed.imp_right (hgrants user.pk inst).mp⟩

end HealthGrid.Access
