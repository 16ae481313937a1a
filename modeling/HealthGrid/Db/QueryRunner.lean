import HealthGrid.Db.Connection
import HealthGrid.Foundation.PyText

/-!
# Preview and commit of a write statement

The target is described by what a statement does to its data; every driver
call has an arbitrary outcome.  On an autocommit connection a statement takes
effect when it is executed.  On a connection left at psycopg2's default it
opens a transaction, which `commit` makes durable, `rollback` undoes, and
closing the connection abandons.  A `commit` that raises has committed nothing
that was still in the transaction.
-/

namespace HealthGrid.Db

open HealthGrid.Foundation

variable {Data : Type}

/-- `^\s*(INSERT|UPDATE)\s`, ignoring case. -/
def writeStatementRe (text : List Char) : Bool :=
  let text := text.dropWhile PyText.isSpace
  ["insert", "update"].any fun keyword =>
    match PyText.dropKeyword? keyword.toList text with
    | some (c :: _) => PyText.isSpace c
    | _ => false

def validateWriteStatement (sql : String) : Except Exn String :=
  let statement := PyText.strip sql.toList
  if statement = [] then
    .error (.queryValidationError "Enter a query to run.")
  else if !writeStatementRe statement then
    .error (.queryValidationError
      "Only INSERT or UPDATE statements are allowed.")
  else
    let body :=
      if statement.getLast? = some ';' then statement.dropLast else statement
    if ';' ∈ body then
      .error (.queryValidationError
        "Only a single statement is allowed — remove the extra ';'.")
    else .ok (String.ofList body)

/-- The committed data, and what the connection's open transaction sees. -/
structure TargetSession (Data : Type) where
  data : Data
  work : Option Data

structure QueryRunnerCalls where
  execute : Except String Int
  commit : Except String Unit
  rollback : Except String Unit
  handlerRollback : Except String Unit
  deriving Repr

/-- `cur.execute(statement)` followed by `cur.rowcount`. -/
def execute (effect : String → Data → Data) (conn : ConnectArgs)
    (statement : String) (outcome : Except String Int) :
    Call Exn (TargetSession Data) Int :=
  match outcome with
  | .error message => Call.raise (.driverError message)
  | .ok rowcount => do
      Call.modify fun s =>
        if conn.autocommit then { s with data := effect statement s.data }
        else { s with work := some (effect statement (s.work.getD s.data)) }
      pure rowcount

def rollback (outcome : Except String Unit) :
    Call Exn (TargetSession Data) Unit :=
  match outcome with
  | .error message => Call.raise (.driverError message)
  | .ok () => Call.modify fun s => { s with work := none }

def commit (outcome : Except String Unit) :
    Call Exn (TargetSession Data) Unit :=
  match outcome with
  | .error message => do
      Call.modify fun s => { s with work := none }
      Call.raise (.driverError message)
  | .ok () => Call.modify fun s => ⟨s.work.getD s.data, none⟩

/-- A call on a fresh connection; only what it made durable stays. -/
def withConnection {α : Type} (call : Call Exn (TargetSession Data) α) :
    Call Exn Data α :=
  fun data => ((call ⟨data, none⟩).1, (call ⟨data, none⟩).2.data)

def rollbackAndRaise {α : Type} (calls : QueryRunnerCalls) (exc : Exn) :
    Call Exn (TargetSession Data) α := do
  Call.tryExcept (rollback calls.handlerRollback) fun _ => pure ()
  Call.raise (.connectionError exc.str)

def closeConnection (s : TargetSession Data) : TargetSession Data :=
  { s with work := none }

def previewWriteQuery (drivers : Drivers) (effect : String → Data → Data)
    (calls : QueryRunnerCalls) (inst : RDSInstance) (sql : String) :
    Call Exn Data (String × Int) := do
  let statement ← Call.ofExcept (validateWriteStatement sql)
  let conn ← Call.ofExcept (getQueryRunnerConnection drivers inst)
  withConnection <| Call.tryFinally
    (Call.tryExcept
      (do
        let rowcount ← execute effect conn statement calls.execute
        rollback calls.rollback
        pure (statement, rowcount))
      (rollbackAndRaise calls))
    closeConnection

def commitWriteQuery (drivers : Drivers) (effect : String → Data → Data)
    (calls : QueryRunnerCalls) (inst : RDSInstance) (sql : String) :
    Call Exn Data Int := do
  let statement ← Call.ofExcept (validateWriteStatement sql)
  let conn ← Call.ofExcept (getQueryRunnerConnection drivers inst)
  withConnection <| Call.tryFinally
    (Call.tryExcept
      (do
        let rowcount ← execute effect conn statement calls.execute
        commit calls.commit
        pure rowcount)
      (rollbackAndRaise calls))
    closeConnection

/-! ## What one call does to the data -/

def prepare (drivers : Drivers) (inst : RDSInstance) (sql : String) :
    Except Exn (String × ConnectArgs) := do
  let statement ← validateWriteStatement sql
  let conn ← getQueryRunnerConnection drivers inst
  pure (statement, conn)

theorem prepare_eq_ok {drivers : Drivers} {inst : RDSInstance} {sql : String}
    {statement : String} {conn : ConnectArgs} :
    prepare drivers inst sql = .ok (statement, conn) ↔
      validateWriteStatement sql = .ok statement ∧
        getQueryRunnerConnection drivers inst = .ok conn := by
  unfold prepare
  cases validateWriteStatement sql with
  | error e => simp [bind, Except.bind]
  | ok body =>
      cases getQueryRunnerConnection drivers inst with
      | error e => simp [bind, Except.bind]
      | ok opened => simp [bind, Except.bind, pure, Except.pure]

section Outcomes

variable {drivers : Drivers} {effect : String → Data → Data}
  {calls : QueryRunnerCalls} {inst : RDSInstance} {sql : String}
  {data : Data}

private theorem prepared_bind {α : Type}
    (body : String → ConnectArgs → Call Exn Data α) :
    (do
      let statement ← Call.ofExcept (validateWriteStatement sql)
      let conn ← Call.ofExcept (getQueryRunnerConnection drivers inst)
      body statement conn : Call Exn Data α) data =
      match prepare drivers inst sql with
      | .error e => (.error e, data)
      | .ok (statement, conn) => body statement conn data := by
  unfold prepare
  cases hvalidate : validateWriteStatement sql with
  | error e => rfl
  | ok statement =>
      cases hconnect : getQueryRunnerConnection drivers inst with
      | error e => rfl
      | ok conn => rfl

theorem previewWriteQuery_run :
    previewWriteQuery drivers effect calls inst sql data =
      match prepare drivers inst sql with
      | .error e => (.error e, data)
      | .ok (statement, conn) =>
          match calls.execute, calls.rollback with
          | .error message, _ => (.error (.connectionError message), data)
          | .ok rowcount, .ok () =>
              (.ok (statement, rowcount),
                if conn.autocommit then effect statement data else data)
          | .ok _, .error message =>
              (.error (.connectionError message),
                if conn.autocommit then effect statement data else data) := by
  rw [previewWriteQuery, prepared_bind]
  cases prepare drivers inst sql with
  | error e => rfl
  | ok prepared =>
      obtain ⟨statement, conn⟩ := prepared
      obtain ⟨exec, done, undo, undoAgain⟩ := calls
      cases exec with
      | error message => cases undoAgain <;> rfl
      | ok rowcount =>
          cases hauto : conn.autocommit <;> cases undo <;> cases undoAgain <;>
            simp [withConnection, execute, hauto, Call.tryExcept,
              Call.bind_run, rollback, rollbackAndRaise, closeConnection,
              Exn.str]

theorem previewWriteQuery_data :
    (previewWriteQuery drivers effect calls inst sql data).2 =
      match prepare drivers inst sql with
      | .error _ => data
      | .ok (statement, conn) =>
          match calls.execute with
          | .error _ => data
          | .ok _ => if conn.autocommit then effect statement data else data := by
  rw [previewWriteQuery_run]
  cases prepare drivers inst sql with
  | error e => rfl
  | ok prepared => cases calls.execute <;> cases calls.rollback <;> rfl

theorem commitWriteQuery_run :
    commitWriteQuery drivers effect calls inst sql data =
      match prepare drivers inst sql with
      | .error e => (.error e, data)
      | .ok (statement, conn) =>
          match calls.execute, calls.commit with
          | .error message, _ => (.error (.connectionError message), data)
          | .ok rowcount, .ok () => (.ok rowcount, effect statement data)
          | .ok _, .error message =>
              (.error (.connectionError message),
                if conn.autocommit then effect statement data else data) := by
  rw [commitWriteQuery, prepared_bind]
  cases prepare drivers inst sql with
  | error e => rfl
  | ok prepared =>
      obtain ⟨statement, conn⟩ := prepared
      obtain ⟨exec, done, undo, undoAgain⟩ := calls
      cases exec with
      | error message => cases undoAgain <;> rfl
      | ok rowcount =>
          cases hauto : conn.autocommit <;> cases done <;> cases undoAgain <;>
            simp [withConnection, execute, hauto, Call.tryExcept, commit,
              Call.bind_run, rollback, rollbackAndRaise, closeConnection,
              Exn.str]

end Outcomes

end HealthGrid.Db
