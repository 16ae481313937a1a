import HealthGrid.Db.QueryRunner

/-!
# Validating a write statement twice

A preview stores the statement that `validate_write_statement` returned, and
the commit validates the stored text again.  The verb pattern is matched before
the final semicolon goes, so white space that separated the verb from the
semicolon is at the end of what is stored, and the second validation strips it.
-/

namespace HealthGrid.Db

open HealthGrid.Foundation

/-! ## The verb pattern -/

def SpellsVerb (word : List Char) : Prop :=
  ∃ keyword ∈ ["insert", "update"],
    PyText.dropKeyword? keyword.toList word = some []

theorem SpellsVerb.length {word : List Char} (h : SpellsVerb word) :
    word.length = 6 := by
  obtain ⟨keyword, hmem, hword⟩ := h
  rw [PyText.length_of_dropKeyword? hword]
  rcases List.mem_pair.mp hmem with rfl | rfl <;> rfl

theorem SpellsVerb.not_mem_semicolon {word : List Char} (h : SpellsVerb word) :
    ';' ∉ word := by
  obtain ⟨keyword, hmem, hword⟩ := h
  refine PyText.not_mem_of_dropKeyword? ?_ hword
  rcases List.mem_pair.mp hmem with rfl | rfl <;> decide

def StartsWithVerb (text : List Char) : Prop :=
  ∃ word c rest, text = word ++ c :: rest ∧ SpellsVerb word ∧
    PyText.isSpace c = true

theorem StartsWithVerb.length {text : List Char} (h : StartsWithVerb text) :
    6 < text.length := by
  obtain ⟨word, c, rest, rfl, hword, -⟩ := h
  simp only [List.length_append, List.length_cons, hword.length]
  omega

theorem StartsWithVerb.append {text : List Char} (h : StartsWithVerb text)
    (rest : List Char) : StartsWithVerb (text ++ rest) := by
  obtain ⟨word, c, tail, rfl, hword, hc⟩ := h
  exact ⟨word, c, tail ++ rest, by simp, hword, hc⟩

theorem writeStatementRe_iff {text : List Char} :
    writeStatementRe text = true ↔
      StartsWithVerb (text.dropWhile PyText.isSpace) := by
  simp only [writeStatementRe, List.any_eq_true, StartsWithVerb, SpellsVerb]
  constructor
  · rintro ⟨keyword, hmem, hmatch⟩
    split at hmatch
    · rename_i c rest hdrop
      obtain ⟨word, htext, hword⟩ := PyText.dropKeyword?_eq_some.mp hdrop
      exact ⟨word, c, rest, htext, ⟨keyword, hmem, hword⟩, hmatch⟩
    · cases hmatch
  · rintro ⟨word, c, rest, htext, ⟨keyword, hmem, hword⟩, hc⟩
    refine ⟨keyword, hmem, ?_⟩
    rw [PyText.dropKeyword?_eq_some.mpr ⟨word, htext, hword⟩]
    exact hc

/-! ## One validation -/

structure BodyOf (sql body : List Char) : Prop where
  verb : StartsWithVerb (PyText.strip sql)
  noSemicolon : ';' ∉ body
  stripped : PyText.strip sql = body ∨ PyText.strip sql = body ++ [';']

private theorem final_semicolon (statement : List Char) :
    statement = (if statement.getLast? = some ';' then statement.dropLast
      else statement) ∨
    statement = (if statement.getLast? = some ';' then statement.dropLast
      else statement) ++ [';'] := by
  split
  · rename_i hlast
    exact .inr (List.dropLast_append_getLast? _ hlast).symm
  · exact .inl rfl

theorem validateWriteStatement_eq_ok {sql body : String} :
    validateWriteStatement sql = .ok body ↔ BodyOf sql.toList body.toList := by
  have hverb : writeStatementRe (PyText.strip sql.toList) = true ↔
      StartsWithVerb (PyText.strip sql.toList) := by
    rw [writeStatementRe_iff, PyText.dropWhile_strip]
  unfold validateWriteStatement
  constructor
  · intro h
    dsimp only at h
    split at h
    · cases h
    split at h
    · cases h
    rename_i hre
    have hstripped := final_semicolon (PyText.strip sql.toList)
    generalize (if (PyText.strip sql.toList).getLast? = some ';' then
      (PyText.strip sql.toList).dropLast
      else PyText.strip sql.toList) = rest at h hstripped
    split at h
    · cases h
    rename_i hsemicolon
    obtain rfl := Except.ok.inj h
    rw [String.toList_ofList]
    exact ⟨hverb.mp (by simpa using hre), hsemicolon, hstripped⟩
  · rintro ⟨hstart, hsemicolon, hstripped⟩
    have hne : PyText.strip sql.toList ≠ [] := by
      intro hnil
      simpa [hnil] using hstart.length
    have hbody : (if (PyText.strip sql.toList).getLast? = some ';' then
        (PyText.strip sql.toList).dropLast else PyText.strip sql.toList) =
          body.toList := by
      rcases hstripped with heq | heq
      · rw [heq, if_neg fun hlast => hsemicolon (List.mem_of_getLast? hlast)]
      · rw [heq, if_pos (by simp), List.dropLast_concat]
    simp [hne, hverb.mpr hstart, hbody, hsemicolon]

/-! ## The second validation -/

def VerbAlone (sql : List Char) : Prop :=
  ∃ word space, SpellsVerb word ∧ space ≠ [] ∧
    (∀ c ∈ space, PyText.isSpace c = true) ∧
      PyText.strip sql = word ++ space ++ [';']

theorem VerbAlone.validated {sql : String} (h : VerbAlone sql.toList) :
    ∃ body, validateWriteStatement sql = .ok body := by
  obtain ⟨word, space, hword, hne, hspace, heq⟩ := h
  obtain ⟨c, rest, rfl⟩ := List.exists_cons_of_ne_nil hne
  refine ⟨String.ofList (word ++ c :: rest),
    validateWriteStatement_eq_ok.mpr ?_⟩
  rw [String.toList_ofList]
  refine ⟨?_, ?_, .inr heq⟩
  · exact heq ▸ StartsWithVerb.append ⟨word, c, rest, rfl, hword,
      hspace c (List.mem_cons_self ..)⟩ _
  · rw [List.mem_append, not_or]
    refine ⟨hword.not_mem_semicolon, fun hmem => ?_⟩
    exact absurd (hspace _ hmem) (by decide)

section Again

variable {sql body : List Char}

theorem BodyOf.dropWhile (h : BodyOf sql body) :
    body.dropWhile PyText.isSpace = body := by
  refine PyText.dropWhile_eq_self_of_prefix ?_ (PyText.dropWhile_strip sql)
  rcases h.stripped with heq | heq
  · exact heq ▸ List.prefix_refl _
  · exact heq ▸ List.prefix_append _ _

theorem StartsWithVerb.of_concat
    (h : StartsWithVerb (body ++ [';'])) : StartsWithVerb body := by
  obtain ⟨word, c, rest, heq, hword, hc⟩ := h
  rcases List.eq_nil_or_concat rest with rfl | ⟨front, last, rfl⟩
  · have hlast := List.head_eq_of_cons_eq (List.append_inj' heq rfl).2
    exact absurd hc (hlast ▸ by decide)
  · rw [List.concat_eq_append, ← List.cons_append, ← List.append_assoc] at heq
    exact ⟨word, c, front, (List.append_inj' heq rfl).1, hword, hc⟩

theorem BodyOf.startsWithVerb (h : BodyOf sql body) : StartsWithVerb body := by
  have hverb := h.verb
  rcases h.stripped with heq | heq <;> rw [heq] at hverb
  · exact hverb
  · exact hverb.of_concat

theorem BodyOf.startsWithVerb_strip (h : BodyOf sql body)
    (hverb : ¬ VerbAlone sql) : StartsWithVerb (PyText.strip body) := by
  rcases h.stripped with heq | heq
  · rw [← heq, PyText.strip_strip]
    exact h.verb
  · obtain ⟨word, c, rest, rfl, hword, hc⟩ := h.startsWithVerb
    have hrest : ¬ ∀ c ∈ rest, PyText.isSpace c = true := by
      intro hall
      refine hverb ⟨word, c :: rest, hword, List.cons_ne_nil _ _, ?_, heq⟩
      exact List.forall_mem_cons.mpr ⟨hc, hall⟩
    rw [PyText.strip_eq_rdropWhile h.dropWhile, List.append_cons,
      PyText.rdropWhile_append_of_not_forall hrest]
    exact StartsWithVerb.append ⟨word, c, [], rfl, hword, hc⟩ _

/-- The second validation strips the white space that the verb needs. -/
theorem BodyOf.not_startsWithVerb_strip (h : BodyOf sql body)
    (hverb : VerbAlone sql) : ¬ StartsWithVerb (PyText.strip body) := by
  obtain ⟨word, space, hword, hne, hspace, heq⟩ := hverb
  have hbody : body = word ++ space := by
    rcases h.stripped with hsame | hsame <;> rw [hsame] at heq
    · exact absurd (by simp [heq]) h.noSemicolon
    · exact (List.append_inj' heq rfl).1
  intro hstart
  have hlength := (List.rdropWhile_prefix PyText.isSpace word).length_le
  rw [PyText.strip_eq_rdropWhile h.dropWhile, hbody,
    PyText.rdropWhile_append_of_forall hspace] at hstart
  have := hstart.length
  have := hword.length
  omega

end Again

theorem validateWriteStatement_again {sql body : String}
    (h : validateWriteStatement sql = .ok body) :
    (∃ statement, validateWriteStatement body = .ok statement ∧
      PyText.stripText statement = PyText.stripText body) ↔
      ¬ VerbAlone sql.toList := by
  have hbody := validateWriteStatement_eq_ok.mp h
  constructor
  · rintro ⟨statement, hagain, -⟩ hverb
    exact hbody.not_startsWithVerb_strip hverb
      (validateWriteStatement_eq_ok.mp hagain).verb
  · intro hverb
    refine ⟨PyText.stripText body, validateWriteStatement_eq_ok.mpr ?_, ?_⟩
    · refine ⟨hbody.startsWithVerb_strip hverb, fun hmem => ?_, .inl ?_⟩
      · rw [PyText.stripText, String.toList_ofList] at hmem
        exact hbody.noSemicolon (PyText.mem_of_mem_strip hmem)
      · rw [PyText.stripText, String.toList_ofList]
    · rw [PyText.stripText, PyText.stripText, String.toList_ofList,
        PyText.strip_strip]

/-! ## A stored preview and its commit -/

structure StatementBody (sql body : String) : Prop where
  noSemicolon : ';' ∉ body.toList
  verb : StartsWithVerb body.toList
  stripped : PyText.stripText sql = body ∨ PyText.stripText sql = body ++ ";"
  again : ∃ statement, validateWriteStatement body = .ok statement ∧
    PyText.stripText statement = PyText.stripText body

/--
A commit that runs the statement: it returns a row count exactly when the
connection opens and both the statement and `conn.commit()` succeed, and has
applied the statement then.  One that raises has applied nothing, unless
`conn.commit()` raised on an autocommit connection.
-/
structure RunsStatement {Data : Type} (drivers : Drivers)
    (effect : String → Data → Data) (calls : QueryRunnerCalls)
    (inst : RDSInstance) (data : Data) (stored statement : String) : Prop where
  valid : ∀ message,
    (commitWriteQuery drivers effect calls inst stored data).1 ≠
      .error (.queryValidationError message)
  returns : ∀ rowcount,
    (commitWriteQuery drivers effect calls inst stored data).1 =
        .ok rowcount ↔
      (∃ conn, getQueryRunnerConnection drivers inst = .ok conn) ∧
        calls.execute = .ok rowcount ∧ calls.commit = .ok ()
  applied : ∀ rowcount,
    (commitWriteQuery drivers effect calls inst stored data).1 =
        .ok rowcount →
      (commitWriteQuery drivers effect calls inst stored data).2 =
        effect statement data
  raised : ∀ e,
    (commitWriteQuery drivers effect calls inst stored data).1 = .error e →
      (commitWriteQuery drivers effect calls inst stored data).2 = data ∨
      inst.engine ≠ .postgresql ∧ calls.commit ≠ .ok () ∧
        (commitWriteQuery drivers effect calls inst stored data).2 =
          effect statement data

def CommitRuns (stored : String) : Prop :=
  ∃ statement, PyText.stripText statement = PyText.stripText stored ∧
    ∀ (Data : Type) (drivers : Drivers) (effect : String → Data → Data)
      (calls : QueryRunnerCalls) (inst : RDSInstance) (data : Data),
      RunsStatement drivers effect calls inst data stored statement

/-- What is promised of every validation of the text, and of every preview. -/
structure Replays (sql : String) : Prop where
  body : ∀ body, validateWriteStatement sql = .ok body → StatementBody sql body
  commit : ∀ {Data : Type} (drivers : Drivers)
    (effect : String → Data → Data) (calls : QueryRunnerCalls)
    (inst : RDSInstance) (data : Data) (statement : String) (rowcount : Int),
    (previewWriteQuery drivers effect calls inst sql data).1 =
      .ok (statement, rowcount) → CommitRuns statement

theorem getQueryRunnerConnection_error {drivers : Drivers}
    {inst : RDSInstance} {message : String} :
    getQueryRunnerConnection drivers inst ≠
      .error (.queryValidationError message) := by
  unfold getQueryRunnerConnection
  split
  · nofun
  · cases hdecrypt : decryptPassword drivers
        inst.queryRunnerPasswordEncrypted with
    | error e =>
        intro h
        obtain rfl := Except.error.inj h
        unfold decryptPassword at hdecrypt
        split at hdecrypt
        · cases hdecrypt
        · cases hcall : drivers.decrypt inst.queryRunnerPasswordEncrypted <;>
            simp [hcall, Except.mapError] at hdecrypt
    | ok password =>
        change connectWith _ _ _ _ _ ≠ _
        unfold connectWith
        dsimp only
        split
        · nofun
        · split <;> nofun

theorem runsStatement_of_validated {Data : Type} {drivers : Drivers}
    {effect : String → Data → Data} {calls : QueryRunnerCalls}
    {inst : RDSInstance} {data : Data} {stored statement : String}
    (hvalid : validateWriteStatement stored = .ok statement) :
    RunsStatement drivers effect calls inst data stored statement := by
  cases hconnect : getQueryRunnerConnection drivers inst with
  | error e =>
      have hrun : commitWriteQuery drivers effect calls inst stored data =
          (.error e, data) := by
        rw [commitWriteQuery_run, prepare, hvalid, hconnect]
        rfl
      have hother : ∀ message, e ≠ .queryValidationError message := by
        rintro message rfl
        exact getQueryRunnerConnection_error hconnect
      constructor <;> simp [hrun, hother, hconnect]
  | ok conn =>
      have hprepare : prepare drivers inst stored = .ok (statement, conn) :=
        prepare_eq_ok.mpr ⟨hvalid, hconnect⟩
      have hauto := getQueryRunnerConnection_autocommit hconnect
      have hrun : commitWriteQuery drivers effect calls inst stored data = _ :=
        commitWriteQuery_run
      rw [hprepare] at hrun
      cases hexecute : calls.execute with
      | error message =>
          simp only [hexecute] at hrun
          constructor <;> simp [hrun, hexecute]
      | ok rowcount =>
          cases hcommit : calls.commit with
          | ok done =>
              simp only [hexecute, hcommit] at hrun
              constructor <;> simp [hrun, hexecute, hcommit, hconnect]
          | error message =>
              simp only [hexecute, hcommit] at hrun
              constructor <;> simp only [hrun]
              · nofun
              · simp [hcommit]
              · nofun
              · intro e _
                split
                · rename_i hon
                  exact .inr ⟨hauto.mp hon, by simp [hcommit], rfl⟩
                · exact .inl rfl

theorem commitRuns_of_validated {stored statement : String}
    (hvalid : validateWriteStatement stored = .ok statement)
    (hsame : PyText.stripText statement = PyText.stripText stored) :
    CommitRuns stored :=
  ⟨statement, hsame, fun _ _ _ _ _ _ => runsStatement_of_validated hvalid⟩

theorem previewWriteQuery_statement {Data : Type} {drivers : Drivers}
    {effect : String → Data → Data} {calls : QueryRunnerCalls}
    {inst : RDSInstance} {sql : String} {data : Data} {statement : String}
    {rowcount : Int}
    (h : (previewWriteQuery drivers effect calls inst sql data).1 =
      .ok (statement, rowcount)) :
    validateWriteStatement sql = .ok statement := by
  rw [previewWriteQuery_run] at h
  cases hprepare : prepare drivers inst sql with
  | error e =>
      rw [hprepare] at h
      cases h
  | ok prepared =>
      obtain ⟨body, conn⟩ := prepared
      rw [hprepare] at h
      dsimp only at h
      split at h
      · cases h
      · cases h
        exact (prepare_eq_ok.mp hprepare).1
      · cases h

theorem previewed_statement_commits (sql : String) :
    Replays sql ↔ ¬ VerbAlone sql.toList := by
  constructor
  · intro h hverb
    obtain ⟨body, hbody⟩ := hverb.validated
    exact (validateWriteStatement_again hbody).mp (h.body body hbody).again
      hverb
  · intro hverb
    constructor
    · intro body hvalid
      have hbody := validateWriteStatement_eq_ok.mp hvalid
      refine ⟨hbody.noSemicolon, hbody.startsWithVerb, ?_,
        (validateWriteStatement_again hvalid).mpr hverb⟩
      rcases hbody.stripped with heq | heq
      · exact .inl (by rw [PyText.stripText, heq, String.ofList_toList])
      · exact .inr (by
          rw [PyText.stripText, heq, String.ofList_append,
            String.ofList_toList])
    · intro Data drivers effect calls inst data statement rowcount hpreview
      have hvalid := previewWriteQuery_statement hpreview
      obtain ⟨ran, hagain, hsame⟩ :=
        (validateWriteStatement_again hvalid).mpr hverb
      exact commitRuns_of_validated hagain hsame

/-- `INSERT ;` is stored as a verb and a blank, which is no statement again. -/
theorem verb_alone_not_committed :
    validateWriteStatement "INSERT ;" = .ok "INSERT " ∧
      validateWriteStatement "INSERT " = .error (.queryValidationError
        "Only INSERT or UPDATE statements are allowed.") ∧
      ¬ Replays "INSERT ;" := by
  have hfirst : validateWriteStatement "INSERT ;" = .ok "INSERT " := by decide
  have hsecond : validateWriteStatement "INSERT " =
      .error (.queryValidationError
        "Only INSERT or UPDATE statements are allowed.") := by decide
  refine ⟨hfirst, hsecond, fun h => ?_⟩
  obtain ⟨statement, hagain, -⟩ := (h.body _ hfirst).again
  rw [hsecond] at hagain
  cases hagain

end HealthGrid.Db
