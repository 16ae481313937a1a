import HealthGrid.Foundation.FieldLines
import HealthGrid.Monitor.SummaryMessage

/-!
# The card of a lock summary

`_adaptive_card` reads the text of `_summary_message` back and shows what it
finds.  The names in the text are those of the registry, and a line break in one
of them starts a line of the text.
-/

namespace HealthGrid.Monitor

open HealthGrid.Foundation

/-! ## Cards -/

structure TextBlock where
  text : String
  size : String
  weight : Option String
  color : Option String
  spacing : Option String
  wrap : Bool
  fontType : Option String
  deriving DecidableEq, Repr

structure Fact where
  title : String
  value : String
  deriving DecidableEq, Repr

structure CardContainer where
  style : String
  bleed : Bool
  spacing : Option String
  items : List TextBlock
  deriving DecidableEq, Repr

inductive CardElement where
  | container (container : CardContainer)
  | factSet (spacing : String) (facts : List Fact)
  deriving DecidableEq, Repr

structure AdaptiveCard where
  schema : String
  version : String
  body : List CardElement
  deriving DecidableEq, Repr

def shortQuery (limit : Nat) (query : String) : String :=
  let words := (query.toList.splitOnP PyText.isSpace).filter (· ≠ [])
  let query := [' '].intercalate words
  if query.length ≤ limit then String.ofList query
  else String.ofList (query.take (limit - 1)) ++ "…"

def resolutionText (alert : LockAlert) : String :=
  if alert.clearReason = "manual_kill" then " · MANUALLY KILLED"
  else if alert.clearReason = "auto_clear" then " · AUTO-CLEARED"
  else ""

def headline (alert : LockAlert) : TextBlock where
  text :=
    let clearedBy :=
      if alert.clearReason = "manual_kill" ∧ alert.clearedBy ≠ "" then
        " by " ++ alert.clearedBy
      else ""
    toString alert.blockedPid ++ " → " ++ toString alert.blockingPid ++
      " · " ++ PyText.textOr (some alert.blockedUser) "—" ++ " → " ++
      PyText.textOr (some alert.blockingUser) "—" ++ resolutionText alert ++
      clearedBy
  size := "Small"
  weight := some "Bolder"
  color := if alert.clearReason = "manual_kill" then some "Good" else none
  spacing := some "Small"
  wrap := false
  fontType := none

def queryBlock (label query : String) : TextBlock where
  text := label ++ ": " ++ shortQuery 420 query
  size := "Small"
  weight := none
  color := none
  spacing := some "None"
  wrap := true
  fontType := some "Monospace"

def maxItems : Nat := 10

def queryDetailContainer (title : String) (alerts : List LockAlert) :
    Option CardElement :=
  if alerts = [] then none
  else
    let rows := (alerts.take maxItems).flatMap fun alert =>
      [headline alert, queryBlock "Blocked" alert.blockedQuery,
        queryBlock "Blocking" alert.blockingQuery]
    let more : List TextBlock :=
      if alerts.length > maxItems then
        [⟨"Showing " ++ toString maxItems ++ " of " ++ toString alerts.length ++
            " query pairs. Use the dashboard CSV export for the complete list.",
          "Small", none, some "Warning", some "Small", true, none⟩]
      else []
    some (.container ⟨"emphasis", false, some "Medium",
      ⟨title, "Small", some "Bolder", none, none, false, none⟩ ::
        rows ++ more⟩)

/-- `values.get(key, default)` -/
def valueOr (values : Dict String String) (key default : String) : String :=
  (values.get? key).getD default

def cardFacts : List (String × String × String) :=
  [("Status", "Status", "—"), ("Database", "Database", "—"),
    ("Region", "Region", "—"), ("Active locks", "Active locks", "0"),
    ("Active PID pairs", "Active PID pairs", "—"),
    ("Cleared since previous", "Cleared since previous card", "0"),
    ("Cleared PID pairs", "Cleared PID pairs", "—"),
    ("Clear reason", "Clear reason", "—"), ("Cleared by", "Cleared by", "—"),
    ("Alert event", "Alert event", "—"),
    ("First observed", "First observed", "—"),
    ("Last observed", "Last observed", "—"), ("Sent at", "Sent at", "—"),
    ("Previously active", "Previously active", "0")]

def reportFacts : List (String × String × String) :=
  [("Report rows", "Report rows", "0"), ("File name", "File name", "—"),
    ("Delivery", "Delivery", "See Flow instructions")]

/-- The parameter `report` of the source is not read. -/
def adaptiveCard (message : String) (alerts clearedAlerts : List LockAlert) :
    AdaptiveCard :=
  let values := readFields message
  let state := valueOr values "HealthGrid" ""
  let isTest := state = "TEST NOTIFICATION"
  let resolved := values.get? "Status" = some "CLEARED"
  let isReport := state = "WEEKLY LOCK REPORT"
  let title :=
    if isTest then "Teams notification test"
    else if isReport then "Weekly lock report"
    else if resolved then "All locks cleared"
    else "Database locks still active"
  let color :=
    if isTest ∨ isReport then "Accent"
    else if resolved then "Good" else "Attention"
  let cardStyle :=
    if isTest ∨ isReport then "emphasis"
    else if resolved then "good" else "attention"
  let facts := cardFacts ++ if isReport then reportFacts else []
  { schema := "http://adaptivecards.io/schemas/adaptive-card.json"
    version := "1.4"
    body :=
      [.container ⟨cardStyle, true, none,
          [⟨"HealthGrid", "Small", some "Bolder", some color, none, false,
              none⟩,
            ⟨title, "Large", some "Bolder", some color, some "None", false,
              none⟩]⟩,
        .container ⟨cardStyle, false, some "Medium",
          [⟨"Status message", "Small", some "Bolder",
              some (if resolved then "Good" else "Attention"), none, false,
              none⟩,
            ⟨valueOr values "Message" "—", "Medium", some "Bolder", some color,
              some "Small", true, none⟩]⟩,
        .factSet "Medium" (facts.map fun (title, key, default) =>
          ⟨title, valueOr values key default⟩)] ++
      (queryDetailContainer "Active query details" alerts).toList ++
      (queryDetailContainer "Cleared query details" clearedAlerts).toList }

def summaryCard (inst : RDSInstance) (region : String) (card : Card) :
    AdaptiveCard :=
  adaptiveCard (summaryMessage inst region card) card.alerts card.clearedAlerts

/-! ## What a card shows -/

namespace AdaptiveCard

variable (card : AdaptiveCard)

def fact? (title : String) : Option String :=
  match card.body with
  | _ :: _ :: .factSet _ facts :: _ =>
      (facts.find? fun fact => fact.title == title).map Fact.value
  | _ => none

def statusMessage? : Option String :=
  match card.body with
  | _ :: .container ⟨_, _, _, [_, message]⟩ :: _ => some message.text
  | _ => none

def ShownAsCleared : Prop :=
  ∃ container rest, card.body = .container container :: rest ∧
    container.style = "good" ∧
    container.items.map TextBlock.text = ["HealthGrid", "All locks cleared"]

end AdaptiveCard

section Facts

variable {message title key default value : String}
  {alerts clearedAlerts : List LockAlert}

def toFact (values : Dict String String) (entry : String × String × String) :
    Fact :=
  ⟨entry.1, valueOr values entry.2.1 entry.2.2⟩

theorem fact?_adaptiveCard_eq (message title : String)
    (alerts clearedAlerts : List LockAlert) :
    ∃ more, (more = [] ∨ more = reportFacts) ∧
      (adaptiveCard message alerts clearedAlerts).fact? title =
        (((cardFacts ++ more).map (toFact (readFields message))).find?
          fun fact => fact.title == title).map Fact.value := by
  refine ⟨if valueOr (readFields message) "HealthGrid" "" =
    "WEEKLY LOCK REPORT" then reportFacts else [], ?_, rfl⟩
  split
  · exact .inr rfl
  · exact .inl rfl

theorem find?_cardFacts : ∀ entry ∈ cardFacts,
    cardFacts.find? (fun other => other.1 == entry.1) = some entry := by
  decide

theorem fact?_adaptiveCard (h : (title, key, default) ∈ cardFacts) :
    (adaptiveCard message alerts clearedAlerts).fact? title =
      some (valueOr (readFields message) key default) := by
  obtain ⟨more, -, hfact⟩ :=
    fact?_adaptiveCard_eq message title alerts clearedAlerts
  have hfind : cardFacts.find? ((fun fact : Fact => fact.title == title) ∘
      toFact (readFields message)) = some (title, key, default) :=
    find?_cardFacts _ h
  rw [hfact, List.find?_map, List.find?_append, hfind]
  rfl

theorem of_fact?_adaptiveCard
    (h : (adaptiveCard message alerts clearedAlerts).fact? title =
      some value) :
    (∃ key, (readFields message).get? key = some value) ∨
      value ∈ ["—", "0", "See Flow instructions"] := by
  obtain ⟨more, hmore, hfact⟩ :=
    fact?_adaptiveCard_eq message title alerts clearedAlerts
  rw [hfact] at h
  obtain ⟨fact, hfind, rfl⟩ := Option.map_eq_some_iff.mp h
  obtain ⟨⟨title, key, default⟩, hentry, rfl⟩ :=
    List.mem_map.mp (List.mem_of_find?_eq_some hfind)
  have hdefaults : ∀ entry ∈ cardFacts ++ reportFacts,
      entry.2.2 ∈ ["—", "0", "See Flow instructions"] := by decide
  have hdefault : default ∈ ["—", "0", "See Flow instructions"] := by
    refine hdefaults (title, key, default) ?_
    rcases hmore with rfl | rfl
    · exact List.mem_append_left _ (by simpa using hentry)
    · exact hentry
  dsimp only [toFact, valueOr]
  cases hget : (readFields message).get? key with
  | none => exact .inr hdefault
  | some value => exact .inl ⟨key, hget⟩

theorem statusMessage?_adaptiveCard :
    (adaptiveCard message alerts clearedAlerts).statusMessage? =
      some (valueOr (readFields message) "Message" "—") := rfl

theorem shownAsCleared_adaptiveCard :
    (adaptiveCard message alerts clearedAlerts).ShownAsCleared ↔
      (readFields message).get? "Status" = some "CLEARED" ∧
        valueOr (readFields message) "HealthGrid" "" ≠ "TEST NOTIFICATION" ∧
        valueOr (readFields message) "HealthGrid" "" ≠
          "WEEKLY LOCK REPORT" := by
  constructor
  · rintro ⟨container, rest, hbody, hstyle, -⟩
    have hhead := congrArg List.head? hbody
    simp only [adaptiveCard, List.cons_append, List.head?_cons,
      Option.some.injEq, CardElement.container.injEq] at hhead
    subst hhead
    dsimp only at hstyle
    split at hstyle
    · exact absurd hstyle (by decide)
    · rename_i hother
      split at hstyle
      · rename_i hresolved
        exact ⟨hresolved, not_or.mp hother⟩
      · exact absurd hstyle (by decide)
  · rintro ⟨hresolved, htest, hreport⟩
    refine ⟨_, _, rfl, ?_, ?_⟩
    · simp [htest, hreport, hresolved]
    · simp [htest, hreport, hresolved]

end Facts

/-! ## The lines of the text -/

def fieldsBeforeRegion (inst : RDSInstance) (card : Card) :
    List (String × String) :=
  [("HealthGrid", match card.event with
      | .cleared => "LOCK SUMMARY CLEARED"
      | .storm => "LOCK STORM"
      | _ => "LOCK SUMMARY"),
    ("Status", if card.event = .cleared then "CLEARED" else "ACTIVE"),
    ("Alert event", eventLabel card.event),
    ("Database", inst.name ++ " (" ++ inst.dbIdentifier ++ ")")]

def fieldsAfterRegion (card : Card) : List (String × String) :=
  let firstSeen := (card.alerts.map LockAlert.firstSeenAt).min?
  let lastSeen := (card.alerts.map LockAlert.lastSeenAt).max?
  [("Active locks", toString card.alerts.length),
    ("Active PID pairs",
      pairText 3200 (card.alerts.map LockAlert.alertKey)),
    ("Cleared since previous card", toString card.clearedKeys.length),
    ("Cleared PID pairs", pairText 3200 card.clearedKeys),
    ("Clear reason", clearReasonText card.clearedAlerts),
    ("Cleared by", pairText 1200 (killUsers card.clearedAlerts)),
    ("Previously active", toString card.previousActiveKeys.length),
    ("First observed", timestamp firstSeen),
    ("Last observed", timestamp (lastSeen.or (some card.sentAt))),
    ("Sent at", timestamp (some card.sentAt)),
    ("Message", messageText card)]

def summaryFields (inst : RDSInstance) (region : String) (card : Card) :
    List (String × String) :=
  fieldsBeforeRegion inst card ++ ("Region", region) :: fieldsAfterRegion card

theorem summaryMessage_eq_fieldText (inst : RDSInstance) (region : String)
    (card : Card) :
    summaryMessage inst region card =
      fieldText (summaryFields inst region card) := by
  have hdatabase :
      "Database: " ++ inst.name ++ " (" ++ inst.dbIdentifier ++ ")" =
        "Database: " ++ (inst.name ++ " (" ++ inst.dbIdentifier ++ ")") := by
    simp only [String.append_assoc]
  unfold summaryMessage
  rw [hdatabase]
  rfl

/-! ## Line breaks in the text -/

def OneLine (text : String) : Prop := '\n' ∉ text.toList

instance (text : String) : Decidable (OneLine text) :=
  inferInstanceAs (Decidable (¬ _))

section OneLine

variable {text text' : String} {limit : Nat} {keys : List String}

/-- For a literal, whose characters are compared without its encoding. -/
theorem oneLine_ofList {chars : List Char} (h : '\n' ∉ chars) :
    OneLine (String.ofList chars) := by
  simpa [OneLine] using h

@[simp] theorem oneLine_append :
    OneLine (text ++ text') ↔ OneLine text ∧ OneLine text' := by
  simp [OneLine]

@[simp] theorem oneLine_repr (n : Int) : OneLine n.repr :=
  PyText.not_mem_toString_int (by decide) (by decide) n

@[simp] theorem oneLine_nat_repr (n : Nat) : OneLine n.repr :=
  oneLine_repr n

@[simp] theorem oneLine_twoDigits (n : Int) : OneLine (twoDigits n) := by
  have hzero : OneLine "0" := by decide
  unfold twoDigits
  split <;> simp [hzero]

theorem oneLine_timestamp (value : Option Time) :
    OneLine (timestamp value) := by
  have hliterals : OneLine "—" ∧ OneLine "-" ∧ OneLine " " ∧ OneLine ":" ∧
      OneLine " IST" := by decide
  cases value with
  | none => exact hliterals.1
  | some value => simp [timestamp, hliterals]

theorem oneLine_intercalate (hsep : OneLine separator)
    (h : ∀ key ∈ keys, OneLine key) :
    OneLine (separator.intercalate keys) := by
  intro hmem
  rw [String.toList_intercalate] at hmem
  rcases PyText.mem_intercalate hmem with hsep' | ⟨chars, hchars, hmem⟩
  · exact hsep hsep'
  · obtain ⟨key, hkey, rfl⟩ := List.mem_map.mp hchars
    exact h key hkey hmem

def shownText (limit : Nat) (names : List String) : String :=
  let text := separator.intercalate
    (names.map (PyText.replaceFirst ':' " → "))
  if text.length ≤ limit then text
  else PyText.beforeLast separator
    (String.ofList (text.toList.take (limit - 30)))

theorem oneLine_pairText :
    OneLine (pairText limit keys) ↔ OneLine (shownText limit keys) := by
  have hliterals : OneLine "—" ∧ OneLine "" ∧ OneLine " · … (" ∧
      OneLine " total)" := by decide
  have hshown : shownText limit keys =
      if (joinedKeys keys).length ≤ limit then joinedKeys keys
      else PyText.beforeLast separator
        (String.ofList ((joinedKeys keys).toList.take (limit - 30))) := rfl
  rw [pairText_eq, hshown]
  split
  · split
    · rename_i hempty
      simp [hempty, hliterals]
    · rfl
  · simp [hliterals]

theorem oneLine_shownText (h : ∀ key ∈ keys, OneLine key) :
    OneLine (shownText limit keys) := by
  have hpairs : ∀ pair ∈ keys.map (PyText.replaceFirst ':' " → "),
      OneLine pair := by
    intro pair hpair hmem
    obtain ⟨key, hkey, rfl⟩ := List.mem_map.mp hpair
    rcases PyText.mem_replaceFirst hmem with harrow | hmem
    · exact absurd harrow (by decide)
    · exact h key hkey hmem
  have htext := oneLine_intercalate (by decide) hpairs
  unfold shownText
  dsimp only
  split
  · exact htext
  · intro hmem
    have hvisible := PyText.mem_beforeLast (by decide) hmem
    rw [String.toList_ofList] at hvisible
    exact htext (List.mem_of_mem_take hvisible)

theorem oneLine_alertKey (alert : LockAlert) : OneLine alert.alertKey := by
  have hcolon : OneLine ":" := by decide
  simp [LockAlert.alertKey, pairKey, hcolon]

theorem oneLine_manualText {users pids : String} (husers : OneLine users)
    (hpids : OneLine pids) : OneLine (manualText users pids) := by
  unfold manualText
  simp only [oneLine_append]
  exact ⟨⟨⟨⟨oneLine_ofList (by decide), husers⟩, oneLine_ofList (by decide)⟩,
    hpids⟩, oneLine_ofList (by decide)⟩

theorem oneLine_messageText {card : Card}
    (h : OneLine (shownText 1200 (killUsers card.clearedAlerts))) :
    OneLine (messageText card) := by
  have hpids : OneLine (pairText 600 (killedPids card.clearedAlerts)) := by
    refine oneLine_pairText.mpr (oneLine_shownText ?_)
    intro pid hpid
    obtain ⟨n, -, rfl⟩ := List.mem_map.mp hpid
    exact oneLine_repr n
  have husers := oneLine_pairText.mpr h
  have hcount : OneLine (toString card.alerts.length) := oneLine_nat_repr _
  unfold messageText
  dsimp only
  split
  · split
    · exact oneLine_manualText husers hpids
    · exact oneLine_ofList (by decide)
  · simp only [oneLine_append]
    exact ⟨⟨⟨hcount, oneLine_ofList (by decide)⟩, oneLine_ofList (by decide)⟩,
      oneLine_ofList (by decide)⟩
  · split
    · exact oneLine_ofList (by decide)
    · simp only [oneLine_append]
      exact ⟨⟨hcount, oneLine_ofList (by decide)⟩, oneLine_ofList (by decide)⟩

end OneLine

/-! ## Reading the text back -/

structure NamesOneLine (inst : RDSInstance) (region : String) (card : Card) :
    Prop where
  name : OneLine inst.name
  dbIdentifier : OneLine inst.dbIdentifier
  region : OneLine region
  keys : OneLine (shownText 3200 card.clearedKeys)
  users : OneLine (shownText 1200 (killUsers card.clearedAlerts))

structure CardShows (shown : AdaptiveCard) (inst : RDSInstance)
    (region : String) (card : Card) : Prop where
  status : shown.fact? "Status" =
    some (if card.event = .cleared then "CLEARED" else "ACTIVE")
  database : shown.fact? "Database" =
    some (inst.name ++ " (" ++ inst.dbIdentifier ++ ")")
  region : shown.fact? "Region" = some region
  activeLocks : shown.fact? "Active locks" = some (toString card.alerts.length)
  activePairs : shown.fact? "Active PID pairs" =
    some (pairText 3200 (card.alerts.map LockAlert.alertKey))
  clearedPairs : shown.fact? "Cleared PID pairs" =
    some (pairText 3200 card.clearedKeys)
  clearReason : shown.fact? "Clear reason" =
    some (clearReasonText card.clearedAlerts)
  clearedBy : shown.fact? "Cleared by" =
    some (pairText 1200 (killUsers card.clearedAlerts))
  message : shown.statusMessage? = some (messageText card)
  cleared : shown.ShownAsCleared ↔ card.event = .cleared

section RoundTrip

variable {inst : RDSInstance} {region : String} {card : Card}

theorem summaryFields_labels :
    (summaryFields inst region card).map Prod.fst =
      ["HealthGrid", "Status", "Alert event", "Database", "Region",
        "Active locks", "Active PID pairs", "Cleared since previous card",
        "Cleared PID pairs", "Clear reason", "Cleared by", "Previously active",
        "First observed", "Last observed", "Sent at", "Message"] := rfl

theorem summaryFields_label {field : String × String}
    (h : field ∈ summaryFields inst region card) :
    ':' ∉ field.1.toList ∧ '\n' ∉ field.1.toList := by
  have hlabel : field.1 ∈ (summaryFields inst region card).map Prod.fst :=
    List.mem_map_of_mem h
  rw [summaryFields_labels] at hlabel
  generalize field.1 = label at hlabel
  revert label
  decide

def summaryStates : List String :=
  ["LOCK SUMMARY CLEARED", "LOCK STORM", "LOCK SUMMARY"]

theorem summaryStates_apart : ∀ state ∈ summaryStates,
    state ≠ "TEST NOTIFICATION" ∧ state ≠ "WEEKLY LOCK REPORT" := by
  decide

theorem summaryFields_state (inst : RDSInstance) (region : String)
    (card : Card) :
    ∃ state ∈ summaryStates,
      ("HealthGrid", state) ∈ summaryFields inst region card := by
  cases hevent : card.event <;> simp [summaryStates, summaryFields,
    fieldsBeforeRegion, hevent]

theorem readable_summaryFields (h : NamesOneLine inst region card) :
    ∀ field ∈ summaryFields inst region card, Readable field := by
  have hvalues : ∀ field ∈ summaryFields inst region card, OneLine field.2 := by
    simp only [summaryFields, fieldsBeforeRegion, fieldsAfterRegion,
      List.cons_append, List.nil_append, List.forall_mem_cons]
    refine ⟨?_, ?_, ?_, ?_, h.region, ?_, ?_, ?_, oneLine_pairText.mpr h.keys,
      ?_, oneLine_pairText.mpr h.users, ?_, oneLine_timestamp _,
      oneLine_timestamp _, oneLine_timestamp _, oneLine_messageText h.users, ?_⟩
    · cases card.event <;> decide
    · split <;> decide
    · cases card.event <;> decide
    · simp only [oneLine_append]
      exact ⟨⟨⟨h.name, by decide⟩, h.dbIdentifier⟩, by decide⟩
    · exact oneLine_nat_repr _
    · refine oneLine_pairText.mpr (oneLine_shownText ?_)
      intro key hkey
      obtain ⟨alert, -, rfl⟩ := List.mem_map.mp hkey
      exact oneLine_alertKey alert
    · exact oneLine_nat_repr _
    · unfold clearReasonText
      split
      · decide
      · split <;> decide
    · exact oneLine_nat_repr _
    · nofun
  intro field hmem
  obtain ⟨hcolon, hlabel⟩ := summaryFields_label hmem
  exact ⟨hcolon, hlabel, hvalues field hmem⟩

theorem summaryFields_unique {key value other : String}
    (hmem : (key, value) ∈ summaryFields inst region card)
    (hother : (key, other) ∈ summaryFields inst region card) :
    other = value := by
  have hnodup : ((summaryFields inst region card).map Prod.fst).Nodup := by
    rw [summaryFields_labels]
    decide
  exact congrArg Prod.snd (List.inj_on_of_nodup_map hnodup hother hmem rfl)

theorem get?_summary (h : NamesOneLine inst region card) {key value : String}
    (hmem : (key, value) ∈ summaryFields inst region card) :
    (readFields (summaryMessage inst region card)).get? key = some value := by
  rw [summaryMessage_eq_fieldText,
    readFields_fieldText (readable_summaryFields h)]
  exact Dict.get?_setAll_of_mem hmem fun _ => summaryFields_unique hmem

theorem fact?_summaryCard (h : NamesOneLine inst region card)
    {title value : String}
    (hfact : (title, title, "—") ∈ cardFacts ∨ (title, title, "0") ∈ cardFacts)
    (hmem : (title, value) ∈ summaryFields inst region card) :
    (summaryCard inst region card).fact? title = some value := by
  have hvalue : ∀ default, valueOr (readFields
      (summaryMessage inst region card)) title default = value := by
    intro default
    rw [valueOr, get?_summary h hmem, Option.getD_some]
  rcases hfact with hfact | hfact <;>
    rw [summaryCard, fact?_adaptiveCard hfact, hvalue]

theorem oneLine_of_fact? {title value : String}
    (h : (summaryCard inst region card).fact? title = some value) :
    OneLine value := by
  have hdefaults : ∀ value ∈ ["—", "0", "See Flow instructions"],
      OneLine value := by decide
  rcases of_fact?_adaptiveCard h with ⟨key, hget⟩ | hdefault
  · exact newline_not_mem_readFields hget
  · exact hdefaults value hdefault

end RoundTrip

theorem card_shows_summary (inst : RDSInstance) (region : String)
    (card : Card) :
    CardShows (summaryCard inst region card) inst region card ↔
      NamesOneLine inst region card := by
  constructor
  · intro h
    have hdatabase := oneLine_of_fact? h.database
    simp only [oneLine_append] at hdatabase
    exact ⟨hdatabase.1.1.1, hdatabase.1.2, oneLine_of_fact? h.region,
      oneLine_pairText.mp (oneLine_of_fact? h.clearedPairs),
      oneLine_pairText.mp (oneLine_of_fact? h.clearedBy)⟩
  · intro h
    constructor
    case status =>
      exact fact?_summaryCard h (by decide)
        (by simp [summaryFields, fieldsBeforeRegion])
    case database =>
      exact fact?_summaryCard h (by decide)
        (by simp [summaryFields, fieldsBeforeRegion])
    case region =>
      exact fact?_summaryCard h (by decide) (by simp [summaryFields])
    case activeLocks =>
      exact fact?_summaryCard h (by decide)
        (by simp [summaryFields, fieldsAfterRegion])
    case activePairs =>
      exact fact?_summaryCard h (by decide)
        (by simp [summaryFields, fieldsAfterRegion])
    case clearedPairs =>
      exact fact?_summaryCard h (by decide)
        (by simp [summaryFields, fieldsAfterRegion])
    case clearReason =>
      exact fact?_summaryCard h (by decide)
        (by simp [summaryFields, fieldsAfterRegion])
    case clearedBy =>
      exact fact?_summaryCard h (by decide)
        (by simp [summaryFields, fieldsAfterRegion])
    case message =>
      have hmem : ("Message", messageText card) ∈
          summaryFields inst region card := by
        simp [summaryFields, fieldsAfterRegion]
      rw [summaryCard, statusMessage?_adaptiveCard, valueOr,
        get?_summary h hmem, Option.getD_some]
    case cleared =>
      have hstatus : ("Status", if card.event = .cleared then "CLEARED"
          else "ACTIVE") ∈ summaryFields inst region card := by
        simp [summaryFields, fieldsBeforeRegion]
      obtain ⟨state, hstate, hmem⟩ := summaryFields_state inst region card
      rw [summaryCard, shownAsCleared_adaptiveCard, get?_summary h hstatus,
        valueOr, get?_summary h hmem, Option.getD_some]
      by_cases hevent : card.event = .cleared <;>
        simp [hevent, summaryStates_apart state hstate]

/-! ## A region that looks like a status -/

def spoofedRegion (region : String) : String := region ++ "\nStatus: CLEARED"

theorem shownAsCleared_spoofed {inst : RDSInstance} {region : String}
    {card : Card} (h : NamesOneLine inst region card) :
    (summaryCard inst (spoofedRegion region) card).ShownAsCleared := by
  let front := fieldsBeforeRegion inst card ++ [("Region", region)]
  let fields := front ++ ("Status", "CLEARED") :: fieldsAfterRegion card
  have htext : summaryMessage inst (spoofedRegion region) card =
      fieldText fields := by
    have hstatus : "\nStatus: CLEARED" =
        "\n" ++ fieldLine ("Status", "CLEARED") := by decide
    rw [summaryMessage_eq_fieldText, summaryFields, spoofedRegion, hstatus,
      ← String.append_assoc, fieldText_break, List.append_cons]
  have hreadable : ∀ field ∈ fields, Readable field := by
    have hsummary := readable_summaryFields h
    rw [summaryFields, List.append_cons] at hsummary
    intro field hmem
    rcases List.mem_append.mp hmem with hfront | hrest
    · exact hsummary field (List.mem_append_left _ hfront)
    · rcases List.mem_cons.mp hrest with rfl | hafter
      · exact ⟨by decide, by decide, by decide⟩
      · exact hsummary field (List.mem_append_right _ hafter)
  have hstatus : (readFields (fieldText fields)).get? "Status" =
      some "CLEARED" := by
    refine get?_readFields_last hreadable ?_
    simp [fieldsAfterRegion]
  have hsame : ∀ value, ("HealthGrid", value) ∈ fields ↔
      ("HealthGrid", value) ∈ summaryFields inst region card := by
    intro value
    rw [summaryFields, List.append_cons]
    simp [fields, front]
  obtain ⟨state, hstate, hmem⟩ := summaryFields_state inst region card
  have hget : (readFields (fieldText fields)).get? "HealthGrid" =
      some state := by
    rw [readFields_fieldText hreadable]
    refine Dict.get?_setAll_of_mem ((hsame state).mpr hmem) ?_
    intro other hother
    exact summaryFields_unique hmem ((hsame other).mp hother)
  rw [summaryCard, shownAsCleared_adaptiveCard, htext, valueOr, hget]
  exact ⟨hstatus, summaryStates_apart state hstate⟩

def oneLockCard : Card where
  alerts := [sampleAlert 10 20]
  event := .initial
  previousActiveKeys := []
  clearedKeys := []
  sentAt := 0
  clearedAlerts := []

/-- The text fits the column of the region, and the form takes any text. -/
theorem active_lock_shown_as_cleared :
    (spoofedRegion "us-east-1").length ≤ 32 ∧
      (summaryCard (sampleInstance .postgresql) (spoofedRegion "us-east-1")
        oneLockCard).ShownAsCleared ∧
      ¬ CardShows (summaryCard (sampleInstance .postgresql)
        (spoofedRegion "us-east-1") oneLockCard) (sampleInstance .postgresql)
        (spoofedRegion "us-east-1") oneLockCard := by
  have hnames : NamesOneLine (sampleInstance .postgresql) "us-east-1"
      oneLockCard := by constructor <;> decide
  have hshown := shownAsCleared_spoofed hnames
  refine ⟨by decide, hshown, fun h => ?_⟩
  exact absurd (h.cleared.mp hshown) (by decide)

end HealthGrid.Monitor
