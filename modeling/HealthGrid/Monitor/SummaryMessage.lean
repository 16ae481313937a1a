import HealthGrid.Monitor.Notifications

/-!
# The text of a lock summary card

`_summary_message` writes one line for each fact of a card.  The last line is
the status message, which for a clear tells who cleared the locks.
-/

namespace HealthGrid.Monitor

open HealthGrid.Foundation

/-! ## Dates -/

def civilDate (days : Int) : Int × Int × Int :=
  let shifted := days + 719468
  let dayOfEra := shifted % 146097
  let yearOfEra := (dayOfEra - dayOfEra / 1460 + dayOfEra / 36524 -
    dayOfEra / 146096) / 365
  let dayOfYear := dayOfEra -
    (365 * yearOfEra + yearOfEra / 4 - yearOfEra / 100)
  -- years begin in March here, so that a leap day comes last
  let monthIndex := (5 * dayOfYear + 2) / 153
  let month := if monthIndex < 10 then monthIndex + 3 else monthIndex - 9
  let year := yearOfEra + shifted / 146097 * 400
  (if month ≤ 2 then year + 1 else year, month,
    dayOfYear - (153 * monthIndex + 2) / 5 + 1)

def twoDigits (n : Int) : String :=
  if n < 10 then "0" ++ toString n else toString n

def timestamp (value : Option Time) : String :=
  match value with
  | none => "—"
  | some value =>
      let (year, month, day) := civilDate ((value + 5 * hour + hour / 2) /
        (24 * hour))
      let seconds := localTime value / 1000000
      toString year ++ "-" ++ twoDigits month ++ "-" ++ twoDigits day ++ " " ++
        twoDigits (seconds / 3600) ++ ":" ++ twoDigits (seconds / 60 % 60) ++
        ":" ++ twoDigits (seconds % 60) ++ " IST"

example : timestamp (some 1709144730000000) = "2024-02-28 23:55:30 IST" ∧
    timestamp (some (1709144730000000 + 24 * hour)) =
      "2024-02-29 23:55:30 IST" := by decide

/-! ## Lists in a text -/

def separator : String := " · "

def pairText (limit : Nat) (keys : List String) : String :=
  let pairs := keys.map (PyText.replaceFirst ':' " → ")
  let text := separator.intercalate pairs
  if text.length ≤ limit then
    if text = "" then "—" else text
  else
    let visible := PyText.beforeLast separator
      (String.ofList (text.toList.take (limit - 30)))
    visible ++ " · … (" ++ toString pairs.length ++ " total)"

/-- `str(key).replace(":", " → ", 1)` -/
def renderedKey (key : String) : String :=
  PyText.replaceFirst ':' " → " key

def joinedKeys (keys : List String) : String :=
  separator.intercalate (keys.map renderedKey)

theorem pairText_eq (limit : Nat) (keys : List String) :
    pairText limit keys =
      if (joinedKeys keys).length ≤ limit then
        if joinedKeys keys = "" then "—" else joinedKeys keys
      else
        PyText.beforeLast separator
            (String.ofList ((joinedKeys keys).toList.take (limit - 30))) ++
          " · … (" ++ toString keys.length ++ " total)" := by
  unfold pairText
  dsimp only
  rw [List.length_map]
  rfl

def ShownInFull (limit : Nat) (names : List String) : Prop :=
  separator.intercalate names ≠ "" ∧ (∀ name ∈ names, ':' ∉ name.toList) ∧
    (separator.intercalate names).length ≤ limit

instance (limit : Nat) (names : List String) :
    Decidable (ShownInFull limit names) :=
  inferInstanceAs (Decidable (_ ∧ _ ∧ _))

theorem pairText_of_shownInFull {limit : Nat} {names : List String}
    (h : ShownInFull limit names) :
    pairText limit names = separator.intercalate names := by
  obtain ⟨hne, hcolon, hlength⟩ := h
  have hsame : names.map renderedKey = names := by
    conv_rhs => rw [← List.map_id names]
    apply List.map_congr_left
    intro name hmem
    exact PyText.replaceFirst_of_not_mem (hcolon name hmem)
  rw [pairText_eq, joinedKeys, hsame, if_pos hlength, if_neg hne]

/-! ## Who cleared the locks -/

def manualKills (alerts : List LockAlert) : List LockAlert :=
  alerts.filter fun alert => alert.clearReason == "manual_kill"

/-- `sorted({alert.cleared_by for alert in manual_clears if …})`. -/
def killUsers (alerts : List LockAlert) : List String :=
  PyText.sorted (((manualKills alerts).map LockAlert.clearedBy).filter
    (· ≠ "")).dedup

def killedPids (alerts : List LockAlert) : List String :=
  (((manualKills alerts).flatMap fun alert =>
    [alert.blockedPid, alert.blockingPid]).dedup.insertionSort
      (· ≤ ·)).map toString

def automaticText : String := "All tracked locks are cleared automatically."

def manualText (users pids : String) : String :=
  "All tracked locks are cleared. Manual kill recorded by " ++ users ++
    " for PID(s): " ++ pids ++ "."

theorem manualText_ne_automaticText (users pids : String) :
    manualText users pids ≠ automaticText := by
  intro h
  have hstart : "All tracked locks are cleared. ".toList <+:
      (manualText users pids).toList := by
    unfold manualText
    rw [String.toList_append, String.toList_append, String.toList_append,
      String.toList_append]
    simp only [List.append_assoc]
    refine List.IsPrefix.trans ?_ (List.prefix_append _ _)
    decide
  rw [h] at hstart
  exact absurd hstart (by decide)

/-! ## The message -/

/-- The local variable `message` of `_summary_message`. -/
def messageText (card : Card) : String :=
  let count := toString card.alerts.length
  match card.event with
  | .cleared =>
      if manualKills card.clearedAlerts ≠ [] then
        manualText (pairText 1200 (killUsers card.clearedAlerts))
          (pairText 600 (killedPids card.clearedAlerts))
      else automaticText
  | .storm =>
      count ++ " simultaneous locks detected in one check. Action required: " ++
        "review the blocking sessions. This storm alert will not repeat " ++
        "until all locks clear."
  | _ =>
      if card.alerts.length = 1 then
        "1 lock is still active. Action required: review the blocking session."
      else
        count ++ " locks are still active. Action required: review the " ++
          "blocking sessions."

def clearReasonText (alerts : List LockAlert) : String :=
  if manualKills alerts ≠ [] then "MANUALLY KILLED"
  else if alerts ≠ [] then "AUTO-CLEARED"
  else "—"

def eventLabel : CardEvent → String
  | .initial => "INITIAL SUMMARY"
  | .update => "ACTIVE SUMMARY UPDATE"
  | .cleared => "ALL LOCKS CLEARED"
  | .storm => "LOCK STORM DETECTED"

def summaryMessage (inst : RDSInstance) (region : String) (card : Card) :
    String :=
  let state := match card.event with
    | .cleared => "LOCK SUMMARY CLEARED"
    | .storm => "LOCK STORM"
    | _ => "LOCK SUMMARY"
  let status := if card.event = .cleared then "CLEARED" else "ACTIVE"
  let firstSeen := (card.alerts.map LockAlert.firstSeenAt).min?
  let lastSeen := (card.alerts.map LockAlert.lastSeenAt).max?
  "\n".intercalate
    ["HealthGrid: " ++ state,
      "Status: " ++ status,
      "Alert event: " ++ eventLabel card.event,
      "Database: " ++ inst.name ++ " (" ++ inst.dbIdentifier ++ ")",
      "Region: " ++ region,
      "Active locks: " ++ toString card.alerts.length,
      "Active PID pairs: " ++
        pairText 3200 (card.alerts.map LockAlert.alertKey),
      "Cleared since previous card: " ++ toString card.clearedKeys.length,
      "Cleared PID pairs: " ++ pairText 3200 card.clearedKeys,
      "Clear reason: " ++ clearReasonText card.clearedAlerts,
      "Cleared by: " ++ pairText 1200 (killUsers card.clearedAlerts),
      "Previously active: " ++ toString card.previousActiveKeys.length,
      "First observed: " ++ timestamp firstSeen,
      "Last observed: " ++ timestamp (lastSeen.or (some card.sentAt)),
      "Sent at: " ++ timestamp (some card.sentAt),
      "Message: " ++ messageText card]

end HealthGrid.Monitor
