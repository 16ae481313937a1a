import HealthGrid.Foundation.Dict
import HealthGrid.Foundation.PyText

/-!
# Texts of labelled lines

A text gives each field a line `label: value`.  It is read back line by line,
and of two lines with one label the later one counts.
-/

namespace HealthGrid.Foundation

def fieldLine (field : String × String) : String :=
  field.1 ++ ": " ++ field.2

def fieldText (fields : List (String × String)) : String :=
  "\n".intercalate (fields.map fieldLine)

/-- A line without the separator says nothing. -/
def readLine (values : Dict String String) (line : List Char) :
    Dict String String :=
  match PyText.splitFirst? [':', ' '] line with
  | none => values
  | some (key, value) => values.set (String.ofList key) (String.ofList value)

def readFields (text : String) : Dict String String :=
  (text.toList.splitOn '\n').foldl readLine .empty

theorem fieldText_break (front rest : List (String × String))
    (key value : String) (field : String × String) :
    fieldText (front ++ (key, value ++ "\n" ++ fieldLine field) :: rest) =
      fieldText (front ++ (key, value) :: field :: rest) := by
  have hline : fieldLine (key, value ++ "\n" ++ fieldLine field) =
      fieldLine (key, value) ++ "\n" ++ fieldLine field := by
    simp only [fieldLine, String.append_assoc]
  unfold fieldText
  induction front with
  | nil =>
      cases rest with
      | nil =>
          simp only [List.nil_append, List.map_cons, List.map_nil, hline,
            String.intercalate_cons_cons, String.intercalate_singleton]
      | cons next rest =>
          simp only [List.nil_append, List.map_cons,
            String.intercalate_cons_cons]
          rw [hline]
          simp only [String.append_assoc]
  | cons first front ih =>
      rw [List.cons_append, List.cons_append, List.map_cons, List.map_cons,
        String.intercalate_cons_of_ne_nil (by simp),
        String.intercalate_cons_of_ne_nil (by simp), ih]

structure Readable (field : String × String) : Prop where
  label : ':' ∉ field.1.toList
  labelLine : '\n' ∉ field.1.toList
  valueLine : '\n' ∉ field.2.toList

section Reading

variable {field : String × String} {fields : List (String × String)}
  {key value : String}

theorem newline_not_mem_fieldLine (h : Readable field) :
    '\n' ∉ (fieldLine field).toList := by
  simp [fieldLine, h.labelLine, h.valueLine]

theorem readLine_fieldLine (h : Readable field) (values : Dict String String) :
    readLine values (fieldLine field).toList = values.set field.1 field.2 := by
  have hline : (fieldLine field).toList =
      field.1.toList ++ [':', ' '] ++ field.2.toList := by simp [fieldLine]
  rw [readLine, hline, PyText.splitFirst?_of_not_mem h.label]
  simp only [String.ofList_toList]

theorem foldl_readLine (h : ∀ field ∈ fields, Readable field)
    (values : Dict String String) :
    (fields.map fun field => (fieldLine field).toList).foldl readLine values =
      values.setAll fields := by
  induction fields generalizing values with
  | nil => rfl
  | cons field fields ih =>
      rw [List.map_cons, List.foldl_cons,
        readLine_fieldLine (h field (List.mem_cons_self ..))]
      exact ih (fun other hmem => h other (List.mem_cons_of_mem _ hmem)) _

theorem readFields_fieldText (h : ∀ field ∈ fields, Readable field) :
    readFields (fieldText fields) = Dict.empty.setAll fields := by
  cases fields with
  | nil => rfl
  | cons first rest =>
      have hlines : ∀ line ∈ (first :: rest).map fun field =>
          (fieldLine field).toList, '\n' ∉ line := by
        intro line hline
        obtain ⟨field, hmem, rfl⟩ := List.mem_map.mp hline
        exact newline_not_mem_fieldLine (h field hmem)
      have htext : (fieldText (first :: rest)).toList =
          ['\n'].intercalate ((first :: rest).map fun field =>
            (fieldLine field).toList) := by
        simp [fieldText, String.toList_intercalate, Function.comp_def]
      rw [readFields, htext, List.splitOn_intercalate _ hlines (by simp)]
      exact foldl_readLine h .empty

theorem get?_readFields_last {front rest : List (String × String)}
    (h : ∀ field ∈ front ++ (key, value) :: rest, Readable field)
    (hlast : ∀ other, (key, other) ∉ rest) :
    (readFields (fieldText (front ++ (key, value) :: rest))).get? key =
      some value := by
  have hsplit : Dict.empty.setAll (front ++ (key, value) :: rest) =
      ((Dict.empty.setAll front).set key value).setAll rest := by
    simp [Dict.setAll, List.foldl_append]
  rw [readFields_fieldText h, hsplit, Dict.get?_setAll_of_not_mem hlast,
    Dict.get?_set, if_pos rfl]

def WithoutNewlines (values : Dict String String) : Prop :=
  ∀ key value, values.get? key = some value → '\n' ∉ value.toList

theorem withoutNewlines_readLine {values : Dict String String}
    {line : List Char} (h : WithoutNewlines values) (hline : '\n' ∉ line) :
    WithoutNewlines (readLine values line) := by
  intro key value hget
  unfold readLine at hget
  split at hget
  · exact h key value hget
  · rename_i front rest hsplit
    rw [Dict.get?_set] at hget
    split at hget
    · obtain rfl := Option.some.inj hget
      rw [String.toList_ofList]
      exact fun hmem => hline (PyText.mem_of_splitFirst? hsplit hmem)
    · exact h key value hget

theorem withoutNewlines_foldl {lines : List (List Char)}
    {values : Dict String String} (h : WithoutNewlines values)
    (hlines : ∀ line ∈ lines, '\n' ∉ line) :
    WithoutNewlines (lines.foldl readLine values) := by
  induction lines generalizing values with
  | nil => exact h
  | cons line lines ih =>
      have hline := hlines line (List.mem_cons_self ..)
      exact ih (withoutNewlines_readLine h hline) fun other hmem =>
        hlines other (List.mem_cons_of_mem _ hmem)

theorem newline_not_mem_readFields {text : String}
    (h : (readFields text).get? key = some value) : '\n' ∉ value.toList := by
  have hempty : WithoutNewlines .empty := by
    intro key value hget
    simp [Dict.get?, Dict.empty] at hget
  exact withoutNewlines_foldl hempty
    (fun _ => PyText.not_mem_of_mem_splitOn) key value h

end Reading

end HealthGrid.Foundation
