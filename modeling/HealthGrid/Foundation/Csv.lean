import HealthGrid.Foundation.PyText

/-!
# Comma-separated values

A reader of records that takes one character after the other.  A record is
written by rendering its fields, each either as it is or in quotation marks,
and whatever renderings were chosen, the records are read back.
-/

namespace HealthGrid.Foundation.Csv

/-! ## The reader -/

inductive Phase where
  | startRecord
  | afterReturn
  | startField
  | inField
  | inQuoted
  | quoteInQuoted
  deriving DecidableEq, Repr

structure Reader where
  records : List (List String)
  fields : List String
  field : List Char
  phase : Phase
  deriving DecidableEq, Repr

namespace Reader

def start : Reader := ⟨[], [], [], .startRecord⟩

def add (r : Reader) (c : Char) (phase : Phase) : Reader :=
  { r with field := r.field ++ [c], phase := phase }

def endField (r : Reader) : Reader :=
  { r with
    fields := r.fields ++ [String.ofList r.field]
    field := []
    phase := .startField }

def endRecord (r : Reader) (phase : Phase) : Reader where
  records := r.records ++ [r.fields]
  fields := []
  field := []
  phase := phase

def lineEnd? (c : Char) : Option Phase :=
  if c = '\r' then some .afterReturn
  else if c = '\n' then some .startRecord
  else none

def readPlain (r : Reader) (c : Char) : Reader :=
  match lineEnd? c with
  | some phase => r.endField.endRecord phase
  | none => if c = ',' then r.endField else r.add c .inField

def readFirst (r : Reader) (c : Char) : Reader :=
  if c = '"' then { r with phase := .inQuoted } else r.readPlain c

/-- An empty line is a record without fields. -/
def readNext (r : Reader) (c : Char) : Reader :=
  match lineEnd? c with
  | some phase => r.endRecord phase
  | none => r.readFirst c

def read (r : Reader) (c : Char) : Reader :=
  match r.phase with
  | .startRecord => r.readNext c
  | .afterReturn =>
      if c = '\n' then { r with phase := .startRecord } else r.readNext c
  | .startField => r.readFirst c
  | .inField => r.readPlain c
  | .inQuoted =>
      if c = '"' then { r with phase := .quoteInQuoted }
      else r.add c .inQuoted
  | .quoteInQuoted => if c = '"' then r.add c .inQuoted else r.readPlain c

/-- What is begun when the text ends is a record of its own. -/
def finish (r : Reader) : List (List String) :=
  match r.phase with
  | .startRecord | .afterReturn => r.records
  | _ => r.records ++ [r.endField.fields]

end Reader

def readRecords (text : String) : List (List String) :=
  (text.toList.foldl Reader.read .start).finish

/-! ## Renderings -/

def Special (c : Char) : Prop := c = ',' ∨ c = '"' ∨ c = '\r' ∨ c = '\n'

instance : DecidablePred Special := fun c =>
  inferInstanceAs (Decidable (c = ',' ∨ c = '"' ∨ c = '\r' ∨ c = '\n'))

def doubled (text : List Char) : List Char :=
  text.flatMap fun c => if c = '"' then [c, c] else [c]

inductive Renders (text : List Char) : List Char → Prop
  | plain (h : ∀ c ∈ text, ¬ Special c) : Renders text text
  | quoted : Renders text ('"' :: doubled text ++ ['"'])

def rowChars (renderings : List (List Char)) : List Char :=
  [','].intercalate renderings ++ ['\r', '\n']

/-- A record with one field that is empty and plain would be an empty line. -/
structure RendersRow (fields : List String) (renderings : List (List Char)) :
    Prop where
  renders : List.Forall₂ (fun field => Renders field.toList) fields renderings
  nonempty : [','].intercalate renderings ≠ []

namespace Reader

variable {r : Reader} {text rendering : List Char} {c stop : Char}

theorem readPlain_of_not_special (h : ¬ Special c) :
    r.readPlain c = r.add c .inField := by
  simp only [Special, not_or] at h
  simp [readPlain, lineEnd?, h]

theorem readFirst_of_not_special (h : ¬ Special c) :
    r.readFirst c = r.add c .inField := by
  have hquote : c ≠ '"' := fun hc => h (.inr (.inl hc))
  rw [readFirst, if_neg hquote, readPlain_of_not_special h]

theorem foldl_inField (h : ∀ c ∈ text, ¬ Special c)
    (hphase : r.phase = .inField) :
    text.foldl read r = { r with field := r.field ++ text } := by
  induction text generalizing r with
  | nil => simp
  | cons c text ih =>
      rw [List.forall_mem_cons] at h
      have hread : r.read c = r.add c .inField := by
        rw [read, hphase]
        exact readPlain_of_not_special h.1
      rw [List.foldl_cons, hread, ih h.2 rfl]
      simp [add, hphase]

theorem foldl_inQuoted (hphase : r.phase = .inQuoted) :
    (doubled text).foldl read r = { r with field := r.field ++ text } := by
  induction text generalizing r with
  | nil => simp [doubled]
  | cons c text ih =>
      have hread : (if c = '"' then [c, c] else [c]).foldl read r =
          r.add c .inQuoted := by
        split
        · rename_i hquote
          simp [read, hphase, hquote, add]
        · rename_i hquote
          simp [read, hphase, hquote]
      rw [doubled, List.flatMap_cons, List.foldl_append, hread, ← doubled,
        ih rfl]
      simp [add, hphase]

def Ends (c : Char) : Prop := c = ',' ∨ c = '\r' ∨ c = '\n'

theorem Ends.ne_quote (h : Ends c) : c ≠ '"' := by
  rcases h with rfl | rfl | rfl <;> decide

theorem Ends.readPlain_eq (h : Ends c) {r' : Reader}
    (hrecords : r.records = r'.records) (hfields : r.fields = r'.fields)
    (hfield : r.field = r'.field) : r.readPlain c = r'.readPlain c := by
  rcases h with rfl | rfl | rfl <;>
    simp [readPlain, lineEnd?, endField, endRecord, hrecords, hfields, hfield]

theorem foldl_field (h : Renders text rendering) (hstop : Ends stop)
    (hphase : r.phase = .startField) (hfield : r.field = []) :
    (rendering ++ [stop]).foldl read r =
      { r with field := text }.readPlain stop := by
  rw [List.foldl_append, List.foldl_cons, List.foldl_nil]
  cases h with
  | quoted =>
      have hopen : r.read '"' = { r with phase := .inQuoted } := by
        simp [read, hphase, readFirst]
      rw [List.cons_append, List.foldl_cons, List.foldl_append, hopen,
        foldl_inQuoted rfl]
      simp only [List.foldl_cons, List.foldl_nil, read, if_pos, hfield,
        List.nil_append, if_neg hstop.ne_quote]
      exact hstop.readPlain_eq rfl rfl rfl
  | plain hplain =>
      cases text with
      | nil =>
          rw [List.foldl_nil, read, hphase]
          simp only [readFirst, if_neg hstop.ne_quote]
          exact hstop.readPlain_eq rfl rfl hfield
      | cons c text =>
          rw [List.forall_mem_cons] at hplain
          have hread : r.read c = r.add c .inField := by
            rw [read, hphase]
            exact readFirst_of_not_special hplain.1
          rw [List.foldl_cons, hread, foldl_inField hplain.2 rfl, read]
          exact hstop.readPlain_eq rfl rfl (by simp [add, hfield])

theorem foldl_fields {fields : List String} {renderings : List (List Char)}
    (h : List.Forall₂ (fun field => Renders field.toList) fields renderings)
    (hne : renderings ≠ []) (hphase : r.phase = .startField)
    (hfield : r.field = []) :
    ([','].intercalate renderings ++ ['\r']).foldl read r =
      ⟨r.records ++ [r.fields ++ fields], [], [], .afterReturn⟩ := by
  induction h generalizing r with
  | nil => exact absurd rfl hne
  | @cons field rendering fields renderings hrenders hrest ih =>
      cases hrest with
      | nil =>
          rw [List.intercalate_singleton,
            foldl_field hrenders (.inr (.inl rfl)) hphase hfield]
          simp [readPlain, lineEnd?, endField, endRecord]
      | cons hnext hrest =>
          rw [List.intercalate_cons_cons, List.append_assoc, List.append_assoc,
            ← List.append_assoc rendering, List.foldl_append,
            foldl_field hrenders (.inl rfl) hphase hfield, ih (by simp)]
          · simp [readPlain, lineEnd?, endField]
          · simp [readPlain, lineEnd?, endField]
          · simp [readPlain, lineEnd?, endField]

end Reader

/-! ## Records -/

section Records

variable {fields : List String} {renderings : List (List Char)}
  {rows : List (List String)} {rendered : List (List (List Char))}

theorem intercalate_cons (rendering : List Char)
    (renderings : List (List Char)) :
    ∃ tail, [','].intercalate (rendering :: renderings) = rendering ++ tail ∧
      ∀ c rest, tail = c :: rest → c = ',' := by
  cases renderings with
  | nil => exact ⟨[], by simp, by simp⟩
  | cons next renderings =>
      rw [List.intercalate_cons_cons, List.append_assoc]
      refine ⟨_, rfl, ?_⟩
      intro c rest htail
      exact (List.cons.inj htail).1.symm

theorem lineEnd?_eq_none {c : Char} (h : c = ',' ∨ c = '"' ∨ ¬ Special c) :
    Reader.lineEnd? c = none := by
  have hne : c ≠ '\r' ∧ c ≠ '\n' := by
    rcases h with rfl | rfl | hc
    · decide
    · decide
    · simp only [Special, not_or] at hc
      exact hc.2.2
  rw [Reader.lineEnd?, if_neg hne.1, if_neg hne.2]

theorem RendersRow.head_inside (h : RendersRow fields renderings) {c : Char}
    {rest : List Char} (hchars : [','].intercalate renderings = c :: rest) :
    Reader.lineEnd? c = none := by
  apply lineEnd?_eq_none
  cases h.renders with
  | nil => exact absurd hchars (by simp)
  | @cons field rendering _ renderings hfirst _ =>
      obtain ⟨tail, htail, hcomma⟩ := intercalate_cons rendering renderings
      rw [htail] at hchars
      cases hfirst with
      | quoted => exact .inr (.inl (List.cons.inj hchars).1.symm)
      | plain hplain =>
          cases htext : field.toList with
          | nil =>
              rw [htext, List.nil_append] at hchars
              exact .inl (hcomma c rest hchars)
          | cons first text =>
              rw [htext, List.forall_mem_cons] at hplain
              rw [htext] at hchars
              have hc : first = c := (List.cons.inj hchars).1
              exact .inr (.inr (hc ▸ hplain.1))

theorem foldl_row (h : RendersRow fields renderings)
    (records : List (List String)) :
    (rowChars renderings).foldl Reader.read ⟨records, [], [], .startRecord⟩ =
      ⟨records ++ [fields], [], [], .startRecord⟩ := by
  have hne : renderings ≠ [] := by
    rintro rfl
    exact h.nonempty rfl
  obtain ⟨c, rest, hchars⟩ := List.exists_cons_of_ne_nil h.nonempty
  have hfirst : Reader.read ⟨records, [], [], .startRecord⟩ c =
      Reader.read ⟨records, [], [], .startField⟩ c := by
    simp only [Reader.read, Reader.readNext, h.head_inside hchars,
      Reader.readFirst, Reader.readPlain, Reader.endField, Reader.add]
  have hrow : rowChars renderings =
      ([','].intercalate renderings ++ ['\r']) ++ ['\n'] := by
    simp [rowChars]
  have hread := Reader.foldl_fields (r := ⟨records, [], [], .startField⟩)
    h.renders hne rfl rfl
  rw [hchars, List.cons_append, List.foldl_cons, ← hfirst] at hread
  rw [hrow, hchars, List.foldl_append, List.cons_append,
    List.foldl_cons (l := rest ++ ['\r']), hread]
  rfl

theorem foldl_rows (h : List.Forall₂ RendersRow rows rendered)
    (records : List (List String)) :
    (rendered.flatMap rowChars).foldl Reader.read
        ⟨records, [], [], .startRecord⟩ =
      ⟨records ++ rows, [], [], .startRecord⟩ := by
  induction h generalizing records with
  | nil => simp
  | cons hrow _ ih =>
      rw [List.flatMap_cons, List.foldl_append, foldl_row hrow, ih,
        List.append_assoc, List.singleton_append]

/-- The records are read back, whichever renderings were chosen. -/
theorem readRecords_rowChars (h : List.Forall₂ RendersRow rows rendered) :
    readRecords (String.ofList (rendered.flatMap rowChars)) = rows := by
  rw [readRecords, String.toList_ofList, Reader.start, foldl_rows h]
  rfl

end Records

example : readRecords "a,\"b\"\"c\r\n,d\"\r\n\r\ne," =
    [["a", "b\"c\r\n,d"], [], ["e", ""]] := by
  decide

end HealthGrid.Foundation.Csv
