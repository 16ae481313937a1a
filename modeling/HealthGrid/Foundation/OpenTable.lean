import Mathlib.Data.List.Nodup

/-!
# Tables with one open row for each key

Rows have a primary key and stand for a key.  A partial unique constraint
allows any number of closed rows for a key and at most one open row.  Rows are
added at the end, changed in place, and never reopened.
-/

namespace HealthGrid.Foundation

class OpenRow (ρ : Type) (κ : outParam Type) where
  pk : ρ → Nat
  key : ρ → κ
  isOpen : ρ → Bool

export OpenRow (pk key isOpen)

variable {ρ κ : Type} [OpenRow ρ κ]

structure OpenTable (ρ : Type) {κ : Type} [OpenRow ρ κ] where
  rows : List ρ
  nextPk : Nat
  pk_lt : ∀ row ∈ rows, pk row < nextPk
  pk_nodup : (rows.map pk).Nodup
  unique_open : ((rows.filter isOpen).map key).Nodup

/-- A change that keeps the identity of every row and reopens none. -/
structure Keeps (change : ρ → ρ) : Prop where
  pk : ∀ row, pk (change row) = pk row
  key : ∀ row, key (change row) = key row
  isOpen : ∀ row, isOpen (change row) = true → isOpen row = true

theorem Keeps.comp {change change' : ρ → ρ} (h : Keeps change)
    (h' : Keeps change') : Keeps (fun row => change (change' row)) where
  pk row := by rw [h.pk, h'.pk]
  key row := by rw [h.key, h'.key]
  isOpen row hopen := h'.isOpen _ (h.isOpen _ hopen)

theorem Keeps.ite {change : ρ → ρ} (h : Keeps change) (chosen : ρ → Prop)
    [DecidablePred chosen] :
    Keeps (fun row => if chosen row then change row else row) where
  pk row := by
    split
    · exact h.pk row
    · rfl
  key row := by
    split
    · exact h.key row
    · rfl
  isOpen row := by
    split
    · exact h.isOpen row
    · exact id

private theorem open_keys_sublist {change : ρ → ρ} (h : Keeps change)
    (rows : List ρ) :
    (((rows.map change).filter isOpen).map key).Sublist
      ((rows.filter isOpen).map key) := by
  induction rows with
  | nil => exact .slnil
  | cons row rows ih =>
      rw [List.map_cons]
      cases hnew : isOpen (change row) with
      | false =>
          rw [List.filter_cons_of_neg (by simp [hnew])]
          exact ih.trans ((List.sublist_cons_self row rows).filter _ |>.map _)
      | true =>
          rw [List.filter_cons_of_pos hnew,
            List.filter_cons_of_pos (h.isOpen row hnew), List.map_cons,
            List.map_cons, h.key]
          exact ih.cons_cons _

theorem filter_map_of_same {α : Type} {change : α → α} {p : α → Bool}
    {rows : List α}
    (h : ∀ row ∈ rows, change row = row ∨
      (p row = false ∧ p (change row) = false)) :
    (rows.map change).filter p = rows.filter p := by
  induction rows with
  | nil => rfl
  | cons row rows ih =>
      have hrest := ih fun other hmem => h other (List.mem_cons_of_mem _ hmem)
      rw [List.map_cons, List.filter_cons, List.filter_cons, hrest]
      rcases h row (List.mem_cons_self ..) with hsame | ⟨hold, hnew⟩
      · rw [hsame]
      · simp [hold, hnew]

namespace OpenTable

def empty : OpenTable ρ := ⟨[], 0, by simp, by simp, by simp⟩

def update (table : OpenTable ρ) (change : ρ → ρ) (h : Keeps change) :
    OpenTable ρ where
  rows := table.rows.map change
  nextPk := table.nextPk
  pk_lt := by
    intro row hmem
    obtain ⟨old, hold, rfl⟩ := List.mem_map.mp hmem
    rw [h.pk]
    exact table.pk_lt old hold
  pk_nodup := by
    rw [List.map_map, show pk ∘ change = (pk : ρ → Nat) from funext h.pk]
    exact table.pk_nodup
  unique_open := (open_keys_sublist h table.rows).nodup table.unique_open

@[simp] theorem update_rows (table : OpenTable ρ) (change : ρ → ρ)
    (h : Keeps change) : (table.update change h).rows = table.rows.map change :=
  rfl

def filter (table : OpenTable ρ) (keep : ρ → Bool) : OpenTable ρ where
  rows := table.rows.filter keep
  nextPk := table.nextPk
  pk_lt row hmem := table.pk_lt row (List.mem_of_mem_filter hmem)
  pk_nodup := table.pk_nodup.sublist (List.filter_sublist.map _)
  unique_open := table.unique_open.sublist
    ((List.filter_sublist.filter _).map _)

@[simp] theorem filter_rows (table : OpenTable ρ) (keep : ρ → Bool) :
    (table.filter keep).rows = table.rows.filter keep := rfl

theorem eq_of_pk_eq {table : OpenTable ρ} {row row' : ρ}
    (h : row ∈ table.rows) (h' : row' ∈ table.rows)
    (heq : pk row = pk row') : row = row' :=
  List.inj_on_of_nodup_map table.pk_nodup h h' heq

def findPk? (table : OpenTable ρ) (n : Nat) : Option ρ :=
  table.rows.find? fun row => pk row == n

theorem findPk?_eq_some {table : OpenTable ρ} {n : Nat} {row : ρ} :
    table.findPk? n = some row ↔ row ∈ table.rows ∧ pk row = n := by
  unfold findPk?
  constructor
  · intro h
    exact ⟨List.mem_of_find?_eq_some h, by simpa using List.find?_some h⟩
  · rintro ⟨hmem, rfl⟩
    cases hfind : table.rows.find? (fun other => pk other == pk row) with
    | none => simpa using List.find?_eq_none.mp hfind row hmem
    | some other =>
        have hpk : pk other = pk row := by simpa using List.find?_some hfind
        rw [eq_of_pk_eq (List.mem_of_find?_eq_some hfind) hmem hpk]

/-- The partial unique constraint. -/
theorem eq_of_open {table : OpenTable ρ} {row row' : ρ}
    (h : row ∈ table.rows) (h' : row' ∈ table.rows)
    (hopen : isOpen row = true) (hopen' : isOpen row' = true)
    (heq : key row = key row') : row = row' :=
  List.inj_on_of_nodup_map table.unique_open
    (List.mem_filter.mpr ⟨h, hopen⟩) (List.mem_filter.mpr ⟨h', hopen'⟩) heq

/-- Every row of the table is still there, for its key and open as it was. -/
def Tracks (table table' : OpenTable ρ) : Prop :=
  ∀ row ∈ table.rows, ∃ row' ∈ table'.rows,
    pk row' = pk row ∧ key row' = key row ∧ isOpen row' = isOpen row

theorem Tracks.refl (table : OpenTable ρ) : Tracks table table :=
  fun row hmem => ⟨row, hmem, rfl, rfl, rfl⟩

theorem Tracks.trans {table table' table'' : OpenTable ρ}
    (first : Tracks table table') (second : Tracks table' table'') :
    Tracks table table'' := by
  intro row hmem
  obtain ⟨row', hmem', hpk, hkey, hopen⟩ := first row hmem
  obtain ⟨row'', hmem'', hpk', hkey', hopen'⟩ := second row' hmem'
  exact ⟨row'', hmem'', hpk'.trans hpk, hkey'.trans hkey, hopen'.trans hopen⟩

theorem tracks_update (table : OpenTable ρ) (change : ρ → ρ) (h : Keeps change)
    (hopen : ∀ row, isOpen (change row) = isOpen row) :
    Tracks table (table.update change h) :=
  fun row hmem => ⟨change row, List.mem_map_of_mem hmem, h.pk row, h.key row,
    hopen row⟩

/-! ## Deleting closed rows -/

theorem ext_rows {table table' : OpenTable ρ} (hrows : table.rows = table'.rows)
    (hpk : table.nextPk = table'.nextPk) : table = table' := by
  cases table
  cases table'
  subst hrows hpk
  rfl

def without (table : OpenTable ρ) (pks : List Nat) : OpenTable ρ :=
  table.filter fun row => decide (pk row ∉ pks)

/-- The keys are those of closed rows, or of rows deleted long ago. -/
structure Droppable (table : OpenTable ρ) (pks : List Nat) : Prop where
  closed : ∀ row ∈ table.rows, pk row ∈ pks → isOpen row = false
  used : ∀ n ∈ pks, n < table.nextPk

theorem mem_without {table : OpenTable ρ} {pks : List Nat} {row : ρ} :
    row ∈ (table.without pks).rows ↔ row ∈ table.rows ∧ pk row ∉ pks := by
  simp [without]

theorem without_nil (table : OpenTable ρ) : table.without [] = table :=
  ext_rows (by simp [without]) rfl

theorem filter_without {table : OpenTable ρ} {pks : List Nat} {p : ρ → Bool}
    (h : ∀ row ∈ table.rows, p row = true → pk row ∉ pks) :
    (table.without pks).rows.filter p = table.rows.filter p := by
  rw [without, filter_rows, List.filter_filter]
  apply List.filter_congr
  intro row hmem
  cases hp : p row with
  | false => rfl
  | true => simp [h row hmem hp]

theorem without_update (table : OpenTable ρ) (pks : List Nat) (change : ρ → ρ)
    (h : Keeps change) :
    (table.without pks).update change h = (table.update change h).without pks := by
  refine ext_rows ?_ rfl
  simp only [without, update_rows, filter_rows, List.filter_map]
  congr 1
  apply List.filter_congr
  intro row _
  simp [Function.comp, h.pk]

theorem droppable_update {table : OpenTable ρ} {pks : List Nat} {change : ρ → ρ}
    (h : Droppable table pks) (hchange : Keeps change) :
    Droppable (table.update change hchange) pks where
  closed row hmem hpk := by
    obtain ⟨old, hold, rfl⟩ := List.mem_map.mp hmem
    rw [hchange.pk] at hpk
    have hclosed := h.closed old hold hpk
    cases hopen : isOpen (change old) with
    | false => rfl
    | true =>
        rw [hchange.isOpen old hopen] at hclosed
        cases hclosed
  used := h.used

theorem filter_of_without (table : OpenTable ρ) (pks : List Nat) (p : ρ → Bool) :
    (table.without pks).filter (fun row => !p row) =
      table.without (pks ++ (table.rows.filter p).map pk) := by
  refine ext_rows ?_ rfl
  simp only [without, filter_rows, List.filter_filter]
  apply List.filter_congr
  intro row hmem
  have hpk : pk row ∈ (table.rows.filter p).map pk ↔ p row = true := by
    constructor
    · intro h
      obtain ⟨other, hother, heq⟩ := List.mem_map.mp h
      rw [List.mem_filter] at hother
      rw [← eq_of_pk_eq hother.1 hmem heq]
      exact hother.2
    · intro h
      exact List.mem_map_of_mem (List.mem_filter.mpr ⟨hmem, h⟩)
  cases hp : p row <;> simp [hpk, hp]

theorem droppable_append {table : OpenTable ρ} {pks : List Nat} {p : ρ → Bool}
    (h : Droppable table pks)
    (hclosed : ∀ row ∈ table.rows, p row = true → isOpen row = false) :
    Droppable table (pks ++ (table.rows.filter p).map pk) where
  closed row hmem hpk := by
    rcases List.mem_append.mp hpk with hold | hnew
    · exact h.closed row hmem hold
    · obtain ⟨other, hother, heq⟩ := List.mem_map.mp hnew
      rw [List.mem_filter] at hother
      rw [← eq_of_pk_eq hother.1 hmem heq]
      exact hclosed other hother.1 hother.2
  used n hmem := by
    rcases List.mem_append.mp hmem with hold | hnew
    · exact h.used n hold
    · obtain ⟨other, hother, rfl⟩ := List.mem_map.mp hnew
      exact table.pk_lt other (List.mem_of_mem_filter hother)

/-! ## Keys -/

variable [DecidableEq κ]

def findOpen? (table : OpenTable ρ) (k : κ) : Option ρ :=
  table.rows.find? fun row => isOpen row && key row == k

theorem findOpen?_spec {table : OpenTable ρ} {k : κ} {row : ρ}
    (h : table.findOpen? k = some row) :
    row ∈ table.rows ∧ isOpen row = true ∧ key row = k := by
  have hfound := List.find?_some h
  rw [Bool.and_eq_true, beq_iff_eq] at hfound
  exact ⟨List.mem_of_find?_eq_some h, hfound⟩

theorem findOpen?_eq_none {table : OpenTable ρ} {k : κ} :
    table.findOpen? k = none ↔
      ∀ row ∈ table.rows, isOpen row = true → key row ≠ k := by
  unfold findOpen?
  rw [List.find?_eq_none]
  simp only [Bool.and_eq_true, beq_iff_eq, not_and, ne_eq]

def insert (table : OpenTable ρ) (row : ρ) (hpk : pk row = table.nextPk)
    (hkey : table.findOpen? (key row) = none) : OpenTable ρ where
  rows := table.rows ++ [row]
  nextPk := table.nextPk + 1
  pk_lt := by
    intro other hmem
    rw [List.mem_append, List.mem_singleton] at hmem
    rcases hmem with hold | rfl
    · have := table.pk_lt other hold
      omega
    · omega
  pk_nodup := by
    rw [List.map_append]
    refine table.pk_nodup.append (by simp) ?_
    intro n hold hnew
    obtain ⟨other, hmem, rfl⟩ := List.mem_map.mp hold
    rw [List.map_singleton, List.mem_singleton, hpk] at hnew
    have := table.pk_lt other hmem
    omega
  unique_open := by
    rw [List.filter_append, List.map_append]
    refine table.unique_open.append ?_ ?_
    · cases hopen : isOpen row <;> simp [hopen]
    · intro k hold hnew
      obtain ⟨other, hmem, rfl⟩ := List.mem_map.mp hold
      rw [List.mem_filter] at hmem
      obtain ⟨new, hnew, heq⟩ := List.mem_map.mp hnew
      rw [List.mem_filter, List.mem_singleton] at hnew
      obtain ⟨rfl, -⟩ := hnew
      exact findOpen?_eq_none.mp hkey other hmem.1 hmem.2 heq.symm

@[simp] theorem insert_rows (table : OpenTable ρ) (row : ρ)
    (hpk : pk row = table.nextPk)
    (hkey : table.findOpen? (key row) = none) :
    (table.insert row hpk hkey).rows = table.rows ++ [row] := rfl

theorem tracks_insert (table : OpenTable ρ) (row : ρ)
    (hpk : pk row = table.nextPk) (hkey : table.findOpen? (key row) = none) :
    Tracks table (table.insert row hpk hkey) :=
  fun other hmem => ⟨other, List.mem_append_left _ hmem, rfl, rfl, rfl⟩

def history (table : OpenTable ρ) (k : κ) : List ρ :=
  table.rows.filter fun row => key row == k

@[simp] theorem mem_history {table : OpenTable ρ} {k : κ} {row : ρ} :
    row ∈ table.history k ↔ row ∈ table.rows ∧ key row = k := by
  simp [history]

theorem history_insert (table : OpenTable ρ) (row : ρ)
    (hpk : pk row = table.nextPk) (hkey : table.findOpen? (key row) = none)
    (k : κ) :
    (table.insert row hpk hkey).history k =
      if key row = k then table.history k ++ [row] else table.history k := by
  unfold history
  rw [insert_rows, List.filter_append]
  by_cases h : key row = k
  · rw [if_pos h, List.filter_cons_of_pos (by simp [h]), List.filter_nil]
  · rw [if_neg h, List.filter_cons_of_neg (by simp [h]), List.filter_nil,
      List.append_nil]

theorem history_update (table : OpenTable ρ) (change : ρ → ρ)
    (h : Keeps change) (k : κ) :
    (table.update change h).history k = (table.history k).map change := by
  unfold history
  rw [update_rows, List.filter_map]
  congr 1
  apply List.filter_congr
  intro row _
  rw [Function.comp, h.key]

theorem findOpen?_eq_find?_history (table : OpenTable ρ) (k : κ) :
    table.findOpen? k = (table.history k).find? isOpen := by
  unfold findOpen? history
  rw [List.find?_filter]
  congr 1
  funext row
  rw [Bool.eq_iff_iff]
  simp [and_comm]

theorem findOpen?_eq_some {table : OpenTable ρ} {k : κ} {row : ρ} :
    table.findOpen? k = some row ↔
      row ∈ table.rows ∧ isOpen row = true ∧ key row = k := by
  constructor
  · exact findOpen?_spec
  · rintro ⟨hmem, hopen, hkey⟩
    cases hfind : table.findOpen? k with
    | none => exact absurd hkey (findOpen?_eq_none.mp hfind row hmem hopen)
    | some other =>
        obtain ⟨hmem', hopen', hkey'⟩ := findOpen?_spec hfind
        rw [eq_of_open hmem hmem' hopen hopen' (hkey.trans hkey'.symm)]

theorem any_open_history {table : OpenTable ρ} {k : κ} :
    (table.history k).any isOpen = (table.findOpen? k).isSome := by
  rw [Bool.eq_iff_iff, List.any_eq_true, Option.isSome_iff_exists]
  simp only [mem_history, findOpen?_eq_some, and_assoc]
  constructor
  · rintro ⟨row, hmem, hkey, hopen⟩
    exact ⟨row, hmem, hopen, hkey⟩
  · rintro ⟨row, hmem, hopen, hkey⟩
    exact ⟨row, hmem, hkey, hopen⟩

theorem pk_eq_iff_open {table : OpenTable ρ} {k : κ} {found row : ρ}
    (hfind : table.findOpen? k = some found) (hmem : row ∈ table.history k) :
    pk row = pk found ↔ isOpen row = true := by
  obtain ⟨hfound, hopen, hkey⟩ := findOpen?_spec hfind
  rw [mem_history] at hmem
  constructor
  · intro heq
    rw [eq_of_pk_eq hmem.1 hfound heq]
    exact hopen
  · intro hrow
    rw [eq_of_open hmem.1 hfound hrow hopen (hmem.2.trans hkey.symm)]

theorem pk_ne_of_key_ne {table : OpenTable ρ} {k k' : κ} {found row : ρ}
    (hfind : table.findOpen? k = some found) (hmem : row ∈ table.history k')
    (hne : k' ≠ k) : pk row ≠ pk found := by
  obtain ⟨hfound, -, hkey⟩ := findOpen?_spec hfind
  rw [mem_history] at hmem
  intro heq
  have hrow := eq_of_pk_eq hmem.1 hfound heq
  exact hne (by rw [← hmem.2, hrow, hkey])

theorem findOpen?_without {table : OpenTable ρ} {pks : List Nat}
    (h : Droppable table pks) (k : κ) :
    (table.without pks).findOpen? k = table.findOpen? k := by
  apply Option.ext
  intro row
  rw [findOpen?_eq_some, findOpen?_eq_some, mem_without]
  constructor
  · rintro ⟨⟨hmem, -⟩, hopen, hkey⟩
    exact ⟨hmem, hopen, hkey⟩
  · rintro ⟨hmem, hopen, hkey⟩
    refine ⟨⟨hmem, ?_⟩, hopen, hkey⟩
    intro hpk
    simp [h.closed row hmem hpk] at hopen

theorem without_insert {table : OpenTable ρ} {pks : List Nat} {row : ρ}
    (hpk : pk row = table.nextPk) (hkey : table.findOpen? (key row) = none)
    (hkey' : (table.without pks).findOpen? (key row) = none)
    (h : Droppable table pks) :
    (table.without pks).insert row hpk hkey' =
      (table.insert row hpk hkey).without pks := by
  refine ext_rows ?_ rfl
  have hkeep : pk row ∉ pks := by
    intro hmem
    have := h.used _ hmem
    omega
  simp [without, hkeep]

theorem droppable_insert {table : OpenTable ρ} {pks : List Nat} {row : ρ}
    (h : Droppable table pks) (hpk : pk row = table.nextPk)
    (hkey : table.findOpen? (key row) = none) :
    Droppable (table.insert row hpk hkey) pks where
  closed other hmem hother := by
    rcases List.mem_append.mp hmem with hold | hnew
    · exact h.closed other hold hother
    · have hlt := h.used _ hother
      rw [List.mem_singleton.mp hnew] at hlt
      omega
  used n hmem := by
    have := h.used n hmem
    change n < table.nextPk + 1
    omega

end OpenTable

end HealthGrid.Foundation
