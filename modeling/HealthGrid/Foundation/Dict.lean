import Mathlib.Data.List.Nodup

/-!
# Insertion-ordered dictionaries

A dictionary keeps its entries in the order in which their keys first came.
Setting a key that is present replaces its value in place.
-/

namespace HealthGrid.Foundation

structure Dict (κ ν : Type) where
  entries : List (κ × ν)
  nodup : (entries.map Prod.fst).Nodup

namespace Dict

variable {κ ν : Type}

def empty : Dict κ ν := ⟨[], by simp⟩

def keys (dict : Dict κ ν) : List κ := dict.entries.map Prod.fst

def values (dict : Dict κ ν) : List ν := dict.entries.map Prod.snd

theorem keys_nodup (dict : Dict κ ν) : dict.keys.Nodup := dict.nodup

variable [DecidableEq κ]

def get? (dict : Dict κ ν) (key : κ) : Option ν :=
  (dict.entries.find? fun entry => entry.1 == key).map Prod.snd

private def setEntries (entries : List (κ × ν)) (key : κ) (value : ν) :
    List (κ × ν) :=
  if key ∈ entries.map Prod.fst then
    entries.map fun entry => if entry.1 = key then (key, value) else entry
  else entries ++ [(key, value)]

private theorem map_fst_setEntries (entries : List (κ × ν)) (key : κ)
    (value : ν) :
    (setEntries entries key value).map Prod.fst =
      if key ∈ entries.map Prod.fst then entries.map Prod.fst
      else entries.map Prod.fst ++ [key] := by
  unfold setEntries
  split
  · rw [List.map_map]
    apply List.map_congr_left
    intro entry _
    dsimp only [Function.comp]
    split
    · rename_i heq
      exact heq.symm
    · rfl
  · simp

def set (dict : Dict κ ν) (key : κ) (value : ν) : Dict κ ν where
  entries := setEntries dict.entries key value
  nodup := by
    rw [map_fst_setEntries]
    split
    · exact dict.nodup
    · rename_i hnew
      exact dict.nodup.append (by simp) (by simpa using hnew)

@[simp] theorem mem_keys_set {dict : Dict κ ν} {key key' : κ} {value : ν} :
    key' ∈ (dict.set key value).keys ↔ key' = key ∨ key' ∈ dict.keys := by
  change key' ∈ (setEntries dict.entries key value).map Prod.fst ↔ _
  rw [map_fst_setEntries]
  change _ ↔ key' = key ∨ key' ∈ dict.entries.map Prod.fst
  split
  · rename_i hkey
    constructor
    · exact Or.inr
    · rintro (rfl | hmem)
      · exact hkey
      · exact hmem
  · rw [List.mem_append, List.mem_singleton, or_comm]

theorem mem_entries_set {dict : Dict κ ν} {key : κ} {value : ν}
    {entry : κ × ν} :
    entry ∈ (dict.set key value).entries ↔
      entry = (key, value) ∨ (entry ∈ dict.entries ∧ entry.1 ≠ key) := by
  change entry ∈ setEntries dict.entries key value ↔ _
  unfold setEntries
  split
  · rename_i hkey
    obtain ⟨old, hold, rfl⟩ := List.mem_map.mp hkey
    rw [List.mem_map]
    constructor
    · rintro ⟨other, hother, rfl⟩
      split
      · exact .inl rfl
      · rename_i hne
        exact .inr ⟨hother, hne⟩
    · rintro (rfl | ⟨hmem, hne⟩)
      · exact ⟨old, hold, if_pos rfl⟩
      · exact ⟨entry, hmem, if_neg hne⟩
  · rename_i hkey
    rw [List.mem_append, List.mem_singleton, or_comm]
    refine or_congr_right (iff_self_and.mpr ?_)
    intro hmem heq
    exact hkey (List.mem_map.mpr ⟨entry, hmem, heq⟩)

theorem get?_eq_some_iff {dict : Dict κ ν} {key : κ} {value : ν} :
    dict.get? key = some value ↔ (key, value) ∈ dict.entries := by
  unfold get?
  rw [Option.map_eq_some_iff]
  constructor
  · rintro ⟨entry, hfind, rfl⟩
    have hkey := List.find?_some hfind
    rw [beq_iff_eq] at hkey
    rw [← hkey]
    exact List.mem_of_find?_eq_some hfind
  · intro hmem
    cases hfind : dict.entries.find? (fun entry => entry.1 == key) with
    | none =>
        have hnone := List.find?_eq_none.mp hfind _ hmem
        simp at hnone
    | some entry =>
        have hkey := List.find?_some hfind
        rw [beq_iff_eq] at hkey
        have hentry : entry = (key, value) :=
          List.inj_on_of_nodup_map dict.nodup
            (List.mem_of_find?_eq_some hfind) hmem hkey
        exact ⟨entry, rfl, by rw [hentry]⟩

theorem get?_eq_none_iff {dict : Dict κ ν} {key : κ} :
    dict.get? key = none ↔ key ∉ dict.keys := by
  unfold get? keys
  rw [Option.map_eq_none_iff, List.find?_eq_none]
  simp only [beq_iff_eq, List.mem_map, not_exists, not_and]

theorem get?_set {dict : Dict κ ν} {key key' : κ} {value : ν} :
    (dict.set key value).get? key' =
      if key' = key then some value else dict.get? key' := by
  apply Option.ext
  intro other
  rw [get?_eq_some_iff, mem_entries_set]
  split
  · rename_i heq
    subst heq
    simp [eq_comm]
  · rename_i hne
    rw [get?_eq_some_iff]
    simp [hne]

/-- `dict.setdefault(key, default)` -/
def setDefault (dict : Dict κ ν) (key : κ) (default : ν) : Dict κ ν × ν :=
  match dict.get? key with
  | some value => (dict, value)
  | none => (dict.set key default, default)

theorem get?_setDefault (dict : Dict κ ν) (key : κ) (default : ν) :
    (dict.setDefault key default).1.get? key =
      some (dict.setDefault key default).2 := by
  unfold setDefault
  split
  · assumption
  · rw [get?_set, if_pos rfl]

theorem get?_setDefault_of_some {dict : Dict κ ν} {key key' : κ}
    {default value : ν} (h : dict.get? key' = some value) :
    (dict.setDefault key default).1.get? key' = some value := by
  unfold setDefault
  split
  · exact h
  · rename_i hnone
    rw [get?_set, if_neg, h]
    rintro rfl
    simp [hnone] at h

theorem of_get?_setDefault {dict : Dict κ ν} {key key' : κ}
    {default value : ν}
    (h : (dict.setDefault key default).1.get? key' = some value) :
    dict.get? key' = some value ∨
      (dict.get? key = none ∧ key' = key ∧ value = default) := by
  unfold setDefault at h
  split at h
  · exact .inl h
  · rename_i hnone
    rw [get?_set] at h
    split at h
    · rename_i heq
      exact .inr ⟨hnone, heq, (Option.some.inj h).symm⟩
    · exact .inl h

def mapValues (dict : Dict κ ν) (change : κ → ν → ν) : Dict κ ν where
  entries := dict.entries.map fun entry => (entry.1, change entry.1 entry.2)
  nodup := by
    rw [List.map_map]
    exact dict.nodup

theorem get?_mapValues {dict : Dict κ ν} {change : κ → ν → ν} {key : κ} :
    (dict.mapValues change).get? key = (dict.get? key).map (change key) := by
  apply Option.ext
  intro value
  rw [get?_eq_some_iff, Option.map_eq_some_iff]
  simp only [mapValues, List.mem_map, get?_eq_some_iff]
  constructor
  · rintro ⟨⟨key', old⟩, hmem, heq⟩
    cases heq
    exact ⟨old, hmem, rfl⟩
  · rintro ⟨old, hmem, rfl⟩
    exact ⟨(key, old), hmem, rfl⟩

theorem mapValues_set (dict : Dict κ ν) (change : κ → ν → ν) (key : κ)
    (value : ν) : (dict.set key value).mapValues change =
      (dict.mapValues change).set key (change key value) := by
  have hkeys : (dict.entries.map fun entry =>
      (entry.1, change entry.1 entry.2)).map Prod.fst =
      dict.entries.map Prod.fst := by
    rw [List.map_map]
    rfl
  unfold set mapValues
  simp only [mk.injEq]
  unfold setEntries
  rw [hkeys]
  split
  · rw [List.map_map, List.map_map]
    refine List.map_congr_left fun entry _ => ?_
    dsimp only [Function.comp]
    split
    · rfl
    · rfl
  · rw [List.map_append]
    rfl

def filterKeys (dict : Dict κ ν) (keep : κ → Bool) : Dict κ ν where
  entries := dict.entries.filter fun entry => keep entry.1
  nodup := dict.nodup.sublist (List.filter_sublist.map _)

theorem get?_filterKeys {dict : Dict κ ν} {keep : κ → Bool} {key : κ} :
    (dict.filterKeys keep).get? key =
      if keep key then dict.get? key else none := by
  apply Option.ext
  intro value
  rw [get?_eq_some_iff]
  simp only [filterKeys, List.mem_filter]
  split
  · rename_i hkeep
    rw [get?_eq_some_iff]
    exact and_iff_left hkeep
  · rename_i hdrop
    exact iff_of_false (fun h => hdrop h.2) (by simp)

def setAll (dict : Dict κ ν) (entries : List (κ × ν)) : Dict κ ν :=
  entries.foldl (fun dict entry => dict.set entry.1 entry.2) dict

theorem get?_setAll {dict : Dict κ ν} {entries : List (κ × ν)} {key : κ}
    {value : ν} (h : (dict.setAll entries).get? key = some value) :
    (key, value) ∈ entries ∨ dict.get? key = some value := by
  induction entries generalizing dict with
  | nil => exact .inr h
  | cons entry entries ih =>
      rcases ih h with hmem | hset
      · exact .inl (List.mem_cons_of_mem _ hmem)
      · rw [get?_set] at hset
        split at hset
        · rename_i heq
          cases hset
          rw [heq]
          exact .inl (List.mem_cons_self ..)
        · exact .inr hset

theorem get?_setAll_of_not_mem {dict : Dict κ ν} {entries : List (κ × ν)}
    {key : κ} (h : ∀ value, (key, value) ∉ entries) :
    (dict.setAll entries).get? key = dict.get? key := by
  induction entries generalizing dict with
  | nil => rfl
  | cons entry entries ih =>
      have hne : key ≠ entry.1 := by
        rintro rfl
        exact h entry.2 (List.mem_cons_self ..)
      refine (ih fun value hmem => ?_).trans (by rw [get?_set, if_neg hne])
      exact h value (List.mem_cons_of_mem _ hmem)

theorem get?_setAll_of_mem {dict : Dict κ ν} {entries : List (κ × ν)} {key : κ}
    {value : ν} (hmem : (key, value) ∈ entries)
    (hsame : ∀ other, (key, other) ∈ entries → other = value) :
    (dict.setAll entries).get? key = some value := by
  -- the value is set at some point and later only set again
  have hkeep : ∀ (entries : List (κ × ν)) (dict : Dict κ ν),
      (∀ other, (key, other) ∈ entries → other = value) →
      dict.get? key = some value →
        (dict.setAll entries).get? key = some value := by
    intro entries
    induction entries with
    | nil => exact fun dict _ h => h
    | cons entry entries ih =>
        intro dict hsame h
        refine ih _ (fun other hother =>
          hsame other (List.mem_cons_of_mem _ hother)) ?_
        rw [get?_set]
        split
        · rename_i heq
          rw [hsame entry.2 (by rw [heq]; exact List.mem_cons_self ..)]
        · exact h
  induction entries generalizing dict with
  | nil => cases hmem
  | cons entry entries ih =>
      have hlater : ∀ other, (key, other) ∈ entries → other = value :=
        fun other hother => hsame other (List.mem_cons_of_mem _ hother)
      rcases List.mem_cons.mp hmem with rfl | hmem
      · refine hkeep entries _ hlater ?_
        rw [get?_set, if_pos rfl]
      · exact ih hmem hlater

end Dict

end HealthGrid.Foundation
