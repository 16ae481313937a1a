import HealthGrid.Foundation.CutText
import HealthGrid.Monitor.SummaryMessage

/-!
# Lists that a card cuts short

`_pair_text` cuts a list that is too long at a position, moves the cut back to
a separator and says how many keys there are.  The text shows whole keys and
stays within its limit when each key leaves room for that.
-/

namespace HealthGrid.Monitor

open HealthGrid.Foundation

structure FitsLimit (limit : Nat) (key : String) : Prop where
  nonempty : renderedKey key ≠ ""
  short : (renderedKey key).length ≤ limit - 33
  unmarked : '·' ∉ (renderedKey key).toList

instance (limit : Nat) : DecidablePred (FitsLimit limit) := fun key =>
  decidable_of_iff (renderedKey key ≠ "" ∧
      (renderedKey key).length ≤ limit - 33 ∧ '·' ∉ (renderedKey key).toList)
    ⟨fun ⟨hne, hshort, hmark⟩ => ⟨hne, hshort, hmark⟩,
      fun h => ⟨h.nonempty, h.short, h.unmarked⟩⟩

inductive ShowsWholeKeys (keys : List String) (text : String) : Prop
  | all (htext : text = if keys = [] then "—" else joinedKeys keys)
  | front (shown hidden : List String) (hkeys : keys = shown ++ hidden)
      (hshown : shown ≠ []) (hhidden : hidden ≠ [])
      (htext : text =
        joinedKeys shown ++ " · … (" ++ toString keys.length ++ " total)")

/-! ## The cut -/

def middleDot : Separator where
  front := [' ']
  mark := '·'
  back := [' ']
  mark_not_mem_front := by decide
  mark_not_mem_back := by decide

theorem separator_toList : separator.toList = middleDot.chars := by decide

theorem separator_length : separator.length = 3 := by decide

section Keys

variable {limit : Nat} {keys : List String}

theorem joinedKeys_eq_empty (hkeys : ∀ key ∈ keys, FitsLimit limit key) :
    joinedKeys keys = "" ↔ keys = [] := by
  constructor
  · intro hempty
    cases keys with
    | nil => rfl
    | cons key rest =>
        have hne := (hkeys key (by simp)).nonempty
        cases rest with
        | nil => simp [joinedKeys, hne] at hempty
        | cons next rest => simp [joinedKeys, hne] at hempty
  · rintro rfl
    simp [joinedKeys]

theorem length_total (hcount : keys.length < 10 ^ 17) :
    (" · … (" ++ toString keys.length ++ " total)").length ≤ 30 := by
  have hdigits : (keys.length.repr).length ≤ 17 :=
    (Nat.length_repr_le_iff (by decide)).mpr hcount
  have hopen : " · … (".length = 6 := by decide
  have hclose : " total)".length = 7 := by decide
  rw [String.length_append, String.length_append, hopen, hclose]
  change 6 + keys.length.repr.length + 7 ≤ 30
  omega

def shownKeys (limit : Nat) (keys : List String) : List String :=
  wholeItems (fun key => (renderedKey key).length) separator.length (limit - 30)
    keys

theorem wholeItems_rendered :
    wholeItems String.length separator.length (limit - 30)
        (keys.map renderedKey) = (shownKeys limit keys).map renderedKey := by
  rw [wholeItems_map]
  rfl

theorem shownKeys_ne_nil (hlimit : 33 < limit)
    (hkeys : ∀ key ∈ keys, FitsLimit limit key)
    (hlong : limit < (joinedKeys keys).length) : shownKeys limit keys ≠ [] := by
  cases keys with
  | nil => simp [joinedKeys] at hlong
  | cons key keys =>
      have hshort := (hkeys key (by simp)).short
      cases keys with
      | nil =>
          simp only [joinedKeys, List.map_cons, List.map_nil,
            String.intercalate_singleton] at hlong
          omega
      | cons next rest =>
          rw [shownKeys, wholeItems_cons_cons, separator_length,
            if_pos (by omega)]
          exact List.cons_ne_nil _ _

theorem cut_joinedKeys (hlimit : 33 < limit)
    (hkeys : ∀ key ∈ keys, FitsLimit limit key)
    (hlong : limit < (joinedKeys keys).length) :
    PyText.beforeLast separator
        (String.ofList ((joinedKeys keys).toList.take (limit - 30))) =
      joinedKeys (shownKeys limit keys) ∧
    (joinedKeys (shownKeys limit keys)).length ≤ limit - 33 := by
  have hmarks : ∀ text ∈ keys.map renderedKey,
      middleDot.mark ∉ text.toList := by
    intro text htext
    obtain ⟨key, hkey, rfl⟩ := List.mem_map.mp htext
    exact (hkeys key hkey).unmarked
  have hwhole : wholeItems String.length separator.length (limit - 30)
      (keys.map renderedKey) ≠ [] := by
    rw [wholeItems_rendered]
    simpa using shownKeys_ne_nil hlimit hkeys hlong
  obtain ⟨hcut, hlength⟩ :=
    Separator.beforeLast_cut separator_toList hmarks hwhole
  rw [wholeItems_rendered] at hcut hlength
  rw [separator_length, ← joinedKeys] at hlength
  exact ⟨hcut, by omega⟩

/-- Whole keys within the limit, wherever the list is cut. -/
theorem pairText_whole_keys (hlimit : 33 < limit)
    (hkeys : ∀ key ∈ keys, FitsLimit limit key) :
    ShowsWholeKeys keys (pairText limit keys) ∧
      (keys.length < 10 ^ 17 → (pairText limit keys).length ≤ limit) := by
  rw [pairText_eq]
  split
  · rename_i hfits
    simp only [joinedKeys_eq_empty hkeys]
    refine ⟨.all rfl, fun _ => ?_⟩
    split
    · have hdash : "—".length = 1 := by decide
      omega
    · exact hfits
  · rename_i hlong
    rw [not_le] at hlong
    have hshown := shownKeys_ne_nil hlimit hkeys hlong
    have hne : keys ≠ [] := by
      rintro rfl
      exact hshown rfl
    obtain ⟨hidden, hhidden, heq⟩ := exists_hidden
      (fun key => (renderedKey key).length) separator.length (limit - 30) hne
    obtain ⟨hcut, hlength⟩ := cut_joinedKeys hlimit hkeys hlong
    rw [hcut]
    refine ⟨.front (shownKeys limit keys) hidden heq hshown hhidden rfl, ?_⟩
    intro hcount
    have htotal := length_total hcount
    rw [String.append_assoc, String.append_assoc, String.length_append]
    rw [String.append_assoc] at htotal
    omega

end Keys

/-! ## A cut inside a key -/

def sixPairs : List String := ["1:2", "3:4", "5:6", "7:8", "9:10", "11:12"]

theorem six_pairs_cut :
    ShowsWholeKeys sixPairs (pairText 40 sixPairs) ∧
      (pairText 40 sixPairs).length ≤ 40 := by
  have hkeys : ∀ key ∈ sixPairs, FitsLimit 40 key := by decide
  obtain ⟨hwhole, hlength⟩ := pairText_whole_keys (by decide) hkeys
  exact ⟨hwhole, hlength (by decide)⟩

example : pairText 40 sixPairs = "1 → 2 · … (6 total)" := by decide

end HealthGrid.Monitor
