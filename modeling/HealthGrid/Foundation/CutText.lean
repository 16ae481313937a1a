import HealthGrid.Foundation.PyText

/-!
# Cutting a joined text

The text that joins some texts is cut at a position, and the cut is moved back
to the last separator.  One character marks the separators: it is once in a
separator and in no text, so that the first texts stay that are whole.
-/

namespace HealthGrid.Foundation

open PyText

/-! ## The items that fit -/

/-- The first items that fit with a gap after each; the last item has none. -/
def wholeItems {α : Type} (size : α → Nat) (gap : Nat) :
    Nat → List α → List α
  | room, item :: next :: rest =>
      if size item + gap ≤ room then
        item :: wholeItems size gap (room - (size item + gap)) (next :: rest)
      else []
  | _, _ => []

section WholeItems

variable {α β : Type} {size : α → Nat} {gap room : Nat} {items rest : List α}
  {item next : α}

theorem wholeItems_cons_cons :
    wholeItems size gap room (item :: next :: rest) =
      if size item + gap ≤ room then
        item :: wholeItems size gap (room - (size item + gap)) (next :: rest)
      else [] := by
  rw [wholeItems]

theorem wholeItems_map (f : β → α) (items : List β) :
    wholeItems size gap room (items.map f) =
      (wholeItems (size ∘ f) gap room items).map f := by
  induction items generalizing room with
  | nil => simp [wholeItems]
  | cons item items ih =>
      cases items with
      | nil => simp [wholeItems]
      | cons next rest =>
          rw [List.map_cons] at ih
          rw [List.map_cons, List.map_cons, wholeItems_cons_cons,
            wholeItems_cons_cons, ih, Function.comp_apply]
          split <;> rfl

theorem exists_hidden (size : α → Nat) (gap room : Nat) (hne : items ≠ []) :
    ∃ hidden, hidden ≠ [] ∧
      items = wholeItems size gap room items ++ hidden := by
  induction items generalizing room with
  | nil => exact absurd rfl hne
  | cons item items ih =>
      cases items with
      | nil => exact ⟨[item], by simp, by simp [wholeItems]⟩
      | cons next rest =>
          rw [wholeItems_cons_cons]
          split
          · obtain ⟨hidden, hhidden, heq⟩ :=
              ih (room - (size item + gap)) (by simp)
            exact ⟨hidden, hhidden, by rw [List.cons_append, ← heq]⟩
          · exact ⟨item :: next :: rest, by simp, by simp⟩

end WholeItems

/-! ## Separators -/

/-- A separator has one character, the mark, only once. -/
structure Separator where
  front : List Char
  mark : Char
  back : List Char
  mark_not_mem_front : mark ∉ front
  mark_not_mem_back : mark ∉ back

namespace Separator

variable (sep : Separator)

def chars : List Char := sep.front ++ sep.mark :: sep.back

theorem chars_ne_nil : sep.chars ≠ [] := by simp [chars]

theorem length_chars :
    sep.chars.length = sep.front.length + sep.back.length + 1 := by
  simp [chars]
  omega

/-- No mark of the text has the back of the separator after it. -/
def Unfinished (text : List Char) : Prop :=
  ∀ before later, text = before ++ sep.mark :: later →
    later.length < sep.back.length

variable {sep} {text rest before later more : List Char}

theorem unfinished_of_not_mem (h : sep.mark ∉ text) : sep.Unfinished text := by
  rintro before later rfl
  simp at h

theorem unfinished_of_length_le (h : text.length ≤ sep.back.length) :
    sep.Unfinished text := by
  rintro before later rfl
  simp only [List.length_append, List.length_cons] at h
  omega

theorem Unfinished.append (hmark : sep.mark ∉ text) (h : sep.Unfinished rest) :
    sep.Unfinished (text ++ rest) := by
  intro before later heq
  rcases List.append_eq_append_iff.mp heq with ⟨between, -, hrest⟩ |
    ⟨between, htext, hlater⟩
  · exact h between later hrest
  · cases between with
    | nil => exact h [] later hlater.symm
    | cons c between =>
        obtain ⟨rfl, -⟩ := List.cons.inj hlater
        simp [htext] at hmark

theorem first_mark_inj {front front' rest rest' : List Char} {mark : Char}
    (hfront : mark ∉ front) (hfront' : mark ∉ front')
    (h : front ++ mark :: rest = front' ++ mark :: rest') :
    front = front' ∧ rest = rest' := by
  obtain ⟨hsame, hrest⟩ := span_inj (p := (· ≠ mark))
    (fun _ hmem => ne_of_mem_of_not_mem hmem hfront)
    (fun _ hmem => ne_of_mem_of_not_mem hmem hfront') (by simp) (by simp) h
  exact ⟨hsame, (List.cons.inj hrest).2⟩

theorem Unfinished.no_later (h : sep.Unfinished rest)
    (heq : sep.chars ++ rest = before ++ (sep.chars ++ later)) :
    before = [] := by
  simp only [chars, List.append_assoc, List.cons_append] at heq
  by_cases hmem : sep.mark ∈ before
  · obtain ⟨clean, between, rfl, hclean⟩ := List.eq_append_cons_of_mem hmem
    rw [List.append_assoc, List.cons_append] at heq
    have hrest := (first_mark_inj sep.mark_not_mem_front hclean heq).2
    rw [← List.append_assoc] at hrest
    have hlength := h.append sep.mark_not_mem_back (between ++ sep.front)
      (sep.back ++ later) hrest
    simp only [List.length_append] at hlength
    omega
  · rw [← List.append_assoc] at heq
    have hboth : sep.mark ∉ before ++ sep.front := by
      simp [hmem, sep.mark_not_mem_front]
    exact List.self_eq_append_left.mp
      (first_mark_inj sep.mark_not_mem_front hboth heq).1

/-! ## The cut -/

theorem unfinished_take {room : Nat} (htext : sep.mark ∉ text)
    (hroom : room < text.length + sep.chars.length) :
    sep.Unfinished ((text ++ sep.chars ++ more).take room) := by
  have hsplit : text ++ sep.chars ++ more =
      (text ++ sep.front) ++ sep.mark :: (sep.back ++ more) := by simp [chars]
  have hclean : sep.mark ∉ (text ++ sep.front).take room := by
    intro hmem
    rcases List.mem_append.mp (List.mem_of_mem_take hmem) with hmem | hmem
    · exact htext hmem
    · exact sep.mark_not_mem_front hmem
  rw [hsplit, List.take_append]
  refine Unfinished.append hclean (unfinished_of_length_le ?_)
  have hlength := List.length_take_le (room - (text ++ sep.front).length)
    (sep.mark :: (sep.back ++ more))
  rw [sep.length_chars] at hroom
  rw [List.length_append] at hlength ⊢
  omega

def wholeTexts (sep : Separator) (room : Nat) (texts : List (List Char)) :
    List (List Char) :=
  wholeItems List.length sep.chars.length room texts

section Texts

variable {texts : List (List Char)} {room : Nat}

theorem unfinished_cut (htexts : ∀ text ∈ texts, sep.mark ∉ text)
    (h : sep.wholeTexts room texts = []) :
    sep.Unfinished ((sep.chars.intercalate texts).take room) := by
  match texts with
  | [] => simp [unfinished_of_not_mem]
  | [text] =>
      rw [List.intercalate_singleton]
      refine unfinished_of_not_mem fun hmem => ?_
      exact htexts text (by simp) (List.mem_of_mem_take hmem)
  | text :: next :: rest =>
      rw [wholeTexts, wholeItems_cons_cons] at h
      split at h
      · cases h
      · rename_i hroom
        rw [List.intercalate_cons_cons]
        exact unfinished_take (htexts text (by simp)) (by omega)

theorem lastSplit?_cut (htexts : ∀ text ∈ texts, sep.mark ∉ text)
    (h : sep.wholeTexts room texts ≠ []) :
    lastSplit? sep.chars ((sep.chars.intercalate texts).take room) =
      some (sep.chars.intercalate (sep.wholeTexts room texts)) := by
  induction texts generalizing room with
  | nil => simp [wholeTexts, wholeItems] at h
  | cons text texts ih =>
      cases texts with
      | nil => simp [wholeTexts, wholeItems] at h
      | cons next rest =>
          rw [List.forall_mem_cons] at htexts
          rw [wholeTexts, wholeItems_cons_cons] at h ⊢
          split at h
          · rename_i hroom
            have hcut : (sep.chars.intercalate (text :: next :: rest)).take
                room = text ++ (sep.chars ++
                  (sep.chars.intercalate (next :: rest)).take
                    (room - (text.length + sep.chars.length))) := by
              rw [List.intercalate_cons_cons, List.take_append,
                List.take_of_length_le (by simpa using hroom),
                List.length_append, List.append_assoc]
            rw [if_pos hroom]
            by_cases hlater : sep.wholeTexts
                (room - (text.length + sep.chars.length)) (next :: rest) = []
            · have hrest := unfinished_cut htexts.2 hlater
              rw [wholeTexts] at hlater
              rw [hlater, List.intercalate_singleton]
              exact (lastSplit?_eq_some sep.chars_ne_nil).mpr
                ⟨_, hcut, fun _ _ => hrest.no_later⟩
            · obtain ⟨more, hmore, hlast⟩ :=
                (lastSplit?_eq_some sep.chars_ne_nil).mp (ih htexts.2 hlater)
              refine (lastSplit?_eq_some sep.chars_ne_nil).mpr
                ⟨more, ?_, hlast⟩
              rw [hcut, hmore, ← wholeTexts,
                List.intercalate_cons_of_ne_nil hlater]
              simp only [List.append_assoc]
          · exact absurd rfl h

theorem length_whole (htexts : ∀ text ∈ texts, sep.mark ∉ text)
    (h : sep.wholeTexts room texts ≠ []) :
    (sep.chars.intercalate (sep.wholeTexts room texts)).length +
      sep.chars.length ≤ room := by
  obtain ⟨more, hmore, -⟩ :=
    (lastSplit?_eq_some sep.chars_ne_nil).mp (lastSplit?_cut htexts h)
  have hlength := List.length_take_le room (sep.chars.intercalate texts)
  rw [hmore, List.length_append, List.length_append] at hlength
  omega

end Texts

/-! ## Strings -/

section Strings

variable {sepText : String} {texts : List String} {room : Nat}

theorem wholeTexts_toList (hsep : sepText.toList = sep.chars) :
    sep.wholeTexts room (texts.map String.toList) =
      (wholeItems String.length sepText.length room texts).map
        String.toList := by
  have hsize : List.length ∘ String.toList = String.length := by
    funext text
    exact String.length_toList
  rw [wholeTexts, wholeItems_map, hsize, ← hsep, String.length_toList]

/-- The cut shows the first texts that fit before it, and no part of another. -/
theorem beforeLast_cut (hsep : sepText.toList = sep.chars)
    (htexts : ∀ text ∈ texts, sep.mark ∉ text.toList)
    (h : wholeItems String.length sepText.length room texts ≠ []) :
    let shown := wholeItems String.length sepText.length room texts
    beforeLast sepText
        (String.ofList ((sepText.intercalate texts).toList.take room)) =
      sepText.intercalate shown ∧
    (sepText.intercalate shown).length + sepText.length ≤ room := by
  intro shown
  have hmarks : ∀ text ∈ texts.map String.toList, sep.mark ∉ text := by
    simpa using htexts
  have hwhole : sep.wholeTexts room (texts.map String.toList) ≠ [] := by
    rw [wholeTexts_toList hsep]
    simpa using h
  have hcut := lastSplit?_cut hmarks hwhole
  have hlength := length_whole hmarks hwhole
  rw [wholeTexts_toList hsep, ← hsep] at hcut hlength
  simp only [← String.toList_intercalate] at hcut hlength
  constructor
  · rw [beforeLast, String.toList_ofList, hcut]
    exact String.ofList_toList
  · rw [String.length_toList, String.length_toList] at hlength
    exact hlength

end Strings

end Separator

end HealthGrid.Foundation
