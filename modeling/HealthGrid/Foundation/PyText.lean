import Mathlib.Data.List.DropRight
import Mathlib.Data.List.Sort
import Mathlib.Data.List.TakeDrop
import Mathlib.Data.String.Basic

/-!
# Text operations of the source language

The string methods the modelled code relies on, on the code points of a
string.  White space is the Unicode set that `str.strip` and `\s` both use.
-/

namespace HealthGrid.Foundation.PyText

def isSpace (c : Char) : Bool :=
  let n := c.toNat
  (9 ≤ n && n ≤ 13) || (28 ≤ n && n ≤ 32) || n == 133 || n == 160 ||
    n == 5760 || (8192 ≤ n && n ≤ 8202) || n == 8232 || n == 8233 ||
    n == 8239 || n == 8287 || n == 12288

def strip (text : List Char) : List Char :=
  (text.dropWhile isSpace).rdropWhile isSpace

def stripText (text : String) : String :=
  String.ofList (strip text.toList)

/--
Case-insensitive comparison with a lower-case ASCII letter of a pattern.  Three
letters outside ASCII fold to `i` and `s`.
-/
def foldsTo (letter c : Char) : Bool :=
  c.toLower == letter ||
    (letter == 'i' && (c.toNat == 0x130 || c.toNat == 0x131)) ||
    (letter == 's' && c.toNat == 0x17F)

def dropKeyword? : List Char → List Char → Option (List Char)
  | [], text => some text
  | _ :: _, [] => none
  | letter :: keyword, c :: text =>
      if foldsTo letter c then dropKeyword? keyword text else none

/-! ### What is left after stripping -/

theorem dropWhile_eq_self_of_prefix {p : Char → Bool}
    {front text : List Char} (hfront : front <+: text)
    (h : text.dropWhile p = text) : front.dropWhile p = front := by
  cases front with
  | nil => rfl
  | cons c front =>
      obtain ⟨rest, rfl⟩ := hfront
      rw [List.dropWhile_eq_self_iff] at h ⊢
      exact fun _ => h (Nat.zero_lt_succ _)

theorem rdropWhile_append_of_forall {p : Char → Bool}
    {text space : List Char} (h : ∀ c ∈ space, p c = true) :
    (text ++ space).rdropWhile p = text.rdropWhile p := by
  have hall : ∀ c ∈ space.reverse, p c = true := by simpa using h
  rw [List.rdropWhile, List.reverse_append,
    List.dropWhile_append_of_pos hall, List.rdropWhile]

theorem rdropWhile_append_of_not_forall {p : Char → Bool}
    {text rest : List Char} (h : ¬ ∀ c ∈ rest, p c = true) :
    (text ++ rest).rdropWhile p = text ++ rest.rdropWhile p := by
  have hne : (rest.reverse.dropWhile p).isEmpty = false := by
    simpa [List.dropWhile_eq_nil_iff] using h
  simp [List.rdropWhile, List.dropWhile_append, hne]

theorem dropWhile_strip (text : List Char) :
    (strip text).dropWhile isSpace = strip text :=
  dropWhile_eq_self_of_prefix (List.rdropWhile_prefix _ _)
    (List.dropWhile_idempotent _ _)

theorem strip_eq_rdropWhile {text : List Char}
    (h : text.dropWhile isSpace = text) :
    strip text = text.rdropWhile isSpace := by
  rw [strip, h]

@[simp] theorem strip_strip (text : List Char) :
    strip (strip text) = strip text := by
  rw [strip_eq_rdropWhile (dropWhile_strip text), strip,
    List.rdropWhile_idempotent]

theorem mem_of_mem_strip {c : Char} {text : List Char} (h : c ∈ strip text) :
    c ∈ text :=
  (List.dropWhile_suffix _).subset ((List.rdropWhile_prefix _ _).subset h)

/-! ### Keywords -/

theorem dropKeyword?_eq_some {keyword text rest : List Char} :
    dropKeyword? keyword text = some rest ↔
      ∃ word, text = word ++ rest ∧ dropKeyword? keyword word = some [] := by
  induction keyword generalizing text with
  | nil => simp [dropKeyword?, eq_comm]
  | cons letter keyword ih =>
      cases text with
      | nil =>
          simp only [dropKeyword?, List.nil_eq, List.append_eq_nil_iff]
          constructor
          · simp
          · rintro ⟨word, ⟨rfl, -⟩, h⟩
            simp [dropKeyword?] at h
      | cons c text =>
          simp only [dropKeyword?]
          split
          · rename_i hfold
            rw [ih]
            constructor
            · rintro ⟨word, rfl, hword⟩
              exact ⟨c :: word, rfl, by simp [dropKeyword?, hfold, hword]⟩
            · rintro ⟨word, htext, hword⟩
              cases word with
              | nil => simp [dropKeyword?] at hword
              | cons c' word =>
                  obtain ⟨rfl, rfl⟩ := List.cons.inj htext
                  exact ⟨word, rfl, by simpa [dropKeyword?, hfold] using hword⟩
          · rename_i hfold
            constructor
            · simp
            · rintro ⟨word, htext, hword⟩
              cases word with
              | nil => simp [dropKeyword?] at hword
              | cons c' word =>
                  obtain ⟨rfl, -⟩ := List.cons.inj htext
                  simp [dropKeyword?, hfold] at hword

theorem length_of_dropKeyword? {keyword word : List Char}
    (h : dropKeyword? keyword word = some []) :
    word.length = keyword.length := by
  induction keyword generalizing word with
  | nil => simpa [dropKeyword?] using h
  | cons letter keyword ih =>
      cases word with
      | nil => simp [dropKeyword?] at h
      | cons c word =>
          simp only [dropKeyword?] at h
          split at h
          · simp [ih h]
          · cases h

theorem not_mem_of_dropKeyword? {c : Char} {keyword word : List Char}
    (hc : (keyword.any fun letter => foldsTo letter c) = false)
    (h : dropKeyword? keyword word = some []) : c ∉ word := by
  induction keyword generalizing word with
  | nil =>
      obtain rfl : word = [] := by simpa [dropKeyword?] using h
      exact List.not_mem_nil
  | cons letter keyword ih =>
      cases word with
      | nil => exact List.not_mem_nil
      | cons c' word =>
          rw [List.any_cons, Bool.or_eq_false_iff] at hc
          simp only [dropKeyword?] at h
          split at h
          · rename_i hfold
            rw [List.mem_cons, not_or]
            refine ⟨?_, ih hc.2 h⟩
            rintro rfl
            simp [hc.1] at hfold
          · cases h

def textOr (value : Option String) (default : String) : String :=
  match value with
  | some text => if text = "" then default else text
  | none => default

def intOr (value : Option Int) (default : Int) : Int :=
  match value with
  | some n => if n = 0 then default else n
  | none => default

theorem intOr_of_ne_zero {value : Option Int} (h : intOr value 0 ≠ 0)
    (default : Int) : intOr value default = intOr value 0 := by
  cases value with
  | none => exact absurd rfl h
  | some n =>
      have hn : n ≠ 0 := by
        rintro rfl
        exact h rfl
      simp [intOr, hn]

/-! ## Sorting and joining -/

/-- `sorted`, by code points. -/
def sorted (texts : List String) : List String :=
  texts.insertionSort (· ≤ ·)

theorem sorted_perm (texts : List String) : (sorted texts).Perm texts :=
  List.perm_insertionSort _ _

@[simp] theorem mem_sorted {text : String} {texts : List String} :
    text ∈ sorted texts ↔ text ∈ texts :=
  (sorted_perm texts).mem_iff

@[simp] theorem sorted_eq_nil {texts : List String} :
    sorted texts = [] ↔ texts = [] := by
  rw [← List.length_eq_zero_iff, (sorted_perm texts).length_eq,
    List.length_eq_zero_iff]

theorem sorted_congr {texts texts' : List String} (h : texts.Perm texts') :
    sorted texts = sorted texts' := by
  refine List.Perm.eq_of_sortedLE (List.sortedLE_insertionSort)
    (List.sortedLE_insertionSort) ?_
  exact (sorted_perm texts).trans (h.trans (sorted_perm texts').symm)

@[simp] theorem sorted_sorted (texts : List String) :
    sorted (sorted texts) = sorted texts :=
  sorted_congr (sorted_perm texts)

def nul : String := String.singleton (Char.ofNat 0)

theorem intercalate_inj {c : Char} {texts texts' : List String}
    (hne : ∀ text ∈ texts, text ≠ "") (hne' : ∀ text ∈ texts', text ≠ "")
    (hc : ∀ text ∈ texts, c ∉ text.toList)
    (hc' : ∀ text ∈ texts', c ∉ text.toList)
    (h : (String.singleton c).intercalate texts =
      (String.singleton c).intercalate texts') :
    texts = texts' := by
  have hsplit := congrArg
    (fun text : String => (text.split c).toList.map (·.copy)) h
  rw [String.toList_split_intercalate hc,
    String.toList_split_intercalate hc'] at hsplit
  split at hsplit <;> split at hsplit
  · rename_i hnil hnil'
    rw [hnil, hnil']
  · have hempty : "" ∈ texts' := by simp [← hsplit]
    exact absurd rfl (hne' _ hempty)
  · have hempty : "" ∈ texts := by simp [hsplit]
    exact absurd rfl (hne _ hempty)
  · exact hsplit

theorem intercalate_inj_of_ne_nil {c : Char} {texts texts' : List String}
    (hne : texts ≠ []) (hne' : texts' ≠ [])
    (hc : ∀ text ∈ texts, c ∉ text.toList)
    (hc' : ∀ text ∈ texts', c ∉ text.toList)
    (h : (String.singleton c).intercalate texts =
      (String.singleton c).intercalate texts') :
    texts = texts' := by
  have hsplit := congrArg
    (fun text : String => (text.split c).toList.map (·.copy)) h
  rwa [String.toList_split_intercalate hc,
    String.toList_split_intercalate hc', if_neg hne, if_neg hne'] at hsplit

/-! ## Splitting -/

/-- `text.replace(c, new, 1)`. -/
def replaceFirst (c : Char) (new text : String) : String :=
  match text.toList.span (· != c) with
  | (front, _ :: rest) => String.ofList front ++ new ++ String.ofList rest
  | (_, []) => text

theorem span_of_not_mem {c : Char} {front rest : List Char}
    (h : c ∉ front) :
    (front ++ c :: rest).span (· != c) = (front, c :: rest) := by
  have hfront : ∀ other ∈ front, (other != c) = true := by
    intro other hmem
    simpa using fun heq : other = c => h (heq ▸ hmem)
  rw [List.span_eq_takeWhile_dropWhile, List.takeWhile_append_of_pos hfront,
    List.dropWhile_append_of_pos hfront]
  simp

theorem replaceFirst_of_not_mem {c : Char} {new text : String}
    (h : c ∉ text.toList) : replaceFirst c new text = text := by
  have hspan : text.toList.span (· != c) = (text.toList, []) := by
    rw [List.span_eq_takeWhile_dropWhile, List.takeWhile_eq_self_iff.mpr,
      List.dropWhile_eq_nil_iff.mpr] <;>
      · intro other hmem
        simpa using fun heq : other = c => h (heq ▸ hmem)
  unfold replaceFirst
  rw [hspan]

def lastSplit? (sep : List Char) : List Char → Option (List Char)
  | [] => none
  | c :: rest =>
      match lastSplit? sep rest with
      | some front => some (c :: front)
      | none => if sep.isPrefixOf (c :: rest) then some [] else none

section LastSplit

variable {sep text front : List Char}

theorem lastSplit?_eq_none (hsep : sep ≠ []) :
    lastSplit? sep text = none ↔ ¬ sep <:+: text := by
  induction text with
  | nil => simp [lastSplit?, hsep]
  | cons c text ih =>
      rw [lastSplit?, List.infix_cons_iff, not_or, ← ih]
      cases lastSplit? sep text <;> simp

theorem lastSplit?_eq_some (hsep : sep ≠ []) :
    lastSplit? sep text = some front ↔
      ∃ rest, text = front ++ (sep ++ rest) ∧
        ∀ before later, sep ++ rest = before ++ (sep ++ later) →
          before = [] := by
  induction text generalizing front with
  | nil => simp [lastSplit?, hsep]
  | cons c text ih =>
      rw [lastSplit?]
      cases hlater : lastSplit? sep text with
      | some found =>
          obtain ⟨rest, htext, hlast⟩ := ih.mp hlater
          constructor
          · rintro ⟨⟩
            exact ⟨rest, by rw [htext, List.cons_append], hlast⟩
          · rintro ⟨rest', heq, hlast'⟩
            cases front with
            | nil =>
                rw [List.nil_append] at heq
                have hfirst := hlast' (c :: found) rest (by
                  rw [← heq, htext, List.cons_append])
                cases hfirst
            | cons c' front =>
                rw [List.cons_append] at heq
                obtain ⟨rfl, htext'⟩ := List.cons.inj heq
                rw [ih.mpr ⟨rest', htext', hlast'⟩] at hlater
                rw [Option.some.inj hlater]
      | none =>
          have hnone : ∀ before later, text ≠ before ++ (sep ++ later) := by
            rintro before later rfl
            refine (lastSplit?_eq_none hsep).mp hlater ⟨before, later, ?_⟩
            rw [List.append_assoc]
          dsimp only
          rw [Option.ite_none_right_eq_some, List.isPrefixOf_iff_prefix]
          constructor
          · rintro ⟨⟨rest, hrest⟩, ⟨⟩⟩
            refine ⟨rest, hrest.symm, fun before later heq => ?_⟩
            cases before with
            | nil => rfl
            | cons c' before =>
                rw [hrest, List.cons_append] at heq
                exact absurd (List.cons.inj heq).2 (hnone before later)
          · rintro ⟨rest, heq, -⟩
            cases front with
            | nil => exact ⟨⟨rest, heq.symm⟩, rfl⟩
            | cons c' front =>
                rw [List.cons_append] at heq
                exact absurd (List.cons.inj heq).2 (hnone front rest)

end LastSplit

/-- `text.rsplit(sep, 1)[0]`. -/
def beforeLast (sep text : String) : String :=
  match lastSplit? sep.toList text.toList with
  | some front => String.ofList front
  | none => text

/-! ### Where the characters come from -/

theorem mem_replaceFirst {c x : Char} {new text : String}
    (h : x ∈ (replaceFirst c new text).toList) :
    x ∈ new.toList ∨ x ∈ text.toList := by
  unfold replaceFirst at h
  rw [List.span_eq_takeWhile_dropWhile] at h
  split at h
  · rename_i front y rest hspan
    obtain ⟨rfl, hrest⟩ := Prod.mk.inj hspan
    simp only [String.toList_append, String.toList_ofList,
      List.mem_append] at h
    rcases h with (hfront | hnew) | hback
    · exact .inr ((List.takeWhile_prefix _).subset hfront)
    · exact .inl hnew
    · have hmem : x ∈ y :: rest := List.mem_cons_of_mem _ hback
      rw [← hrest] at hmem
      exact .inr ((List.dropWhile_suffix _).subset hmem)
  · exact .inr h

theorem mem_intercalate {x : Char} {sep : List Char}
    {texts : List (List Char)} (h : x ∈ sep.intercalate texts) :
    x ∈ sep ∨ ∃ text ∈ texts, x ∈ text := by
  induction texts with
  | nil => simp at h
  | cons text texts ih =>
      cases texts with
      | nil => exact .inr ⟨text, by simp, by simpa using h⟩
      | cons next rest =>
          rw [List.intercalate_cons_cons, List.mem_append,
            List.mem_append] at h
          rcases h with (htext | hsep) | hrest
          · exact .inr ⟨text, List.mem_cons_self .., htext⟩
          · exact .inl hsep
          · refine (ih hrest).imp_right ?_
            rintro ⟨other, hother, hx⟩
            exact ⟨other, List.mem_cons_of_mem _ hother, hx⟩

theorem mem_beforeLast {x : Char} {sep text : String} (hsep : sep.toList ≠ [])
    (h : x ∈ (beforeLast sep text).toList) : x ∈ text.toList := by
  unfold beforeLast at h
  split at h
  · rename_i front hfront
    obtain ⟨rest, htext, -⟩ := (lastSplit?_eq_some hsep).mp hfront
    rw [String.toList_ofList] at h
    rw [htext]
    exact List.mem_append_left _ h
  · exact h

/-- `text.partition(c)`; without the separator there is no second part. -/
def partition (c : Char) (text : List Char) :
    List Char × Option (List Char) :=
  match text.span (· != c) with
  | (front, _ :: rest) => (front, some rest)
  | (front, []) => (front, none)

/-- `text.rpartition(c)`; without the separator there is no first part. -/
def rpartition (c : Char) (text : List Char) :
    Option (List Char) × List Char :=
  match text.reverse.span (· != c) with
  | (rest, _ :: front) => (some front.reverse, rest.reverse)
  | (_, []) => (none, text)

/-- `text.split(sep, 1)`, when there is a separator. -/
def splitFirst? (sep : List Char) : List Char → Option (List Char × List Char)
  | [] => none
  | c :: text =>
      if sep.isPrefixOf (c :: text) then
        some ([], (c :: text).drop sep.length)
      else (splitFirst? sep text).map fun parts => (c :: parts.1, parts.2)

theorem splitFirst?_of_not_mem {c : Char} {sep front rest : List Char}
    (h : c ∉ front) :
    splitFirst? (c :: sep) (front ++ (c :: sep) ++ rest) =
      some (front, rest) := by
  induction front with
  | nil => simp [splitFirst?]
  | cons x front ih =>
      have hx : (c == x) = false := by
        rw [beq_eq_false_iff_ne]
        rintro rfl
        exact h (List.mem_cons_self ..)
      have hrest := ih fun hmem => h (List.mem_cons_of_mem _ hmem)
      simp only [List.cons_append] at hrest ⊢
      rw [splitFirst?, List.isPrefixOf_cons_cons, hx, hrest]
      rfl

theorem mem_of_splitFirst? {sep text front rest : List Char} {x : Char}
    (h : splitFirst? sep text = some (front, rest)) (hmem : x ∈ rest) :
    x ∈ text := by
  induction text generalizing front with
  | nil => cases h
  | cons c text ih =>
      rw [splitFirst?] at h
      split at h
      · obtain ⟨-, rfl⟩ := Prod.mk.inj (Option.some.inj h)
        exact List.mem_of_mem_drop hmem
      · obtain ⟨parts, hparts, heq⟩ := Option.map_eq_some_iff.mp h
        obtain ⟨-, rfl⟩ := Prod.mk.inj heq
        exact List.mem_cons_of_mem _ (ih hparts)

theorem not_mem_of_mem_splitOn {c : Char} {text part : List Char}
    (h : part ∈ text.splitOn c) : c ∉ part := by
  induction text generalizing part with
  | nil =>
      rw [List.splitOn_nil, List.mem_singleton] at h
      simp [h]
  | cons x text ih =>
      rw [List.splitOn_cons_eq_if_modifyHead] at h
      split at h
      · rcases List.mem_cons.mp h with rfl | h
        · exact List.not_mem_nil
        · exact ih h
      · rename_i hx
        obtain ⟨first, rest, hcons⟩ :=
          List.exists_cons_of_ne_nil (List.splitOn_ne_nil c text)
        rw [hcons] at h
        rcases List.mem_cons.mp h with rfl | h
        · have hfirst := ih (hcons ▸ List.mem_cons_self ..)
          rw [List.mem_cons, not_or]
          exact ⟨fun heq => hx (by simp [heq]), hfirst⟩
        · exact ih (hcons ▸ List.mem_cons_of_mem _ h)

def endsWith (text last : String) : Bool :=
  last.toList.isSuffixOf text.toList

theorem endsWith_iff {text last : String} :
    endsWith text last = true ↔ ∃ front, text = front ++ last := by
  rw [endsWith, List.isSuffixOf_iff_suffix]
  constructor
  · rintro ⟨front, h⟩
    refine ⟨String.ofList front, String.toList_inj.mp ?_⟩
    rw [String.toList_append, String.toList_ofList, h]
  · rintro ⟨front, rfl⟩
    exact ⟨front.toList, by rw [String.toList_append]⟩

/-! ## URLs -/

def startsWith (text start : String) : Bool :=
  start.toList.isPrefixOf text.toList

def hexDigit (n : Nat) : Char := "0123456789ABCDEF".toList.getD n '0'

/-- `urllib.parse.quote`: per byte, itself or its two hexadecimal digits. -/
def quote (safe text : String) : String :=
  String.ofList ((text.toList.flatMap String.utf8EncodeChar).flatMap fun byte =>
    let c := Char.ofNat byte.toNat
    if byte.toNat < 128 &&
        (c.isAlphanum || "_.-~".toList.contains c || safe.toList.contains c)
    then [c]
    else ['%', hexDigit (byte.toNat / 16), hexDigit (byte.toNat % 16)])

example : quote "/" "/instances/?q=ä b" = "/instances/%3Fq%3D%C3%A4%20b" := by
  decide

/-! ## Decimal numbers -/

theorem mem_toString_int {c : Char} {n : Int} (h : c ∈ (toString n).toList) :
    c = '-' ∨ c.isDigit = true := by
  rw [Int.toString_eq_repr, Int.repr_eq_if] at h
  split at h
  · rw [Nat.toList_repr] at h
    exact .inr (Nat.isDigit_of_mem_toDigits (by decide) (by decide) h)
  · rw [String.toList_append, List.mem_append, Nat.toList_repr] at h
    rcases h with hsign | hdigit
    · exact .inl (by simpa using hsign)
    · exact .inr (Nat.isDigit_of_mem_toDigits (by decide) (by decide) hdigit)

theorem not_mem_toString_int {c : Char} (hsign : c ≠ '-')
    (hdigit : c.isDigit = false) (n : Int) : c ∉ (toString n).toList := by
  intro h
  rcases mem_toString_int h with rfl | h
  · exact hsign rfl
  · simp [hdigit] at h

private theorem nat_repr_inj {m n : Nat} (h : m.repr = n.repr) : m = n := by
  have hdigits := congrArg (fun text => Nat.ofDigitChars 10 text.toList 0) h
  simpa only [Nat.toList_repr, Nat.ofDigitChars_ten_toDigits] using hdigits

def digits? (text : List Char) : Option Nat :=
  if text != [] && text.all Char.isDigit then
    some (Nat.ofDigitChars 10 text 0)
  else none

/-- `int` on decimal digits with an optional sign. -/
def int? (text : String) : Option Int :=
  match text.toList with
  | '-' :: digits => (digits? digits).map fun n : Nat => -(n : Int)
  | digits => (digits? digits).map fun n : Nat => (n : Int)

theorem digits?_repr (n : Nat) : digits? n.repr.toList = some n := by
  have hdigits : (Nat.toDigits 10 n).all Char.isDigit = true := by
    rw [List.all_eq_true]
    intro c hmem
    exact Nat.isDigit_of_mem_toDigits (by decide) (by decide) hmem
  simp [digits?, Nat.toList_repr, hdigits, Nat.toDigits_ne_nil,
    Nat.ofDigitChars_ten_toDigits]

private theorem minus_ne_nat_repr (m n : Nat) :
    "-" ++ m.repr ≠ n.repr := by
  intro h
  have hmem : '-' ∈ n.repr.toList := by
    rw [← h, String.toList_append]
    simp
  rw [Nat.toList_repr] at hmem
  have := Nat.isDigit_of_mem_toDigits (by decide) (by decide) hmem
  exact absurd this (by decide)

theorem toString_int_inj {m n : Int} (h : toString m = toString n) :
    m = n := by
  rw [Int.toString_eq_repr, Int.toString_eq_repr, Int.repr_eq_if,
    Int.repr_eq_if] at h
  split at h <;> split at h
  · have := nat_repr_inj h
    omega
  · exact absurd h.symm (minus_ne_nat_repr _ _)
  · exact absurd h (minus_ne_nat_repr _ _)
  · rw [String.append_right_inj] at h
    have := nat_repr_inj h
    omega

theorem int?_toString (n : Int) : int? (toString n) = some n := by
  rw [Int.toString_eq_repr, Int.repr_eq_if]
  split
  · rename_i hn
    have hsign : ∀ digits, n.toNat.repr.toList ≠ '-' :: digits := by
      intro digits hdigits
      have hmem : '-' ∈ n.toNat.repr.toList := by simp [hdigits]
      rw [Nat.toList_repr] at hmem
      have := Nat.isDigit_of_mem_toDigits (by decide) (by decide) hmem
      exact absurd this (by decide)
    unfold int?
    split
    · rename_i digits hdigits
      exact absurd hdigits (hsign digits)
    · rw [digits?_repr, Option.map_some, Int.toNat_of_nonneg hn]
  · rename_i hn
    have htext : ("-" ++ (-n).toNat.repr).toList =
        '-' :: (-n).toNat.repr.toList := by simp
    unfold int?
    simp only [htext, digits?_repr, Option.map_some]
    rw [Int.toNat_of_nonneg (by omega), Int.neg_neg]

theorem toString_int_ne {n : Int} : toString n ≠ "" := by
  intro h
  rw [Int.toString_eq_repr, Int.repr_eq_if] at h
  split at h
  · exact Nat.repr_ne_empty h
  · simp at h

theorem separated_ints_inj {c : Char} (hsign : c ≠ '-')
    (hdigit : c.isDigit = false) {m n m' n' : Int}
    (h : toString m ++ String.singleton c ++ toString n =
      toString m' ++ String.singleton c ++ toString n') :
    m = m' ∧ n = n' := by
  have hchars := congrArg String.toList h
  simp only [String.toList_append, String.toList_singleton,
    List.append_assoc, List.singleton_append] at hchars
  rw [List.append_cons_inj_of_notMem (not_mem_toString_int hsign hdigit m)
    (not_mem_toString_int hsign hdigit n)] at hchars
  obtain ⟨hm, -, hn⟩ := hchars
  exact ⟨toString_int_inj (String.toList_inj.mp hm),
    toString_int_inj (String.toList_inj.mp hn)⟩

/-! ## Lists of numbers -/

def listTail : List Int → List Char
  | [] => [']']
  | n :: numbers => ',' :: ' ' :: (toString n).toList ++ listTail numbers

def listText : List Int → String
  | [] => "[]"
  | n :: numbers =>
      String.ofList ( '[' :: (toString n).toList ++ listTail numbers)

theorem span_inj {p : Char → Prop} {front front' rest rest' : List Char}
    {c c' : Char} (hfront : ∀ x ∈ front, p x) (hfront' : ∀ x ∈ front', p x)
    (hc : ¬ p c) (hc' : ¬ p c')
    (h : front ++ c :: rest = front' ++ c' :: rest') :
    front = front' ∧ c :: rest = c' :: rest' := by
  induction front generalizing front' with
  | nil =>
      cases front' with
      | nil => exact ⟨rfl, h⟩
      | cons x front' =>
          obtain ⟨rfl, -⟩ := List.cons.inj h
          exact absurd (hfront' c (List.mem_cons_self ..)) hc
  | cons x front ih =>
      cases front' with
      | nil =>
          obtain ⟨rfl, -⟩ := List.cons.inj h
          exact absurd (hfront x (List.mem_cons_self ..)) hc'
      | cons x' front' =>
          obtain ⟨rfl, htail⟩ := List.cons.inj h
          obtain ⟨rfl, hrest⟩ := ih
            (fun y hy => hfront y (List.mem_cons_of_mem _ hy))
            (fun y hy => hfront' y (List.mem_cons_of_mem _ hy)) htail
          exact ⟨rfl, hrest⟩

private def IntChar (c : Char) : Prop := c = '-' ∨ c.isDigit = true

private theorem int_span_inj {m n : Int} {rest rest' : List Char}
    {c c' : Char} (hc : ¬ IntChar c) (hc' : ¬ IntChar c')
    (h : (toString m).toList ++ c :: rest =
      (toString n).toList ++ c' :: rest') :
    m = n ∧ c :: rest = c' :: rest' := by
  obtain ⟨hnumber, hrest⟩ := span_inj (p := IntChar)
    (fun _ => mem_toString_int) (fun _ => mem_toString_int) hc hc' h
  exact ⟨toString_int_inj (String.toList_inj.mp hnumber), hrest⟩

private theorem listTail_cases (numbers : List Int) :
    ∃ c rest, ¬ IntChar c ∧ listTail numbers = c :: rest := by
  cases numbers with
  | nil => exact ⟨']', [], by unfold IntChar; decide, rfl⟩
  | cons n numbers => exact ⟨',', _, by unfold IntChar; decide, rfl⟩

private theorem int_listTail_inj {m n : Int} {numbers numbers' : List Int}
    {rest rest' : List Char}
    (h : (toString m).toList ++ (listTail numbers ++ rest) =
      (toString n).toList ++ (listTail numbers' ++ rest')) :
    m = n ∧ listTail numbers ++ rest = listTail numbers' ++ rest' := by
  obtain ⟨c, tail, hc, htail⟩ := listTail_cases numbers
  obtain ⟨c', tail', hc', htail'⟩ := listTail_cases numbers'
  rw [htail, htail', List.cons_append, List.cons_append] at h ⊢
  exact int_span_inj hc hc' h

theorem listTail_inj {numbers numbers' : List Int} {rest rest' : List Char}
    (h : listTail numbers ++ rest = listTail numbers' ++ rest') :
    numbers = numbers' ∧ rest = rest' := by
  induction numbers generalizing numbers' with
  | nil =>
      cases numbers' with
      | nil => exact ⟨rfl, (List.cons.inj h).2⟩
      | cons n numbers' => exact absurd (List.cons.inj h).1 (by decide)
  | cons n numbers ih =>
      cases numbers' with
      | nil => exact absurd (List.cons.inj h).1 (by decide)
      | cons n' numbers' =>
          simp only [listTail, List.cons_append, List.append_assoc,
            List.cons.injEq, true_and] at h
          obtain ⟨rfl, htail⟩ := int_listTail_inj h
          obtain ⟨rfl, hrest⟩ := ih htail
          exact ⟨rfl, hrest⟩

theorem listText_inj {numbers numbers' : List Int} {rest rest' : List Char}
    (h : (listText numbers).toList ++ rest =
      (listText numbers').toList ++ rest') :
    numbers = numbers' ∧ rest = rest' := by
  have hempty : ∀ (n : Int) (numbers : List Int) (rest rest' : List Char),
      (listText []).toList ++ rest ≠
        (listText (n :: numbers)).toList ++ rest' := by
    intro n numbers rest rest' heq
    obtain ⟨c, tail, hc, htail⟩ := listTail_cases numbers
    simp only [listText, String.toList_ofList, List.cons_append,
      List.append_assoc, htail] at heq
    have hspan : [] ++ ']' :: rest =
        (toString n).toList ++ c :: (tail ++ rest') := (List.cons.inj heq).2
    have hdigits := (span_inj (p := IntChar) (by simp)
      (fun _ => mem_toString_int) (by unfold IntChar; decide) hc hspan).1
    exact toString_int_ne (String.toList_inj.mp hdigits.symm)
  cases numbers with
  | nil =>
      cases numbers' with
      | nil => exact ⟨rfl, List.append_cancel_left h⟩
      | cons n' numbers' => exact absurd h (hempty n' numbers' rest rest')
  | cons n numbers =>
      cases numbers' with
      | nil => exact absurd h.symm (hempty n numbers rest' rest)
      | cons n' numbers' =>
          simp only [listText, String.toList_ofList, List.cons_append,
            List.append_assoc, List.cons.injEq, true_and] at h
          obtain ⟨rfl, htail⟩ := int_listTail_inj h
          obtain ⟨rfl, hrest⟩ := listTail_inj htail
          exact ⟨rfl, hrest⟩

end HealthGrid.Foundation.PyText
