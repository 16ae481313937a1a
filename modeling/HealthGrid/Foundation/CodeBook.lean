import Mathlib.Data.List.Nodup

/-!
# One-time codes

A book holds entries, each valid for the codes that match it.  Redeeming a
code strikes the first entry it matches out.  Codes are one-time when none is
redeemed twice and no entry is left for a code that has been redeemed.
-/

namespace HealthGrid.Foundation

variable {κ ε : Type}

structure CodeBook (κ ε : Type) where
  entries : List ε
  redeemed : List κ

namespace CodeBook

variable (matched : κ → ε → Bool)

def redeemFrom (entries : List ε) (redeemed : List κ) (code : κ) :
    CodeBook κ ε :=
  ⟨entries.eraseP (matched code), redeemed ++ [code]⟩

def Unambiguous (entries : List ε) : Prop :=
  ∀ code, entries.countP (matched code) ≤ 1

structure OneTime (book : CodeBook κ ε) : Prop where
  once : book.redeemed.Nodup
  struck : ∀ code ∈ book.redeemed, ∀ entry ∈ book.entries,
    matched code entry = false

variable {matched} {book : CodeBook κ ε} {code : κ} {entries : List ε}

theorem oneTime_nil : OneTime matched ⟨entries, []⟩ :=
  ⟨List.nodup_nil, nofun⟩

theorem Unambiguous.eraseP (h : Unambiguous matched entries) (code : κ) :
    Unambiguous matched (entries.eraseP (matched code)) := by
  intro other
  have hless : (entries.eraseP (matched code)).countP (matched other) ≤
      entries.countP (matched other) := List.eraseP_sublist.countP_le
  have hone := h other
  omega

theorem Unambiguous.struck (h : Unambiguous matched entries) {entry : ε}
    (hmem : entry ∈ entries.eraseP (matched code)) :
    matched code entry = false := by
  cases hentry : matched code entry with
  | false => rfl
  | true =>
      obtain ⟨first, before, after, hbefore, hfirst, hsplit, herase⟩ :=
        List.exists_of_eraseP (List.mem_of_mem_eraseP hmem) hentry
      have hafter : entry ∈ after := by
        rw [herase, List.mem_append] at hmem
        rcases hmem with hmem | hmem
        · exact absurd hentry (hbefore entry hmem)
        · exact hmem
      have hone := h code
      have hcount : 0 < after.countP (matched code) :=
        List.countP_pos_iff.mpr ⟨entry, hafter, hentry⟩
      rw [hsplit, List.countP_append, List.countP_cons_of_pos hfirst] at hone
      omega

theorem OneTime.redeem (hbook : OneTime matched book)
    (hentries : Unambiguous matched book.entries)
    (hvalid : book.entries.any (matched code) = true) :
    OneTime matched (redeemFrom matched book.entries book.redeemed code) where
  once := by
    refine hbook.once.append (List.nodup_singleton code) ?_
    intro other hother hnew
    rw [List.mem_singleton] at hnew
    subst hnew
    obtain ⟨entry, hentry, hmatched⟩ := List.any_eq_true.mp hvalid
    rw [hbook.struck other hother entry hentry] at hmatched
    cases hmatched
  struck := by
    intro other hother entry hentry
    rcases List.mem_append.mp hother with hold | hnew
    · exact hbook.struck other hold entry (List.mem_of_mem_eraseP hentry)
    · rw [List.mem_singleton] at hnew
      subst hnew
      exact hentries.struck hentry

theorem not_oneTime_redeem {redeemed : List κ} {other : κ}
    (hdistinct : ∀ entry code code', matched code entry = true →
      matched code' entry = true → code = code')
    (hother : other ∈ redeemed) (hvalid : entries.any (matched other) = true) :
    ¬ OneTime matched (redeemFrom matched entries redeemed code) := by
  intro h
  obtain ⟨entry, hentry, hmatched⟩ := List.any_eq_true.mp hvalid
  by_cases heq : other = code
  · subst heq
    exact (List.nodup_append.mp h.once).2.2 other hother other
      (List.mem_singleton_self other) rfl
  · have hkept : entry ∈ entries.eraseP (matched code) := by
      refine (List.mem_eraseP_of_neg ?_).mpr hentry
      intro hcode
      exact heq (hdistinct entry other code hmatched hcode)
    rw [h.struck other (List.mem_append_left _ hother) entry hkept] at hmatched
    cases hmatched

end CodeBook

end HealthGrid.Foundation
