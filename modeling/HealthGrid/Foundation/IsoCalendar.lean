import Mathlib.Order.Basic

/-!
# ISO weeks

Days are counted from 1970-01-01, a Thursday.  A week runs from Monday to
Sunday and belongs to the Gregorian year of its Thursday; the first week of a
year is the one with the year's first Thursday.
-/

namespace HealthGrid.Foundation

/-- Monday is 0. -/
def weekday (day : Int) : Int := (day + 3) % 7

/-- Weeks since the one of day 0. -/
def weekIndex (day : Int) : Int := (day + 3) / 7

def yearStart (year : Int) : Int :=
  let before := year - 1
  365 * before + before / 4 - before / 100 + before / 400 - 719162

/-- By cycles of 400, 100, 4 and 1 years; their last years have a leap day. -/
def yearOf (day : Int) : Int :=
  let n := day + 719162
  let n400 := n / 146097
  let n100 := n % 146097 / 36524
  let n4 := n % 146097 % 36524 / 1461
  let n1 := n % 146097 % 36524 % 1461 / 365
  let year := 400 * n400 + 100 * n100 + 4 * n4 + n1 + 1
  if n1 = 4 ∨ n100 = 4 then year - 1 else year

def isoWeek (day : Int) : Int × Int :=
  let thursday := 7 * weekIndex day
  let year := yearOf thursday
  (year, (thursday - yearStart year) / 7 + 1)

example : isoWeek 18630 = (2020, 53) ∧ isoWeek 18631 = (2021, 1) ∧
    isoWeek 20087 = (2025, 1) := by decide

theorem isoWeek_eq_iff {day day' : Int} :
    isoWeek day = isoWeek day' ↔ weekIndex day = weekIndex day' := by
  constructor
  · intro h
    simp only [isoWeek, Prod.mk.injEq] at h
    obtain ⟨hyear, hweek⟩ := h
    rw [hyear] at hweek
    omega
  · intro h
    simp only [isoWeek, h]

theorem weekIndex_mono {day day' : Int} (h : day ≤ day') :
    weekIndex day ≤ weekIndex day' := by
  unfold weekIndex
  omega

end HealthGrid.Foundation
