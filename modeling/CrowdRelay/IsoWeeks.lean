import Mathlib.Algebra.Order.Group.Int

namespace IsoWeeks

/-!
# Weeks of the calendar

Days are counted from the first of January 1970, which was a Thursday.  A week
runs from Monday to Sunday and belongs to the year its Thursday lies in.
-/

def yearStart (year : Int) : Int :=
  365 * (year - 1) + (year - 1) / 4 - (year - 1) / 100 + (year - 1) / 400 - 719162

def yearOf (day : Int) : Int :=
  let year := (day + 719162) * 400 / 146097 + 1
  if day < yearStart year then
    year - 1
  else if yearStart (year + 1) ≤ day then
    year + 1
  else
    year

def thursdayOf (day : Int) : Int := day - (day + 3) % 7 + 3

def weekYear (day : Int) : Int := yearOf (thursdayOf day)

def weekNumber (day : Int) : Nat := ((thursdayOf day - yearStart (weekYear day)) / 7 + 1).toNat

end IsoWeeks
