import ArticleExport.Text.Basic

/-!
# Points in time

A date and time of the calendar, perhaps with its distance from universal time.
-/

namespace ArticleExport

/-- A date and time. -/
structure Moment where
  /-- The year. -/
  year : Nat
  /-- The month, from one. -/
  month : Nat
  /-- The day of the month, from one. -/
  day : Nat
  /-- The hour. -/
  hour : Nat
  /-- The minute. -/
  minute : Nat
  /-- The second. -/
  second : Nat
  /-- The microsecond. -/
  microsecond : Nat
  /-- The microseconds by which the clock is ahead of universal time, where it is known. -/
  offset : Option Int
deriving DecidableEq, Repr

namespace Moment

/-- Whether a year has a leap day. -/
def isLeap (year : Nat) : Bool := year % 4 == 0 && (year % 100 != 0 || year % 400 == 0)

/-- The number of days of a month. -/
def daysIn (year month : Nat) : Nat :=
  if month = 2 then if isLeap year then 29 else 28
  else if month = 4 ∨ month = 6 ∨ month = 9 ∨ month = 11 then 30
  else 31

/-- Whether a moment is one of the calendar, less than a day away from universal time. -/
def IsValid (m : Moment) : Prop :=
  1 ≤ m.year ∧ m.year ≤ 9999 ∧ 1 ≤ m.month ∧ m.month ≤ 12 ∧
    1 ≤ m.day ∧ m.day ≤ daysIn m.year m.month ∧
    m.hour ≤ 23 ∧ m.minute ≤ 59 ∧ m.second ≤ 59 ∧ m.microsecond ≤ 999999 ∧
    (m.offset.getD 0).natAbs < 86400 * 1000000

instance (m : Moment) : Decidable m.IsValid := by unfold IsValid; infer_instance

/-- A number with zeros in front up to a width. -/
def padded (width n : Nat) : Text :=
  let digits := Text.ofNat n
  List.replicate (width - digits.length) (CodePoint.scalar '0') ++ digits

/-- A distance from universal time: hours and minutes, then seconds and microseconds where there are
any. -/
def offsetText (microseconds : Int) : Text :=
  let micro := microseconds.natAbs % 1000000
  let n := microseconds.natAbs / 1000000
  let sign : Text := if microseconds < 0 then "-" else "+"
  let colon : Text := ":"
  sign ++ padded 2 (n / 3600) ++ colon ++ padded 2 (n / 60 % 60) ++
    (if n % 60 = 0 ∧ micro = 0 then [] else colon ++ padded 2 (n % 60)) ++
    (if micro = 0 then [] else ("." : Text) ++ padded 6 micro)

/-- A moment in international notation. -/
def text (m : Moment) : Text :=
  let hyphen : Text := "-"
  let colon : Text := ":"
  padded 4 m.year ++ hyphen ++ padded 2 m.month ++ hyphen ++ padded 2 m.day ++ ("T" : Text) ++
    padded 2 m.hour ++ colon ++ padded 2 m.minute ++ colon ++ padded 2 m.second ++
    (if m.microsecond = 0 then [] else ("." : Text) ++ padded 6 m.microsecond) ++
    (match m.offset with
      | some microseconds => offsetText microseconds
      | none => [])

end Moment

end ArticleExport
