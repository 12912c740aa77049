import Tollgate.Text.Decimal

/-!
Days of the proleptic Gregorian calendar, from the year -262143 to the year 262142. A date is
written as year, month and day with hyphens between; a year outside 0 to 9999 carries its sign.
-/

namespace Tollgate

/-- Every fourth year is a leap year, but of the hundreds only those divisible by 400. -/
def isLeapYear (year : Int) : Bool :=
  year % 4 == 0 && (year % 100 != 0 || year % 400 == 0)

/-- The number of days of a month; a month that does not exist has none. -/
def monthLength (year : Int) (month : Nat) : Nat :=
  if month = 2 then if isLeapYear year then 29 else 28
  else if month = 4 ∨ month = 6 ∨ month = 9 ∨ month = 11 then 30
  else if 1 ≤ month ∧ month ≤ 12 then 31
  else 0

/-- The first and the last year of the calendar. -/
def firstYear : Int := -262143

@[inherit_doc firstYear]
def lastYear : Int := 262142

/-- Whether a year, a month and a day name a day of the calendar. -/
def IsDay (year : Int) (month day : Nat) : Prop :=
  firstYear ≤ year ∧ year ≤ lastYear ∧ 1 ≤ day ∧ day ≤ monthLength year month

instance (year : Int) (month day : Nat) : Decidable (IsDay year month day) :=
  inferInstanceAs (Decidable (_ ∧ _ ∧ _ ∧ _))

/-- A day of the calendar. -/
structure Date where
  year : Int
  month : Nat
  day : Nat
  isDay : IsDay year month day
deriving DecidableEq

namespace Date

/-- The day of that year, month and number, if there is one. -/
def ofYmd? (year : Int) (month day : Nat) : Option Date :=
  if h : IsDay year month day then some ⟨year, month, day, h⟩ else none

/-- The first day of 1970. -/
def epoch : Date :=
  ⟨1970, 1, 1, by decide⟩

instance : Inhabited Date := ⟨epoch⟩

/-- The next day, except after the last one. -/
def next? (d : Date) : Option Date :=
  if d.day < monthLength d.year d.month then ofYmd? d.year d.month (d.day + 1)
  else if d.month < 12 then ofYmd? d.year (d.month + 1) 1
  else ofYmd? (d.year + 1) 1 1

/-- The day before, except before the first one. -/
def prev? (d : Date) : Option Date :=
  if 1 < d.day then ofYmd? d.year d.month (d.day - 1)
  else if 1 < d.month then ofYmd? d.year (d.month - 1) (monthLength d.year (d.month - 1))
  else ofYmd? (d.year - 1) 12 31

/-- The day so many days behind the first of 1970, no later than the last day there is. -/
def afterEpoch : Nat → Date
  | 0 => epoch
  | n + 1 =>
    let d := afterEpoch n
    d.next?.getD d

/-- A number that grows with the date. -/
def rank (d : Date) : Int :=
  (d.year * 16 + d.month) * 32 + d.day

/-- A year: four digits from 0 to 9999, otherwise a sign and at least four digits. -/
def yearChars (year : Int) : List Char :=
  if 0 ≤ year ∧ year ≤ 9999 then Decimal.padded 4 year.toNat
  else (if year < 0 then '-' else '+') :: Decimal.atLeast 4 year.natAbs

/-- The written form of a date. -/
def chars (d : Date) : List Char :=
  yearChars d.year ++ '-' :: Decimal.padded 2 d.month ++ '-' :: Decimal.padded 2 d.day

@[inherit_doc chars]
def text (d : Date) : String :=
  String.ofList d.chars

end Date

end Tollgate
