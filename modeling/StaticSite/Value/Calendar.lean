/-
StaticSite.Value.Calendar — dates and moments of the Gregorian calendar.

Both are checked when they are made: `Date.of?` and `Moment.of?` give
nothing for a day, an hour or an offset that does not exist.
-/
import StaticSite.Number.Digits

namespace StaticSite

open StaticSite.Number

/-! ## 1. Dates -/

/-- A day of the years 1 to 9999. -/
structure Date where
  year : Nat
  month : Nat
  day : Nat
  deriving DecidableEq, Repr

namespace Date

/-- Has the year 366 days? -/
def isLeap (year : Nat) : Bool :=
  (year % 4 == 0 && year % 100 != 0) || year % 400 == 0

/-- The number of days of a month. -/
def daysIn (year month : Nat) : Nat :=
  if month == 2 then (if isLeap year then 29 else 28)
  else if month == 4 || month == 6 || month == 9 || month == 11 then 30
  else 31

/-- The date with the given numbers, if there is such a day. -/
def of? (year month day : Nat) : Option Date :=
  if 1 ≤ year && year ≤ 9999 && 1 ≤ month && month ≤ 12 && 1 ≤ day && day ≤ daysIn year month then
    some ⟨year, month, day⟩
  else none

/-- The day after, if there is one. -/
def next? (d : Date) : Option Date :=
  if d.day < daysIn d.year d.month then some ⟨d.year, d.month, d.day + 1⟩
  else if d.month < 12 then some ⟨d.year, d.month + 1, 1⟩
  else if d.year < 9999 then some ⟨d.year + 1, 1, 1⟩
  else none

/-- Year, month and day with dashes. -/
def text (d : Date) : List Char :=
  paddedText 4 d.year ++ '-' :: paddedText 2 d.month ++ '-' :: paddedText 2 d.day

end Date

/-! ## 2. Moments -/

/-- An offset of local time from universal time, in minutes, under the name it
was written with. -/
structure Offset where
  minutes : Int
  name : List Char
  deriving DecidableEq, Repr

/-- A time of a day, to the microsecond, perhaps with its offset. -/
structure Moment where
  date : Date
  hour : Nat
  minute : Nat
  second : Nat
  micro : Nat
  offset : Option Offset
  deriving DecidableEq, Repr

namespace Moment

/-- The moment with the given numbers, if there is one. -/
def of? (date : Date) (hour minute second micro : Nat) (offset : Option Offset) : Option Moment :=
  let offsetOk :=
    match offset with
    | none => true
    | some o => o.minutes.natAbs < 24 * 60
  if hour < 24 && minute < 60 && second < 60 && micro < 1000000 && offsetOk then
    some ⟨date, hour, minute, second, micro, offset⟩
  else none

/-- One second later, unless that is after the last day. -/
def nextSecond? (m : Moment) : Option Moment :=
  if m.second < 59 then some { m with second := m.second + 1 }
  else if m.minute < 59 then some { m with second := 0, minute := m.minute + 1 }
  else if m.hour < 23 then some { m with second := 0, minute := 0, hour := m.hour + 1 }
  else m.date.next?.map fun date => { m with second := 0, minute := 0, hour := 0, date }

/-- The offset as sign, hours and minutes. -/
def offsetText (o : Offset) : List Char :=
  let n := o.minutes.natAbs
  (if o.minutes < 0 then '-' else '+') :: paddedText 2 (n / 60) ++ ':' :: paddedText 2 (n % 60)

/-- Date, time, microseconds if there are any, and offset if there is one. -/
def text (m : Moment) : List Char :=
  m.date.text ++ ' ' :: paddedText 2 m.hour ++ ':' :: paddedText 2 m.minute ++
    ':' :: paddedText 2 m.second ++
    (if m.micro == 0 then [] else '.' :: paddedText 6 m.micro) ++
    (match m.offset with
     | none => []
     | some o => offsetText o)

end Moment

end StaticSite
