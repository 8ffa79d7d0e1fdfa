import DeviceSetup.Text.Basic
import DeviceSetup.Text.Decimal

/-!
# Dates in headers

A date is written as `Sun, 06 Nov 1994 08:49:37 GMT`, and is also read when it is written as
`Sunday, 06-Nov-94 08:49:37 GMT` or as `Sun Nov  6 08:49:37 1994`. It stands for the seconds
since the start of 1970. The day of the week must be the right one.
-/

namespace DeviceSetup.Http.Date

/-- The days of the week; the first day of 1970 was a Thursday. -/
def weekdays : List String :=
  ["Thursday", "Friday", "Saturday", "Sunday", "Monday", "Tuesday", "Wednesday"]

/-- The first three letters of a name. -/
def short (name : List Char) : List Char :=
  name.take 3

/-- The months. -/
def months : List String :=
  ["Jan", "Feb", "Mar", "Apr", "May", "Jun", "Jul", "Aug", "Sep", "Oct", "Nov", "Dec"]

/-- Whether a year has a leap day. -/
def isLeap (year : Nat) : Bool :=
  year % 4 = 0 && (year % 100 ≠ 0 || year % 400 = 0)

/-- The lengths of the months of a year. -/
def monthLengths (year : Nat) : List Nat :=
  [31, if isLeap year then 29 else 28, 31, 30, 31, 30, 31, 31, 30, 31, 30, 31]

/-- The days before a year, counted from year 1. -/
def daysBefore (year : Nat) : Nat :=
  let n := year - 1
  n * 365 + n / 4 - n / 100 + n / 400

/-- Reads a number of so many digits. -/
def number? (width : Nat) (cs : List Char) : Option Nat :=
  if cs.length = width ∧ cs.all Decimal.isDigit then some (Decimal.ofDigits cs) else none

/-- Reads a time of day, in seconds. -/
def timeOfDay? (cs : List Char) : Option Nat := do
  let [h, m, s] := Text.splitChars ':' cs | none
  let hour ← number? 2 h
  let minute ← number? 2 m
  let second ← number? 2 s
  guard (hour < 24 ∧ minute < 60 ∧ second < 60)
  return hour * 3600 + minute * 60 + second

/-- A day, as it is written: the name of the day of the week, and the parts of the date. -/
structure Day where
  weekday : List Char
  day : Nat
  month : List Char
  year : Nat

/-- The days from the start of 1970 to a day; `name` says how a day of the week is written. -/
def Day.number? (d : Day) (name : List Char → List Char) : Option Nat := do
  let index ← months.findIdx? fun m => m.toList = d.month
  let lengths := monthLengths d.year
  let length ← lengths[index]?
  guard (1970 ≤ d.year ∧ 1 ≤ d.day ∧ d.day ≤ length)
  let days := daysBefore d.year - daysBefore 1970
    + (lengths.take index).foldr (· + ·) 0 + (d.day - 1)
  let weekday ← weekdays[days % 7]?
  guard (name weekday.toList = d.weekday)
  return days

/-- The moment of a time on a day. -/
def moment? (days : Option Nat) (time : List Char) : Option Nat := do
  return (← days) * 86400 + (← timeOfDay? time)

/-- The year that two digits stand for. -/
def fullYear (year : Nat) : Nat :=
  if year < 70 then 2000 + year else 1900 + year

/-- Reads the day of the month from two columns, the first of which may be blank. -/
def paddedDay? : List Char → Option Nat
  | [' ', d] => Date.number? 1 [d]
  | cs => Date.number? 2 cs

/-- Reads `Sun, 06 Nov 1994 08:49:37 GMT`. -/
def parseFixed? (words : List (List Char)) : Option Nat := do
  let [weekday, day, month, year, time, ['G', 'M', 'T']] := words | none
  let d : Day := ⟨weekday, ← Date.number? 2 day, month, ← Date.number? 4 year⟩
  moment? (d.number? fun name => short name ++ [',']) time

/-- Reads `Sunday, 06-Nov-94 08:49:37 GMT`. -/
def parseDashed? (words : List (List Char)) : Option Nat := do
  let [weekday, date, time, ['G', 'M', 'T']] := words | none
  let [day, month, year] := Text.splitChars '-' date | none
  let d : Day := ⟨weekday, ← Date.number? 2 day, month, fullYear (← Date.number? 2 year)⟩
  moment? (d.number? fun name => name ++ [',']) time

/-- Reads `Sun Nov  6 08:49:37 1994`, where the day of the month takes two columns. -/
def parseColumns? (cs : List Char) : Option Nat := do
  let [weekday, month] := Text.splitChars ' ' (cs.take 7) | none
  let [[], time, year] := Text.splitChars ' ' (cs.drop 10) | none
  let ' ' :: day := (cs.take 10).drop 7 | none
  let d : Day := ⟨weekday, ← paddedDay? day, month, ← Date.number? 4 year⟩
  moment? (d.number? short) time

/-- Reads a date. -/
def parse? (s : String) : Option Nat :=
  let cs := Text.trimChars s.toList
  let words := Text.splitChars ' ' cs
  parseFixed? words <|> parseDashed? words <|> parseColumns? cs

end DeviceSetup.Http.Date
