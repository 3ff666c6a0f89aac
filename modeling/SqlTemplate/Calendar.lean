import SqlTemplate.Text.Digits

namespace SqlTemplate

def daysIn (year : Int) (month : Nat) : Nat :=
  if month = 2 then
    if year % 4 = 0 ∧ (year % 100 ≠ 0 ∨ year % 400 = 0) then 29 else 28
  else if month = 4 ∨ month = 6 ∨ month = 9 ∨ month = 11 then 30
  else 31

structure Date where
  year : Int
  month : Nat
  day : Nat
  month_mem : 1 ≤ month ∧ month ≤ 12
  day_mem : 1 ≤ day ∧ day ≤ daysIn year month
  deriving DecidableEq

def nanosPerSecond : Nat := 1000000000

/-- A leap second is the second 59 with a thousand million nanoseconds or more. -/
structure Time where
  hour : Nat
  minute : Nat
  second : Nat
  nanosecond : Nat
  clock_lt : hour < 24 ∧ minute < 60 ∧ second < 60
  nanosecond_lt : nanosecond < 2 * nanosPerSecond
  deriving DecidableEq

structure Timestamp where
  date : Date
  time : Time
  deriving DecidableEq

def clockDigits (size n : Nat) : String := String.ofList (Text.padded size n)

namespace Date

def ofParts? (year : Int) (month day : Nat) : Option Date :=
  if h : (1 ≤ month ∧ month ≤ 12) ∧ 1 ≤ day ∧ day ≤ daysIn year month then
    some ⟨year, month, day, h.1, h.2⟩
  else none

@[simp] theorem ofParts?_self (d : Date) : ofParts? d.year d.month d.day = some d := by
  simp [ofParts?, d.month_mem, d.day_mem]

def parts (d : Date) : List Int := [d.year, d.month, d.day]

def yearText (year : Int) : String :=
  if 0 ≤ year ∧ year ≤ 9999 then clockDigits 4 year.toNat
  else (if year < 0 then "-" else "+") ++ clockDigits 4 year.natAbs

def toText (d : Date) : String :=
  yearText d.year ++ "-" ++ clockDigits 2 d.month ++ "-" ++ clockDigits 2 d.day

end Date

namespace Time

def ofParts? (hour minute second nanosecond : Nat) : Option Time :=
  if h : (hour < 24 ∧ minute < 60 ∧ second < 60) ∧ nanosecond < 2 * nanosPerSecond then
    some ⟨hour, minute, second, nanosecond, h.1, h.2⟩
  else none

@[simp] theorem ofParts?_self (t : Time) :
    ofParts? t.hour t.minute t.second t.nanosecond = some t := by
  simp [ofParts?, t.clock_lt, t.nanosecond_lt]

def parts (t : Time) : List Int := [t.hour, t.minute, t.second, t.nanosecond]

def shownSecond (t : Time) : Nat := if t.nanosecond < nanosPerSecond then t.second else t.second + 1

def toText (t : Time) : String :=
  clockDigits 2 t.hour ++ ":" ++ clockDigits 2 t.minute ++ ":" ++ clockDigits 2 t.shownSecond

def fractionText (t : Time) : String :=
  let n := t.nanosecond % nanosPerSecond
  if n = 0 then ""
  else if n % 1000000 = 0 then "." ++ clockDigits 3 (n / 1000000)
  else if n % 1000 = 0 then "." ++ clockDigits 6 (n / 1000)
  else "." ++ clockDigits 9 n

end Time

namespace Timestamp

def parts (t : Timestamp) : List Int := t.date.parts ++ t.time.parts

def toText (t : Timestamp) : String := t.date.toText ++ " " ++ t.time.toText

def toIsoText (t : Timestamp) : String :=
  t.date.toText ++ "T" ++ t.time.toText ++ t.time.fractionText

end Timestamp
end SqlTemplate
