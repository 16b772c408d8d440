import DurableQueue.Format.Reader
import DurableQueue.Number.Decimal

/-!
# Dates and times

A moment is a date with a time and perhaps a distance from universal time, a date alone, or a time
alone. It is answered in its standard form: a `T` between date and time, fractions of a second without
zeros at the end, and a distance in hours and minutes. Moments in a document are held to narrower
limits than those in texts.
-/

namespace DurableQueue.Format.Toml

open Reader

/-- The greatest numbers that a moment may hold where limits differ. -/
structure MomentLimits where
  hour : Nat
  offsetHour : Nat
  offsetMinute : Nat

/-- The limits of a clock. -/
def MomentLimits.strict : MomentLimits := ⟨23, 23, 59⟩

/-- Limits that let midnight be the end of a day, and a distance be written in minutes. -/
def MomentLimits.loose : MomentLimits := ⟨24, 99, 99⟩

/-- A sign, if there is one: is it a minus? -/
def sign : Reader Bool := do
  if ← ifNext "-" then return true
  let _ ← ifNext "+"
  return false

/-- A number of exactly `n` digits. -/
def fixedDigits (n : Nat) : Reader Nat := do
  let cs := (← rest).take n
  match readDigits? cs with
  | some value =>
    if cs.length == n then
      exactly (String.ofList cs)
      return value
    else failure
  | none => failure

/-- A number of `n` digits between two bounds. -/
def boundedDigits (n least most : Nat) : Reader Nat := do
  let value ← fixedDigits n
  if least ≤ value ∧ value ≤ most then return value else failure

/-- A number with zeros in front of it, up to `n` digits. -/
def padded (n value : Nat) : String :=
  let digits := Nat.toDigits 10 value
  String.ofList (List.replicate (n - digits.length) '0' ++ digits)

/-- The number of days of a month. -/
def daysIn (year month : Nat) : Nat :=
  if month = 2 then
    if year % 4 = 0 ∧ (year % 100 ≠ 0 ∨ year % 400 = 0) then 29 else 28
  else if month = 4 ∨ month = 6 ∨ month = 9 ∨ month = 11 then 30
  else 31

/-- A date. -/
def calendarDay : Reader String := do
  let year ← fixedDigits 4
  exactly "-"
  let month ← boundedDigits 2 1 12
  exactly "-"
  let day ← boundedDigits 2 1 (daysIn year month)
  return padded 4 year ++ "-" ++ padded 2 month ++ "-" ++ padded 2 day

/-- A time; fractions of a second beyond nine digits are dropped. -/
def timeOfDay (limits : MomentLimits) : Reader String := do
  let hour ← boundedDigits 2 0 limits.hour
  exactly ":"
  let minute ← boundedDigits 2 0 59
  exactly ":"
  let second ← boundedDigits 2 0 60
  let fraction ← if ← ifNext "." then run1 Char.isDigit else pure []
  let shown := ((fraction.take 9).reverse.dropWhile (· == '0')).reverse
  let ending := if shown.isEmpty then "" else "." ++ String.ofList shown
  return padded 2 hour ++ ":" ++ padded 2 minute ++ ":" ++ padded 2 second ++ ending

/-- The distance from universal time, if it comes next; at most a day. -/
def offset (limits : MomentLimits) : Reader String := do
  match ← peek? with
  | some 'Z' | some 'z' =>
    let _ ← char
    return "Z"
  | some '+' | some '-' =>
    let negative ← sign
    let hour ← boundedDigits 2 0 limits.offsetHour
    exactly ":"
    let minute ← boundedDigits 2 0 limits.offsetMinute
    let minutes := 60 * hour + minute
    if 24 * 60 < minutes then failure
    let mark := if negative && minutes != 0 then "-" else "+"
    return mark ++ padded 2 (minutes / 60) ++ ":" ++ padded 2 (minutes % 60)
  | _ => return ""

/-- A date with a time, a date or a time. -/
def moment (limits : MomentLimits) : Reader String := do
  match ← optional calendarDay with
  | some day =>
    let time ← optional do
      let _ ← satisfying fun c => c == 'T' || c == 't' || c == ' '
      timeOfDay limits
    match time with
    | some time => return day ++ "T" ++ time ++ (← offset limits)
    | none => return day
  | none => timeOfDay limits

/-- The moment that a whole text stands for. -/
def momentOf? (text : String) : Option String := whole (moment .loose) text.toList

end DurableQueue.Format.Toml
