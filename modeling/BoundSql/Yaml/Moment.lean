import BoundSql.Error
import BoundSql.Number.Calendar
import BoundSql.Value.Text
import BoundSql.Yaml.Cursor

/-!
# Days and moments in documents

A scalar that has the form of a day, or of a day with a time of day. The form decides that it is
one; a day or a time that the calendar does not have is then an error.
-/

namespace BoundSql.Yaml

open Text

/-- The time of day of a moment as it is written. -/
structure WrittenClock where
  /-- The hour. -/
  hour : Nat
  /-- The minute. -/
  minute : Nat
  /-- The second. -/
  second : Nat
  /-- The digits behind the point. -/
  fraction : List Char
  /-- Minutes ahead of universal time. -/
  zone : Option Int

/-- A day or a moment as it is written. -/
structure WrittenMoment where
  /-- The year. -/
  year : Nat
  /-- The month. -/
  month : Nat
  /-- The day. -/
  day : Nat
  /-- The month and the day have two digits. -/
  full : Bool
  /-- The time of day. -/
  clock : Option WrittenClock

/-- A number of one or two digits in front of a text, and what follows. -/
def shortNumber? (cs : List Char) : Option (List Char × List Char) :=
  let digits := (cs.takeWhile isAsciiDigit).take 2
  if digits.isEmpty then none else some (digits, cs.drop digits.length)

/-- A number of that many digits in front of a text, and what follows. -/
def fixedNumber? (count : Nat) (cs : List Char) : Option (Nat × List Char) :=
  let digits := cs.take count
  if digits.length = count && digits.all isAsciiDigit then
    some (digitsValue digits, cs.drop count)
  else none

/-- What follows a character in front of a text. -/
def behind? (c : Char) : List Char → Option (List Char)
  | d :: rest => if d = c then some rest else none
  | [] => none

/-- A text without the blanks in front. -/
def dropBlanks (cs : List Char) : List Char := cs.dropWhile fun c => c == ' ' || c == '\t'

/-- The distance to universal time behind its sign, in minutes. -/
def zoneMinutes? (cs : List Char) : Option Nat := do
  let (hours, rest) ← shortNumber? cs
  match rest with
  | [] => some (digitsValue hours * 60)
  | rest => do
    let (minutes, rest) ← fixedNumber? 2 (← behind? ':' rest)
    if rest.isEmpty then some (digitsValue hours * 60 + minutes) else none

/-- What follows the time of day: nothing or a distance to universal time. -/
def zone? (cs : List Char) : Option (Option Int) :=
  match cs, dropBlanks cs with
  | [], _ => some none
  | _, ['Z'] => some (some 0)
  | _, '+' :: rest => (zoneMinutes? rest).map fun n => some n
  | _, '-' :: rest => (zoneMinutes? rest).map fun n => some (-n)
  | _, _ => none

/-- The time of day behind the day. -/
def writtenClock? (cs : List Char) : Option WrittenClock := do
  let clock ←
    match cs with
    | 'T' :: rest | 't' :: rest => some rest
    | rest => if dropBlanks rest = rest then none else some (dropBlanks rest)
  let (hour, rest) ← shortNumber? clock
  let (minute, rest) ← fixedNumber? 2 (← behind? ':' rest)
  let (second, rest) ← fixedNumber? 2 (← behind? ':' rest)
  let (fraction, rest) :=
    match rest with
    | '.' :: more => (more.takeWhile isAsciiDigit, more.dropWhile isAsciiDigit)
    | more => ([], more)
  return ⟨digitsValue hour, minute, second, fraction, ← zone? rest⟩

/-- A day or a moment. -/
def writtenMoment? (cs : List Char) : Option WrittenMoment := do
  let (year, rest) ← fixedNumber? 4 cs
  let (month, rest) ← shortNumber? (← behind? '-' rest)
  let (day, rest) ← shortNumber? (← behind? '-' rest)
  let full := month.length == 2 && day.length == 2
  let clock ← if rest.isEmpty then some none else (writtenClock? rest).map some
  return ⟨year, digitsValue month, digitsValue day, full, clock⟩

/-- A scalar without quotes is a day or a moment: a day alone has all its digits. -/
def isMoment (cs : List Char) : Bool :=
  match writtenMoment? cs with
  | some m => m.full || m.clock.isSome
  | none => false

/-- The days of a month. -/
def daysOfMonth (year month : Nat) : Nat :=
  let leap := year % 4 == 0 && (year % 100 != 0 || year % 400 == 0)
  if month = 2 then if leap then 29 else 28
  else if [4, 6, 9, 11].contains month then 30
  else 31

/-- The error of a part that is out of its range. -/
def outOfRange {α : Type} (text : String) : Except Error α := .error (.raised "ValueError" text)

/-- A day of the calendar. -/
def calendarDay (m : WrittenMoment) : Except Error CalendarDate :=
  if m.year = 0 then outOfRange "year 0 is out of range"
  else if m.month = 0 || 12 < m.month then outOfRange "month must be in 1..12"
  else if m.day = 0 || daysOfMonth m.year m.month < m.day then
    outOfRange "day is out of range for month"
  else .ok ⟨m.year, m.month, m.day⟩

/-- The distance to universal time in microseconds; it is less than a day. -/
def zoneOffset (minutes : Int) : Except Error Int :=
  let micros := minutes * 60000000
  if minutes.natAbs < 1440 then .ok micros
  else
    outOfRange ("offset must be a timedelta strictly between -timedelta(hours=24) and " ++
      "timedelta(hours=24), not " ++ shownInterval micros ++ ".")

/-- A time of day. -/
def clockOfDay (c : WrittenClock) (offset : Option Int) : Except Error ClockTime :=
  if 23 < c.hour then outOfRange "hour must be in 0..23"
  else if 59 < c.minute then outOfRange "minute must be in 0..59"
  else if 59 < c.second then outOfRange "second must be in 0..59"
  else
    let micro := digitsValue ((c.fraction ++ List.replicate 6 '0').take 6)
    .ok ⟨c.hour, c.minute, c.second, micro, offset⟩

/-- The value of a day or a moment. The distance to universal time is judged first. -/
def WrittenMoment.value (m : WrittenMoment) : Except Error Value :=
  match m.clock with
  | none => (calendarDay m).map Value.date
  | some clock => do
    let offset ←
      match clock.zone with
      | some minutes => (zoneOffset minutes).map some
      | none => .ok none
    let day ← calendarDay m
    let time ← clockOfDay clock offset
    return .datetime day time

end BoundSql.Yaml
