import BoundSql.Number.Shortest
import BoundSql.Number.Numeral

/-!
# Dates and times of day

Calendar dates, times of day with microseconds and an optional distance to universal time, and
their texts in the order year, month, day, hour, minute, second.
-/

namespace BoundSql

/-- A day of the calendar. -/
structure CalendarDate where
  /-- Year. -/
  year : Nat
  /-- Month from one. -/
  month : Nat
  /-- Day from one. -/
  day : Nat
  deriving DecidableEq

/-- A time of day. -/
structure ClockTime where
  /-- Hour from zero. -/
  hour : Nat
  /-- Minute from zero. -/
  minute : Nat
  /-- Second from zero. -/
  second : Nat
  /-- Microsecond from zero. -/
  micro : Nat
  /-- Distance to universal time in microseconds, if it is known. -/
  offset : Option Int
  deriving DecidableEq

/-- A natural in at least the given count of digits. -/
def paddedDigits (width n : Nat) : List Char := Double.padZeros width (decimalDigits n)

/-- The text of a day. -/
def CalendarDate.text (d : CalendarDate) : String :=
  String.ofList (paddedDigits 4 d.year ++ '-' :: paddedDigits 2 d.month ++ '-' ::
    paddedDigits 2 d.day)

/-- The text of a distance to universal time; seconds and microseconds only where needed. -/
def offsetText (micros : Int) : List Char :=
  let n := micros.natAbs
  let seconds := n / 1000000
  let sign := if micros < 0 then '-' else '+'
  sign :: paddedDigits 2 (seconds / 3600) ++ ':' :: paddedDigits 2 (seconds / 60 % 60) ++
    (if seconds % 60 = 0 && n % 1000000 = 0 then [] else ':' :: paddedDigits 2 (seconds % 60)) ++
    (if n % 1000000 = 0 then [] else '.' :: paddedDigits 6 (n % 1000000))

/-- The text of a time of day; microseconds only where needed. -/
def ClockTime.text (t : ClockTime) : String :=
  String.ofList (paddedDigits 2 t.hour ++ ':' :: paddedDigits 2 t.minute ++ ':' ::
    paddedDigits 2 t.second ++
    (if t.micro = 0 then [] else '.' :: paddedDigits 6 t.micro) ++
    (match t.offset with
      | some micros => offsetText micros
      | none => []))

/-- The natural that ASCII digits denote; none for anything else. -/
def plainDigits? (cs : List Char) : Option Nat :=
  if cs.isEmpty || !cs.all isAsciiDigit then none else some (digitsValue cs)

/-- Reads year, month and day with hyphens in between. -/
def CalendarDate.read? (s : String) : Option CalendarDate :=
  match Text.splitAt '-' s.toList with
  | [y, m, d] => do some ⟨← plainDigits? y, ← plainDigits? m, ← plainDigits? d⟩
  | _ => none

/-- Seconds with an optional fraction of six digits. -/
def secondsPart? (cs : List Char) : Option (Nat × Nat) :=
  match Text.splitAt '.' cs with
  | [s] => (plainDigits? s).map fun n => (n, 0)
  | [s, f] => do
    let n ← plainDigits? s
    let micros ← plainDigits? ((f ++ List.replicate (6 - f.length) '0').take 6)
    some (n, micros)
  | _ => none

/-- Hours, minutes, seconds and microseconds; seconds may be missing. -/
def clockParts? (cs : List Char) : Option (Nat × Nat × Nat × Nat) :=
  match Text.splitAt ':' cs with
  | [h, m] => do some (← plainDigits? h, ← plainDigits? m, 0, 0)
  | [h, m, s] => do
    let (seconds, micros) ← secondsPart? s
    some (← plainDigits? h, ← plainDigits? m, seconds, micros)
  | _ => none

/-- Reads a time of day with an optional distance to universal time. -/
def ClockTime.read? (s : String) : Option ClockTime :=
  let cs := s.toList
  let body := cs.takeWhile fun c => c ≠ '+' && c ≠ '-'
  let zone := cs.dropWhile fun c => c ≠ '+' && c ≠ '-'
  match clockParts? body, zone with
  | some (h, m, sec, us), [] => some ⟨h, m, sec, us, none⟩
  | some (h, m, sec, us), sign :: rest =>
    (clockParts? rest).map fun (zh, zm, zs, zus) =>
      let micros : Int := ((zh * 3600 + zm * 60 + zs) * 1000000 + zus : Nat)
      ⟨h, m, sec, us, some (if sign = '-' then -micros else micros)⟩
  | none, _ => none

/-- Microseconds since midnight. -/
def ClockTime.sinceMidnight (t : ClockTime) : Int :=
  (((t.hour * 60 + t.minute) * 60 + t.second) * 1000000 + t.micro : Nat)

/-- Days from a fixed day long ago to a date of the calendar. -/
def CalendarDate.dayNumber (d : CalendarDate) : Nat :=
  let y := d.year - 1
  let leap := d.year % 4 == 0 && (d.year % 100 != 0 || d.year % 400 == 0)
  let before := [0, 31, 59, 90, 120, 151, 181, 212, 243, 273, 304, 334].getD (d.month - 1) 0
  y * 365 + y / 4 - y / 100 + y / 400 + before + (if leap && 2 < d.month then 1 else 0) + d.day

/-- Two times of day are the same moment: both without a distance to universal time, or both with
one and equal after it is taken off. -/
def ClockTime.sameMoment (days : Int) (a b : ClockTime) : Bool :=
  match a.offset, b.offset with
  | none, none => days == 0 && a.sinceMidnight == b.sinceMidnight
  | some x, some y =>
    days * 86400000000 + a.sinceMidnight - x == b.sinceMidnight - y
  | _, _ => false

end BoundSql
