import SystemProgram.Number.Integer

namespace SystemProgram

structure Date where
  year : Nat
  month : Nat
  day : Nat
deriving DecidableEq, Repr

/-- A moment; `zone` is the local time less universal time, in seconds, where that is known. -/
structure Moment where
  date : Date
  hour : Nat
  minute : Nat
  second : Nat
  micro : Nat
  zone : Option Int
deriving DecidableEq, Repr

namespace Date

def isLeapYear (year : Nat) : Bool :=
  year % 4 = 0 && (year % 100 != 0 || year % 400 = 0)

def daysInMonth (year month : Nat) : Nat :=
  if month = 2 then if isLeapYear year then 29 else 28
  else if month = 4 ∨ month = 6 ∨ month = 9 ∨ month = 11 then 30
  else 31

/-- Years have four digits and start at 1. -/
def isValid (d : Date) : Bool :=
  1 ≤ d.year && d.year ≤ 9999 && 1 ≤ d.month && d.month ≤ 12 &&
    1 ≤ d.day && d.day ≤ daysInMonth d.year d.month

/-- Days since the first of March of year zero, counted so that leap days end a year. -/
def dayNumber (d : Date) : Nat :=
  let y := if d.month ≤ 2 then d.year - 1 else d.year
  let m := (d.month + 9) % 12
  365 * y + y / 4 - y / 100 + y / 400 + (153 * m + 2) / 5 + d.day

end Date

namespace Calendar

def padded (width n : Nat) : String :=
  let cs := Integer.natChars n
  String.ofList (List.replicate (width - cs.length) '0' ++ cs)

end Calendar

open Calendar

def Date.text (d : Date) : String :=
  padded 4 d.year ++ "-" ++ padded 2 d.month ++ "-" ++ padded 2 d.day

namespace Moment

def isValid (m : Moment) : Bool :=
  m.date.isValid && m.hour < 24 && m.minute < 60 && m.second < 60 && m.micro < 1000000 &&
    m.zone.all fun z => z.natAbs < 86400

def zoneText (zone : Int) : String :=
  let minutes := zone.natAbs / 60
  (if zone < 0 then "-" else "+") ++ padded 2 (minutes / 60) ++ ":" ++ padded 2 (minutes % 60)

def text (m : Moment) : String :=
  m.date.text ++ " " ++ padded 2 m.hour ++ ":" ++ padded 2 m.minute ++ ":" ++ padded 2 m.second ++
    (if m.micro = 0 then "" else "." ++ padded 6 m.micro) ++ (m.zone.elim "" zoneText)

/-- Microseconds in universal time, if the zone is known, otherwise in local time. -/
def ticks (m : Moment) : Int :=
  let seconds : Int := 86400 * m.date.dayNumber + 3600 * m.hour + 60 * m.minute + m.second
  1000000 * (seconds - m.zone.getD 0) + m.micro

/-- Two moments are the same if they are at one time; with and without zone they never are. -/
def same (m n : Moment) : Bool :=
  m.zone.isSome == n.zone.isSome && m.ticks == n.ticks

end Moment

end SystemProgram
