/-!
# Moments

A moment is told by the day of the calendar and the time of the day, in universal time and to the
millionth of a second.
-/

namespace SyncPods.Log

structure Day where
  year : Nat
  month : Nat
  day : Nat
deriving DecidableEq, Repr

/-- A number with at least so many digits. -/
def padded (width n : Nat) : String :=
  let digits := toString n
  String.ofList (List.replicate (width - digits.length) '0') ++ digits

namespace Day

/-- The day so many days after the first of January 1970. Years are counted from March on, so that a
leap day ends its year. -/
def ofNumber (number : Nat) : Day :=
  let fromStart := number + 719468
  let era := fromStart / 146097
  let inEra := fromStart % 146097
  let year := (inEra - inEra / 1460 + inEra / 36524 - inEra / 146096) / 365
  let inYear := inEra - (365 * year + year / 4 - year / 100)
  let month := (5 * inYear + 2) / 153
  let day := inYear - (153 * month + 2) / 5 + 1
  if month < 10 then ⟨400 * era + year, month + 3, day⟩
  else ⟨400 * era + year + 1, month - 9, day⟩

def text (d : Day) : String := s!"{padded 4 d.year}-{padded 2 d.month}-{padded 2 d.day}"

end Day

/-- A moment, as the time since the start of 1970. -/
structure Moment where
  seconds : Nat
  nanoseconds : Nat
deriving DecidableEq, Repr

namespace Moment

def day (m : Moment) : Day := Day.ofNumber (m.seconds / 86400)

def text (m : Moment) : String :=
  let second := m.seconds % 86400
  s!"{m.day.text}T{padded 2 (second / 3600)}:{padded 2 (second / 60 % 60)}:" ++
    s!"{padded 2 (second % 60)}.{padded 6 (m.nanoseconds / 1000)}Z"

end Moment

def fileName (program day : String) : String :=
  if program.isEmpty then day ++ ".log" else program ++ "." ++ day ++ ".log"

end SyncPods.Log
