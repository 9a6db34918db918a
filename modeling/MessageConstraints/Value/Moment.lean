import MessageConstraints.Number.Reading

/-!
# Durations and timestamps in text

A duration is a number of seconds with up to nine decimal places and the letter for seconds.  A
timestamp is a date and a time of day, with up to nine decimal places to the seconds, and how far
the clock was ahead of universal time.  Both come to whole seconds and the billionths of a second
beyond them, a timestamp counted from the start of 1970.
-/

namespace MessageConstraints

/-- Seconds and billionths of a second. -/
structure Moment where
  seconds : Int
  nanos : Int
deriving Repr, DecidableEq

namespace Moment

/-! ## Reading parts -/

/-- A character that has to come next, and what follows. -/
def expect? (c : Char) : List Char → Option (List Char)
  | [] => none
  | other :: rest => if other = c then some rest else none

/-- The number that the next digits denote, of which there have to be so many, and what follows. -/
def fixedDigits? (count : Nat) (cs : List Char) : Option (Nat × List Char) :=
  if count ≤ cs.length then (digits? (cs.take count)).map fun n => (n, cs.drop count) else none

/-- The billionths of a second that a point and at most nine decimal places denote, none of them
if there is no point, and what follows. -/
def fraction? : List Char → Option (Nat × List Char)
  | '.' :: rest =>
    let places := rest.takeWhile Char.isDigit
    if places.length ≤ 9 then
      (digits? places).map fun n =>
        (n * Nat.pow 10 (9 - places.length), rest.dropWhile Char.isDigit)
    else none
  | cs => some (0, cs)

/-! ## Durations -/

/-- The most seconds of a duration, about ten thousand years. -/
def longest : Int := 315576000000

/-- The duration of a text without a sign. -/
def unsignedDuration? (cs : List Char) : Option Moment := do
  let seconds ← digits? (cs.takeWhile Char.isDigit)
  let (nanos, rest) ← fraction? (cs.dropWhile Char.isDigit)
  let rest ← expect? 's' rest
  if rest.isEmpty ∧ (seconds : Int) ≤ longest then some ⟨seconds, nanos⟩ else none

/-- The duration that a text denotes. -/
def duration? (text : String) : Option Moment :=
  match text.toList with
  | '-' :: rest => (unsignedDuration? rest).map fun moment => ⟨-moment.seconds, -moment.nanos⟩
  | cs => unsignedDuration? cs

/-! ## Timestamps -/

/-- Whether a year has a day more than others. -/
def isLeapYear (year : Nat) : Bool :=
  decide (year % 4 = 0) && (decide (year % 100 ≠ 0) || decide (year % 400 = 0))

/-- The number of leap years among the years from 0 up to, but not including, the given one. -/
def leapYearsBefore (year : Nat) : Nat :=
  (year + 3) / 4 - (year + 99) / 100 + (year + 399) / 400

/-- The number of days of each month. -/
def monthLengths (year : Nat) : List Nat :=
  [31, if isLeapYear year then 29 else 28, 31, 30, 31, 30, 31, 31, 30, 31, 30, 31]

/-- The days from the start of 1970 to a date, if there is such a date. -/
def dayNumber? (year month day : Nat) : Option Int := do
  let lengths := monthLengths year
  let length ← if month = 0 then none else lengths[month - 1]?
  if 1 ≤ day ∧ day ≤ length then
    let before := year * 365 + leapYearsBefore year + (lengths.take (month - 1)).foldl (· + ·) 0
    some ((before + (day - 1) : Nat) - 719528)
  else none

/-- A date at the start of a text, as days from the start of 1970. -/
def date? (cs : List Char) : Option (Int × List Char) := do
  let (year, cs) ← fixedDigits? 4 cs
  let cs ← expect? '-' cs
  let (month, cs) ← fixedDigits? 2 cs
  let cs ← expect? '-' cs
  let (day, cs) ← fixedDigits? 2 cs
  let days ← dayNumber? year month day
  some (days, cs)

/-- Hours and minutes at the start of a text, in minutes. -/
def hoursAndMinutes? (cs : List Char) : Option (Nat × List Char) := do
  let (hours, cs) ← fixedDigits? 2 cs
  let cs ← expect? ':' cs
  let (minutes, cs) ← fixedDigits? 2 cs
  if hours < 24 ∧ minutes < 60 then some (hours * 60 + minutes, cs) else none

/-- How many minutes a clock is ahead of universal time; a clock that is behind by nothing is
none. -/
def offset? : List Char → Option Int
  | ['Z'] => some 0
  | '+' :: rest =>
    match hoursAndMinutes? rest with
    | some (minutes, []) => some minutes
    | _ => none
  | '-' :: rest =>
    match hoursAndMinutes? rest with
    | some (minutes, []) => if minutes = 0 then none else some (-minutes)
    | _ => none
  | _ => none

/-- The first and the last second of timestamps, which lie in the years 1 to 9999. -/
def firstSecond : Int := -62135596800

/-- The last second of timestamps. -/
def lastSecond : Int := 253402300799

/-- The timestamp that a text denotes. -/
def timestamp? (text : String) : Option Moment := do
  let (days, cs) ← date? text.toList
  let cs ← expect? 'T' cs
  let (minutes, cs) ← hoursAndMinutes? cs
  let cs ← expect? ':' cs
  let (seconds, cs) ← fixedDigits? 2 cs
  let (nanos, cs) ← fraction? cs
  let ahead ← offset? cs
  let total := (days * 1440 + minutes - ahead) * 60 + seconds
  if seconds < 60 then (within? firstSecond lastSecond total).map fun total => ⟨total, nanos⟩
  else none

end Moment

end MessageConstraints
