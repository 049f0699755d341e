import ComplianceScanner.Json.Number
import ComplianceScanner.Time.Duration

/-!
Points in time as the date and time of day in UTC. Dates are counted in days from 1 January 1970,
by the calendar of today for all years.
-/

namespace ComplianceScanner

/-- Whole seconds since 1970 and the nanoseconds after them; within a leap second, which the
count of seconds leaves out, these go on beyond a second. -/
structure Timestamp where
  seconds : Int
  nanoseconds : Nat
deriving DecidableEq, Repr

structure CivilDate where
  year : Int
  month : Nat
  day : Nat
deriving DecidableEq, Repr

namespace CivilDate

def isLeapYear (year : Int) : Bool :=
  year % 4 = 0 && (year % 100 ≠ 0 || year % 400 = 0)

def daysInMonth (year : Int) (month : Nat) : Nat :=
  if month = 2 then if isLeapYear year then 29 else 28
  else if [4, 6, 9, 11].contains month then 30
  else 31

def isValid (date : CivilDate) : Bool :=
  1 ≤ date.month && date.month ≤ 12 && 1 ≤ date.day &&
    date.day ≤ daysInMonth date.year date.month

/-- Days from 1 March of year 0 to 1 January 1970. -/
def epochOffset : Int := 719468

/-- The days of the months from March up to the one that is `month` months after it. -/
def daysBefore (month : Nat) : Nat := (153 * month + 2) / 5

/-- Years are counted from March, so that a leap day is the last day of its year; 400 of them are
one period of the calendar. -/
def toDays (date : CivilDate) : Int :=
  let year := if date.month ≤ 2 then date.year - 1 else date.year
  let month := if date.month ≤ 2 then date.month + 9 else date.month - 3
  let inPeriod := (year % 400).toNat
  let dayOfYear := daysBefore month + date.day - 1
  let dayOfPeriod := inPeriod * 365 + inPeriod / 4 - inPeriod / 100 + dayOfYear
  year / 400 * 146097 + dayOfPeriod - epochOffset

def ofDays (days : Int) : CivilDate :=
  let days := days + epochOffset
  let dayOfPeriod := (days % 146097).toNat
  let inPeriod :=
    (dayOfPeriod - dayOfPeriod / 1460 + dayOfPeriod / 36524 - dayOfPeriod / 146096) / 365
  let dayOfYear := dayOfPeriod - (365 * inPeriod + inPeriod / 4 - inPeriod / 100)
  let month := (5 * dayOfYear + 2) / 153
  let year := days / 146097 * 400 + inPeriod
  { year := if 10 ≤ month then year + 1 else year
    month := if 10 ≤ month then month - 9 else month + 3
    day := dayOfYear - daysBefore month + 1 }

end CivilDate

namespace Timestamp

def secondsPerDay : Nat := 86400

def padded (width n : Nat) : String :=
  let digits := Nat.toDigits 10 n
  String.ofList (List.replicate (width - digits.length) '0' ++ digits)

/-- Years of other than four digits carry a sign. -/
def yearText (year : Int) : String :=
  if 0 ≤ year ∧ year ≤ 9999 then padded 4 year.toNat
  else (if year < 0 then "-" else "+") ++ padded 4 year.natAbs

/-- No digits, or the fewest of three, six and nine that are exact. -/
def fractionText (nanoseconds : Nat) : String :=
  if nanoseconds = 0 then ""
  else if nanoseconds % 1000000 = 0 then "." ++ padded 3 (nanoseconds / 1000000)
  else if nanoseconds % 1000 = 0 then "." ++ padded 6 (nanoseconds / 1000)
  else "." ++ padded 9 nanoseconds

def text (t : Timestamp) : String :=
  let date := CivilDate.ofDays (t.seconds / secondsPerDay)
  let ofDay := (t.seconds % secondsPerDay).toNat
  let second := ofDay % 60 + t.nanoseconds / Duration.perSecond
  yearText date.year ++ "-" ++ padded 2 date.month ++ "-" ++ padded 2 date.day ++ "T" ++
    padded 2 (ofDay / 3600) ++ ":" ++ padded 2 (ofDay / 60 % 60) ++ ":" ++ padded 2 second ++
    fractionText (t.nanoseconds % Duration.perSecond) ++ "Z"

def digits? (count : Nat) (text : List Char) : Option (Nat × List Char) := do
  let digits ← (text.take count).mapM Json.digit?
  if digits.length = count then some (digits.foldl (10 * · + ·) 0, text.drop count) else none

def skip? (allowed : List Char) : List Char → Option (List Char)
  | c :: rest => if allowed.contains c then some rest else none
  | [] => none

/-- The nanoseconds of a fraction; digits beyond the ninth are dropped. -/
def fraction? (text : List Char) : Option (Nat × List Char) :=
  match text with
  | '.' :: rest =>
    match Json.spanDigits rest with
    | ([], _) => none
    | (digits, rest) =>
      let kept := digits.take 9
      some (kept.foldl (10 * · + ·) 0 * Nat.pow 10 (9 - kept.length), rest)
  | _ => some (0, text)

/-- How far local time is ahead of UTC, in seconds. -/
def offset? (text : List Char) : Option Int :=
  match text with
  | ['Z'] | ['z'] => some 0
  | sign :: rest => do
    let (hours, rest) ← digits? 2 rest
    let rest ← skip? [':'] rest
    let (minutes, rest) ← digits? 2 rest
    if 24 ≤ hours || 60 ≤ minutes || !rest.isEmpty then none
    else
      let seconds : Int := hours * 3600 + minutes * 60
      if sign = '+' then some seconds
      else if sign = '-' ∨ sign = '\u2212' then some (-seconds)
      else none
  | [] => none

/-- Date, time of day and offset from UTC, such as `2024-02-29T23:59:59.5+01:00`. -/
def ofText? (text : String) : Option Timestamp := do
  let (year, rest) ← digits? 4 text.toList
  let (month, rest) ← digits? 2 (← skip? ['-'] rest)
  let (day, rest) ← digits? 2 (← skip? ['-'] rest)
  let (hour, rest) ← digits? 2 (← skip? ['T', 't', ' '] rest)
  let (minute, rest) ← digits? 2 (← skip? [':'] rest)
  let (second, rest) ← digits? 2 (← skip? [':'] rest)
  let (nanoseconds, rest) ← fraction? rest
  let offset ← offset? rest
  let date : CivilDate := ⟨year, month, day⟩
  if !date.isValid || 24 ≤ hour || 60 ≤ minute || 60 < second then none
  else
    let seconds := date.toDays * secondsPerDay + hour * 3600 + minute * 60 - offset
    if second = 60 then some ⟨seconds + 59, nanoseconds + Duration.perSecond⟩
    else some ⟨seconds + second, nanoseconds⟩

end Timestamp

end ComplianceScanner
