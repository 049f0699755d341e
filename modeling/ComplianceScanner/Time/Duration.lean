import ComplianceScanner.Decimal.Shortest

namespace ComplianceScanner

structure Duration where
  nanoseconds : Nat
deriving DecidableEq, Repr

namespace Duration

def perSecond : Nat := 1_000_000_000

def zero : Duration := ⟨0⟩

def ofSeconds (seconds : Nat) : Duration := ⟨seconds * perSecond⟩

def ofMilliseconds (milliseconds : Nat) : Duration := ⟨milliseconds * 1_000_000⟩

def seconds (d : Duration) : Nat := d.nanoseconds / perSecond

def subsecond (d : Duration) : Nat := d.nanoseconds % perSecond

/-- Whole seconds are held in 64 bits. -/
def fits (d : Duration) : Bool := decide (d.seconds < UInt64.size)

/-- Seconds and nanoseconds; a second or more of nanoseconds is carried over, as far as the seconds
fit. -/
def ofParts? (seconds nanoseconds : Nat) : Option Duration :=
  let d : Duration := ⟨seconds * perSecond + nanoseconds⟩
  if d.fits then some d else none

/-- The number of seconds, computed from whole seconds and nanoseconds apart. -/
def toSeconds (d : Duration) : Float :=
  Float.ofNat d.seconds + Float.ofNat d.subsecond / 1e9

/-- The quotient rounded to the nearest whole number; a half goes to the even one. -/
def roundDiv (numerator denominator : Nat) : Nat :=
  let below := numerator / denominator
  let remainder := numerator % denominator
  if 2 * remainder < denominator then below
  else if denominator < 2 * remainder then below + 1
  else below + below % 2

/-- The nearest whole nanosecond; `none` for what is negative, no number, or too long. -/
def ofSecondsFloat? (x : Float) : Option Duration :=
  if x.isNaN || x.isInf || x < 0 then none
  else
    let b := Decimal.Binary.ofFloat x
    let (num, den) := Decimal.scaled b.significand 2 b.exponent
    let d : Duration := ⟨roundDiv (num * perSecond) den⟩
    if d.fits then some d else none

end Duration

end ComplianceScanner
