import ComplianceScanner.Json.Basic

/-!
Numbers in JSON text. A number without fraction and exponent that fits 64 bits is whole, everything
else a double. The double is computed from at most 64 bits of leading digits and one power of ten,
so that a long number may be off by an ulp from the nearest double.
-/

namespace ComplianceScanner.Json

/-- The parts of a number as written, digits by value. -/
structure NumberParts where
  negative : Bool
  whole : List Nat
  fraction : Option (List Nat)
  exponent : Option (Bool × List Nat)

def digit? (c : Char) : Option Nat :=
  if c.isDigit then some (c.toNat - '0'.toNat) else none

def spanDigits : List Char → List Nat × List Char
  | [] => ([], [])
  | c :: rest =>
    match digit? c with
    | some d => ((d :: (spanDigits rest).1), (spanDigits rest).2)
    | none => ([], c :: rest)

/-- No leading zeros, at least one digit in each part, and nothing behind the last one. -/
def NumberParts.read? (text : List Char) : Option NumberParts := do
  let (negative, text) := match text with
    | '-' :: rest => (true, rest)
    | other => (false, other)
  let (whole, text) := spanDigits text
  guard (whole ≠ [] ∧ (whole.head? = some 0 → whole.length = 1))
  let (fraction, text) ← match text with
    | '.' :: rest =>
      let (digits, rest) := spanDigits rest
      if digits = [] then none else some (some digits, rest)
    | other => some (none, other)
  let (exponent, text) ← match text with
    | c :: rest =>
      if c = 'e' ∨ c = 'E' then
        let (positive, rest) := match rest with
          | '+' :: tail => (true, tail)
          | '-' :: tail => (false, tail)
          | other => (true, other)
        let (digits, rest) := spanDigits rest
        if digits = [] then none else some (some (positive, digits), rest)
      else none
    | [] => some (none, [])
  guard (text = [])
  some ⟨negative, whole, fraction, exponent⟩

/-- Leading digits held in 64 bits and the power of ten that the others leave behind. -/
structure Significand where
  value : Nat
  exponent : Int
  full : Bool

def Significand.fits (s : Significand) (digit : Nat) : Bool :=
  !s.full && decide (s.value * 10 + digit < UInt64.size)

/-- A whole digit that no longer fits counts as a factor of ten. -/
def Significand.pushWhole (s : Significand) (digit : Nat) : Significand :=
  if s.fits digit then { s with value := s.value * 10 + digit }
  else { s with exponent := s.exponent + 1, full := true }

/-- From the first fraction digit that does not fit, fraction digits are dropped. -/
def Significand.pushFraction (s : Significand) (digit : Nat) : Significand :=
  if s.fits digit then { s with value := s.value * 10 + digit, exponent := s.exponent - 1 }
  else { s with full := true }

/-- Divides by powers of ten no larger than `1e308`, until the exponent is used up. -/
def divideByPower (x : Float) (exponent : Nat) : Float :=
  if exponent ≤ 308 then x / Float.ofScientific 1 false exponent
  else if x == 0 then x
  else divideByPower (x / 1e308) (exponent - 308)
termination_by exponent
decreasing_by omega

/-- `none` when the number is beyond the doubles. -/
def Significand.toFloat? (s : Significand) : Option Float :=
  let x := Float.ofNat s.value
  if s.exponent < 0 then some (divideByPower x s.exponent.natAbs)
  else if 308 < s.exponent then if x == 0 then some x else none
  else
    let y := x * Float.ofScientific 1 false s.exponent.toNat
    if y.isInf then none else some y

/-- Exponents are held in 32 bits and do not move past either end. -/
def saturate (exponent : Int) : Int :=
  max Int32.minValue.toInt (min Int32.maxValue.toInt exponent)

def NumberParts.toFloat? (parts : NumberParts) : Option Float :=
  let whole := parts.whole.foldl Significand.pushWhole ⟨0, 0, false⟩
  let s := (parts.fraction.getD []).foldl Significand.pushFraction { whole with full := false }
  let magnitude :=
    match parts.exponent with
    | none => s.toFloat?
    | some (positive, digits) =>
      let exponent : Nat := digits.foldl (fun e d => e * 10 + d) 0
      if exponent < Nat.pow 2 31 then
        let shift : Int := if positive then exponent else -(exponent : Int)
        ({ s with exponent := saturate (s.exponent + shift) }).toFloat?
      else if positive ∧ s.value ≠ 0 then none
      else some 0
  magnitude.map fun x => if parts.negative then -x else x

def NumberParts.toJson? (parts : NumberParts) : Option Json :=
  let value : Nat := parts.whole.foldl (fun n d => n * 10 + d) 0
  match parts.fraction, parts.exponent with
  | none, none =>
    if parts.negative ∧ 0 < value ∧ value ≤ Nat.pow 2 63 then some (.int (-(value : Int)))
    else if !parts.negative ∧ value < UInt64.size then some (.int value)
    else parts.toFloat?.map .float
  | _, _ => parts.toFloat?.map .float

def number? (text : List Char) : Option Json :=
  (NumberParts.read? text).bind NumberParts.toJson?

end ComplianceScanner.Json
