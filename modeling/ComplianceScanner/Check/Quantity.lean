import ComplianceScanner.Json.Number
import ComplianceScanner.Decimal.Shortest

/-!
Resource quantities such as `100m` or `0.5Gi`. A quantity counts as unset when its number, read as
a double, is zero, so that a number below half the least double is zero as well.
-/

namespace ComplianceScanner.Quantity

open Json (spanDigits)

/-- A decimal number as written, without its sign: all digits as one number, and the power of ten
to scale it by. -/
def number? (text : List Char) : Option Decimal.Number := do
  let unsigned := match text with
    | '+' :: rest => rest
    | '-' :: rest => rest
    | other => other
  let (whole, rest) := spanDigits unsigned
  let (fraction, rest) := match rest with
    | '.' :: tail => spanDigits tail
    | other => ([], other)
  guard (whole ≠ [] ∨ fraction ≠ [])
  let exponent : Int ← match rest with
    | [] => some 0
    | c :: tail =>
      if c = 'e' ∨ c = 'E' then
        let (sign, tail) : Int × List Char := match tail with
          | '+' :: more => (1, more)
          | '-' :: more => (-1, more)
          | other => (1, other)
        let (digits, more) := spanDigits tail
        if digits = [] ∨ more ≠ [] then none
        else some (sign * (digits.foldl (fun n d => n * 10 + d) 0 : Nat))
      else none
  let digits : Nat := (whole ++ fraction).foldl (fun n d => n * 10 + d) 0
  some ⟨digits, exponent - fraction.length⟩

/-- Whether the double nearest to a decimal number is zero: all numbers up to `2 ^ (-1075)` round
down to it. Numbers far from that bound are told by their length alone. -/
def roundsToZero (d : Decimal.Number) : Bool :=
  let length : Int := Decimal.digitCount d.digits
  if d.digits = 0 then true
  else if length + d.exponent ≤ -324 then true
  else if -323 < length + d.exponent then false
  else decide (d.digits * Nat.pow 2 1075 ≤ Nat.pow 10 (-d.exponent).toNat)

def isLetter (c : Char) : Bool := c.isAlpha

/-- The text without the letters at its end. -/
def dropUnit (text : List Char) : List Char :=
  (text.reverse.dropWhile isLetter).reverse

/-- Nothing before the unit, or a number that is zero. -/
def isZeroText (text : List Char) : Bool :=
  let number := dropUnit text
  number.isEmpty || ((number? number).map roundsToZero).getD false

/-- Absent or zero. Text that is no number counts as set. -/
def isUnset : Option Json → Bool
  | some (.int value) => value = 0
  | some (.float value) => value == 0
  | some (.str text) => isZeroText text.toList
  | _ => true

end ComplianceScanner.Quantity
