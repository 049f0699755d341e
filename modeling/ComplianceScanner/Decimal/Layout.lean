import ComplianceScanner.Decimal.Shortest

namespace ComplianceScanner.Decimal

/-- How a double is written: where positional writing ends, whether a whole number keeps a
fraction, and the words for what has no digits. -/
structure Layout where
  /-- Positions of the point, counted from the first digit, that are written out; the others
  take an exponent. `none` writes out all of them. -/
  positional : Option (Int × Int)
  /-- Whole numbers end in `.0`. -/
  keepFraction : Bool

/-- The digits with their point `point` places after the first one. -/
def Layout.positionalText (layout : Layout) (digits : List Char) (point : Int) : List Char :=
  if point ≤ 0 then
    ['0', '.'] ++ List.replicate (-point).toNat '0' ++ digits
  else if point.toNat < digits.length then
    digits.take point.toNat ++ '.' :: digits.drop point.toNat
  else
    digits ++ List.replicate (point.toNat - digits.length) '0' ++
      if layout.keepFraction then ['.', '0'] else []

/-- One digit, the others after the point, and the exponent of ten. -/
def exponentText (digits : List Char) (point : Int) : List Char :=
  let mantissa := match digits with
    | first :: second :: rest => first :: '.' :: second :: rest
    | short => short
  mantissa ++ 'e' :: (toString (point - 1)).toList

def Layout.magnitudeText (layout : Layout) (d : Number) : List Char :=
  if d.digits = 0 then '0' :: if layout.keepFraction then ['.', '0'] else []
  else
    let digits := Nat.toDigits 10 d.digits
    let point := digits.length + d.exponent
    match layout.positional with
    | none => layout.positionalText digits point
    | some (low, high) =>
      if low ≤ point ∧ point ≤ high then layout.positionalText digits point
      else exponentText digits point

/-- The sign bit decides the sign, also of zero. -/
def Layout.text (layout : Layout) (x : Float) : String :=
  let negative := Nat.pow 2 63 ≤ x.toBits.toNat
  if x.isNaN then "NaN"
  else if x.isInf then if negative then "-inf" else "inf"
  else
    let magnitude := layout.magnitudeText (shortest (Binary.ofFloat x))
    String.ofList (if negative then '-' :: magnitude else magnitude)

/-- Numbers in messages are never written with an exponent and keep no empty fraction. -/
def plain : Layout := ⟨none, false⟩

/-- Numbers in documents are written out between `1e-5` and `1e16`. -/
def document : Layout := ⟨some (-4, 16), true⟩

/-- Numbers in metric samples are written out between `1e-6` and `1e21`. -/
def sample : Layout := ⟨some (-5, 21), true⟩

end ComplianceScanner.Decimal
