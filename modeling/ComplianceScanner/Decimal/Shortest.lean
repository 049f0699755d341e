/-!
The fewest decimal digits that read back as a given binary number. A `Binary` stands for
`significand * 2 ^ exponent`; every real between its two midpoints to the neighbouring binary
numbers reads back as it, and so do the midpoints themselves when the significand is even.
-/

namespace ComplianceScanner.Decimal

/-- The nonnegative binary number `significand * 2 ^ exponent`. -/
structure Binary where
  significand : Nat
  exponent : Int
deriving DecidableEq, Repr

/-- The nonnegative decimal number `digits * 10 ^ exponent`. -/
structure Number where
  digits : Nat
  exponent : Int
deriving DecidableEq, Repr

/-- The magnitude of a finite double; for an infinity or a NaN the value is of no use. -/
def Binary.ofFloat (x : Float) : Binary :=
  let bits := x.toBits.toNat
  let biased : Nat := bits / Nat.pow 2 52 % Nat.pow 2 11
  let fraction : Nat := bits % Nat.pow 2 52
  if biased = 0 then ⟨fraction, -1074⟩ else ⟨fraction + Nat.pow 2 52, (biased : Int) - 1075⟩

/-- Numerator and denominator of `value * base ^ exponent`. -/
def scaled (value base : Nat) (exponent : Int) : Nat × Nat :=
  if 0 ≤ exponent then (value * base.pow exponent.toNat, 1)
  else (value, base.pow (-exponent).toNat)

def digitCount (n : Nat) : Nat :=
  if h : n = 0 then 0 else digitCount (n / 10) + 1
termination_by n
decreasing_by omega

/-- The exponent `p` with `10 ^ (p - 1) ≤ numerator / denominator < 10 ^ p`. -/
def magnitude (numerator denominator : Nat) : Int :=
  if denominator ≤ numerator then digitCount (numerator / denominator)
  else
    let places := digitCount (denominator / numerator)
    if Nat.pow 10 (places - 1) * numerator = denominator then 2 - (places : Int)
    else 1 - (places : Int)

/-- The four-fold bounds of the interval of reals that read back as `x`. The lower neighbour of a
power of two is only half as far away as the upper one. -/
def Binary.bounds (x : Binary) : Nat × Nat :=
  let below := if x.significand = Nat.pow 2 52 ∧ -1074 < x.exponent then 1 else 2
  (4 * x.significand - below, 4 * x.significand + 2)

/-- Whether `candidate * 10 ^ exponent` reads back as `x`. -/
def Binary.readsBack (x : Binary) (candidate : Nat) (exponent : Int) : Bool :=
  let (low, high) := x.bounds
  let (a, b) := scaled candidate 10 exponent
  let (lowNum, den) := scaled low 2 (x.exponent - 2)
  let (highNum, _) := scaled high 2 (x.exponent - 2)
  if x.significand % 2 = 0 then decide (lowNum * b ≤ a * den ∧ a * den ≤ highNum * b)
  else decide (lowNum * b < a * den ∧ a * den < highNum * b)

/-- The point of the grid `10 ^ exponent` that reads back as `x`: of the two neighbours of `x`
the nearer one, and the even one if both are equally near. -/
def Binary.onGrid? (x : Binary) (exponent : Int) : Option Nat :=
  let (num, den) := scaled x.significand 2 x.exponent
  let (unitNum, unitDen) := scaled 1 10 exponent
  let below := num * unitDen / (den * unitNum)
  let remainder := num * unitDen % (den * unitNum)
  match x.readsBack below exponent, x.readsBack (below + 1) exponent with
  | true, true =>
    if 2 * remainder < den * unitNum then some below
    else if den * unitNum < 2 * remainder then some (below + 1)
    else some (below + below % 2)
  | true, false => some below
  | false, true => some (below + 1)
  | false, false => none

/-- The same number without zeros at the end of its digits. -/
def Number.dropZeros (d : Number) : Number :=
  if h : d.digits = 0 then ⟨0, 0⟩
  else if d.digits % 10 = 0 then dropZeros ⟨d.digits / 10, d.exponent + 1⟩
  else d
termination_by d.digits
decreasing_by omega

/-- The shortest decimal that reads back as `x`, nearest to `x` among the shortest; seventeen
digits always suffice. -/
def shortest (x : Binary) : Number :=
  if x.significand = 0 then ⟨0, 0⟩
  else
    let (num, den) := scaled x.significand 2 x.exponent
    let top := magnitude num den
    let found := (List.range 17).findSome? fun (n : Nat) =>
      let exponent := top - ((n : Nat) + 1 : Int)
      (x.onGrid? exponent).map fun digits => (⟨digits, exponent⟩ : Number)
    (found.getD ⟨x.significand, 0⟩).dropZeros

end ComplianceScanner.Decimal
