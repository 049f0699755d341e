namespace ComplianceScanner

/-- How long cycles took: their number and sum, and how many fell to each bucket. A bucket takes
what is at most its bound and above the bounds before. -/
structure Histogram where
  buckets : List Nat
  sum : Float := 0
  count : Nat := 0
deriving DecidableEq

namespace Histogram

/-- Ten milliseconds and on, each bound twice the one before. -/
def doubling : Nat → Float → List Float
  | 0, _ => []
  | n + 1, bound => bound :: doubling n (bound + bound)

def finiteBounds : List Float := doubling 16 0.01

/-- The last bucket takes every number that the others do not. -/
def largest : Float := Float.ofBits 0x7fefffffffffffff

def bounds : List Float := finiteBounds ++ [largest]

def empty : Histogram := { buckets := bounds.map fun _ => 0 }

/-- Counts into the first bucket whose bound is not below the value; without one, into none. -/
def countInto (value : Float) : List Float → List Nat → List Nat
  | bound :: bounds, held :: buckets =>
    if value ≤ bound then (held + 1) :: buckets else held :: countInto value bounds buckets
  | _, buckets => buckets

def observe (histogram : Histogram) (value : Float) : Histogram :=
  { buckets := countInto value bounds histogram.buckets
    sum := histogram.sum + value
    count := histogram.count + 1 }

/-- How many fell to each bucket or to one before it. -/
def cumulative (before : Nat) : List Nat → List Nat
  | [] => []
  | held :: rest => (before + held) :: cumulative (before + held) rest

end Histogram

end ComplianceScanner
