import ComplianceScanner.Time.Duration

/-!
An interval that is drawn anew each time: the base, longer or shorter by at most a given share of
it, so that many scanners do not fall into step.
-/

namespace ComplianceScanner

namespace Duration

/-- The duration times a number, as far as that is a duration. -/
def times? (d : Duration) (x : Float) : Option Duration := ofSecondsFloat? (x * d.toSeconds)

end Duration

namespace Jitter

/-- A share is at least nothing and at most the whole; no number stays none. -/
def clampShare (share : Float) : Float :=
  if share < 0 then 0 else if 1 < share then 1 else share

/-- An interval whose length depends on the draw. -/
inductive Interval where
  | fixed (length : Duration)
  | between (shortest longest : Duration)
  /-- Nothing can be drawn, or what is drawn may be too long. -/
  | impossible
deriving DecidableEq

/-- All but a vanishing part of the draws keep this much away from the ends. -/
def inner (share : Float) : Float := share * (1 - 1e-12)

/-- What is drawn from this base and share, the ends themselves left out. -/
def interval (base : Duration) (share : Float) : Interval :=
  let share := clampShare share
  if share.isNaN then .impossible
  else if share == 0 || base = .zero then .fixed base
  else
    match base.times? (1 + -inner share), base.times? (1 + inner share) with
    | some shortest, some longest =>
      if shortest = longest then .fixed shortest else .between shortest longest
    | _, _ => .impossible

/-- The interval that a draw between `-share` and `share` gives. -/
def draw (base : Duration) (offset : Float) : Duration := (base.times? (1 + offset)).getD base

end Jitter

end ComplianceScanner
