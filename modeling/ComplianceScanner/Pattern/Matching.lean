import ComplianceScanner.Pattern.Expr

/-!
Matching by sets of places: from the places where a match of an expression may begin, `ends` gives
the places where one may end. A place is the number of characters before it.
-/

namespace ComplianceScanner.Pattern

def merge (a b : List Nat) : List Nat := a ++ b.filter fun place => !a.contains place

/-- `step` taken `n` times; it ends early where nothing changes. -/
def iterate (step : List Nat → List Nat) : Nat → List Nat → List Nat
  | 0, places => places
  | n + 1, places =>
    let next := step places
    if next = places then places else iterate step n next

/-- All places that up to `n` steps lead to. -/
def reach (step : List Nat → List Nat) : Nat → List Nat → List Nat
  | 0, places => places
  | n + 1, places =>
    let next := merge places (step places)
    if next.length = places.length then places else reach step n next

def charBefore (text : Array Char) (place : Nat) : Option Char :=
  if place = 0 then none else text[place - 1]?

/-- Beyond one more round than there are characters, a further round must take up nothing, so it
changes nothing. -/
def Expr.ends (text : Array Char) : Expr → List Nat → List Nat
  | empty, starts => starts
  | chars set, starts =>
    (starts.filter fun place => text[place]?.any set.mem).map (· + 1)
  | look condition, starts =>
    starts.filter fun place => condition.holds (charBefore text place) text[place]?
  | seq first second, starts => second.ends text (first.ends text starts)
  | alt first second, starts => merge (first.ends text starts) (second.ends text starts)
  | rep body least most, starts =>
    let enough := text.size + 1
    let needed := iterate (body.ends text) (min least enough) starts
    match most with
    | none => reach (body.ends text) enough needed
    | some most => reach (body.ends text) (min (most - least) enough) needed

def Expr.isMatch (expr : Expr) (text : String) : Bool :=
  let chars := text.toList.toArray
  !(expr.ends chars (List.range (chars.size + 1))).isEmpty

end ComplianceScanner.Pattern
