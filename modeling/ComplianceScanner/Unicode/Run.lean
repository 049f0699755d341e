/-!
Properties of characters as runs. The code points from zero on are cut into runs of one value each,
and a table lists the lengths of the runs with their values.
-/

namespace ComplianceScanner.Unicode

structure Run where
  length : Nat
  value : String
deriving Repr

/-- Reads `32Cc 1Zs 3Po`: each length is followed by its value. -/
def readRuns (text : List Char) : List Run :=
  go (text.filter (!·.isWhitespace)) 0 []
where
  emit (length : Nat) (value : List Char) (rest : List Run) : List Run :=
    if value = [] then rest else ⟨length, String.ofList value.reverse⟩ :: rest
  go : List Char → Nat → List Char → List Run
    | [], length, value => emit length value []
    | c :: rest, length, value =>
      if c.isDigit then
        let digit := c.toNat - '0'.toNat
        if value = [] then go rest (length * 10 + digit) []
        else emit length value (go rest digit [])
      else go rest length (c :: value)

/-- The value of the run that a code point falls into. -/
def valueAt? : List Run → Nat → Option String
  | [], _ => none
  | run :: rest, n => if n < run.length then some run.value else valueAt? rest (n - run.length)

/-- Numbers in decimal, each followed by anything else. -/
def readNumbers (text : List Char) : List Nat :=
  go text none
where
  go : List Char → Option Nat → List Nat
    | [], none => []
    | [], some n => [n]
    | c :: rest, held =>
      if c.isDigit then go rest (some (held.getD 0 * 10 + (c.toNat - '0'.toNat)))
      else match held with
        | none => go rest none
        | some n => n :: go rest none

/-- Whether a code point falls into a run at an odd place, of runs that are outside and inside by
turns. -/
def isInside : List Nat → Nat → Bool
  | [], _ => false
  | [_], _ => false
  | outside :: inside :: rest, n =>
    if n < outside then false
    else if n < outside + inside then true
    else isInside rest (n - outside - inside)

/-- Names are compared without case, spaces, underscores, hyphens and a leading `is`. -/
def looseName (name : List Char) : List Char :=
  let lower := name.map Char.toLower
  let begins := ['i', 's'].isPrefixOf lower
  let kept := (if begins then lower.drop 2 else lower).filter fun c =>
    c ≠ ' ' && c ≠ '_' && c ≠ '-' && c.toNat < 0x80
  if begins && kept = ['c'] then ['i', 's', 'c'] else kept

/-- Whether a list of names, parted by `=`, holds this one. -/
def isNamed (names : String) (name : List Char) : Bool :=
  (names.splitOn "=").any fun other => looseName other.toList = looseName name

end ComplianceScanner.Unicode
