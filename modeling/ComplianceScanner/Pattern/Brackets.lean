import ComplianceScanner.Pattern.Escape

/-!
Classes in brackets: single characters, ranges, classes in other notations, nested classes, and the
operators `&&`, `--` and `~~`, which all bind alike and to the left.
-/

namespace ComplianceScanner.Pattern

/-- A class with the depth of the brackets in it. -/
structure Brackets where
  set : CharSet
  depth : Nat

inductive SetOperator where
  | intersection
  | difference
  | symmetricDifference

def SetOperator.apply : SetOperator → CharSet → CharSet → CharSet
  | intersection => CharSet.intersection
  | difference => CharSet.difference
  | symmetricDifference => CharSet.symmetricDifference

/-- A single item or the end of a range; the second value tells whether it is a character. -/
inductive SetItem where
  | char (c : Char)
  | set (set : CharSet)

def setItem? (cursor : Cursor) : Option (SetItem × Cursor) := do
  let c ← cursor.peek
  if c = '\\' then
    match ← escape? cursor with
    | (.char d, after) => some (.char d, after)
    | (.byte d, after) => some (.char d, after)
    | (.set set, after) => some (.set set, after)
    | (.look _, _) => none
  else some (.char c, cursor.drop 1)

/-- Without Unicode only ASCII characters are single bytes. -/
def isAdmitted (options : Options) (c : Char) : Bool := options.unicode || c.toNat < 0x80

/-- An item, or a range of two characters around a hyphen. A hyphen before the closing bracket or
another hyphen makes no range. -/
def setRange? (cursor : Cursor) : Option (CharSet × Cursor) := do
  let options := cursor.options
  let (first, after) ← setItem? cursor
  let after := after.skipSpace
  let c ← after.peek
  if c ≠ '-' ∨ after.peekNext = some ']' ∨ after.peekNext = some '-' then
    match first with
    | .set set => some (set, after)
    | .char d => if isAdmitted options d then some (.single d, after) else none
  else
    let (last, after) ← setItem? after.next
    match first, last with
    | .char low, .char high =>
      if low ≤ high ∧ isAdmitted options low ∧ isAdmitted options high then
        some (.range low high, after)
      else none
    | _, _ => none

/-- `[:name:]` or `[:^name:]`; the cursor is at the bracket. Anything else is no error but a
nested class. -/
def asciiItem? (cursor : Cursor) : Option (CharSet × Bool × Cursor) := do
  guard (cursor.startsWith "[:")
  let inner := cursor.drop 2
  let negated := inner.peek = some '^'
  let inner := if negated then inner.drop 1 else inner
  let name := inner.rest.takeWhile (· ≠ ':')
  let after := inner.drop name.length
  guard (after.startsWith ":]")
  let set ← CharSet.asciiClass? (String.ofList name)
  some (set, negated, after.drop 2)

/-- The items so far, and the operator and left side that wait for them. -/
structure OpenSet where
  items : CharSet := .none
  waiting : Option (SetOperator × CharSet) := none
  depth : Nat := 0

def OpenSet.add (s : OpenSet) (set : CharSet) : OpenSet := { s with items := s.items.union set }

/-- The items joined with what waits for them; both sides of an operator are folded first. -/
def OpenSet.value (s : OpenSet) (options : Options) : CharSet :=
  match s.waiting with
  | none => s.items
  | some (operator, left) =>
    let fold := CharSet.foldCaseIf options.ignoreCase options.unicode
    operator.apply (fold left) (fold s.items)

def OpenSet.operate (s : OpenSet) (options : Options) (operator : SetOperator) : OpenSet :=
  { items := .none, waiting := some (operator, s.value options), depth := s.depth }

/-- Hyphens at the front, and a closing bracket in front of all, stand for themselves. -/
def leadingItems : Nat → CharSet → Cursor → CharSet × Cursor
  | 0, items, cursor => (items, cursor)
  | fuel + 1, items, cursor =>
    if cursor.peek = some '-' then leadingItems fuel (items.union (.single '-')) cursor.next
    else (items, cursor)

/-- The inside of brackets from after the caret on, up to the closing bracket. -/
def brackets? : Nat → Cursor → Option (Brackets × Cursor)
  | 0, _ => none
  | fuel + 1, cursor => do
    let options := cursor.options
    let start := cursor.next
    let negated := start.peek = some '^'
    let start := if negated then start.next else start
    let (items, after) := leadingItems (start.rest.length + 1) .none start
    let (items, after) :=
      if after.rest.length = start.rest.length ∧ after.peek = some ']' then
        (CharSet.single ']', after.next)
      else (items, after)
    let (inner, after) ← body fuel { items } after
    guard (options.unicode ∨ !negated)
    let set := (inner.value options).foldCaseIf options.ignoreCase options.unicode
    some (⟨set.complementIf negated, inner.depth + 1⟩, after)
where
  body : Nat → OpenSet → Cursor → Option (OpenSet × Cursor)
    | 0, _, _ => none
    | fuel + 1, s, cursor => do
      let cursor := cursor.skipSpace
      let options := cursor.options
      let c ← cursor.peek
      if c = ']' then some (s, cursor.drop 1)
      else if c = '[' then
        match asciiItem? cursor with
        | some (set, negated, after) =>
          guard (options.unicode ∨ !negated)
          let set := set.foldCaseIf options.ignoreCase options.unicode
          body fuel (s.add (set.complementIf negated)) after
        | none =>
          let (nested, after) ← brackets? fuel cursor
          body fuel { s.add nested.set with depth := max s.depth nested.depth } after
      else if cursor.startsWith "&&" then
        body fuel (s.operate options .intersection) (cursor.drop 2)
      else if cursor.startsWith "--" then
        body fuel (s.operate options .difference) (cursor.drop 2)
      else if cursor.startsWith "~~" then
        body fuel (s.operate options .symmetricDifference) (cursor.drop 2)
      else
        let (set, after) ← setRange? cursor
        body fuel (s.add set) after

end ComplianceScanner.Pattern
