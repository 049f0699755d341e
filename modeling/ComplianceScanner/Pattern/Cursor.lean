import ComplianceScanner.Pattern.Expr

/-!
What is left of a pattern while it is read, and the options in force. All readers below give `none`
where the pattern is not well formed.
-/

namespace ComplianceScanner.Pattern

/-- The options that letters in `(?ims-ux)` switch; two more letters have no influence on whether
a text matches at all. -/
structure Options where
  ignoreCase : Bool := false
  multiLine : Bool := false
  dotAll : Bool := false
  carriageReturns : Bool := false
  verbose : Bool := false
  unicode : Bool := true

structure Cursor where
  rest : List Char
  options : Options := {}
  /-- The names given to groups so far. -/
  names : List (List Char) := []

namespace Cursor

def peek (cursor : Cursor) : Option Char := cursor.rest.head?

def drop (cursor : Cursor) (n : Nat) : Cursor := { cursor with rest := cursor.rest.drop n }

/-- Without blanks and comments at the front. -/
def dropSpace : List Char → Bool → List Char
  | [], _ => []
  | c :: rest, true => dropSpace rest (c ≠ '\n')
  | c :: rest, false =>
    if Text.isBlank c then dropSpace rest false
    else if c = '#' then dropSpace rest true
    else c :: rest

/-- In verbose patterns, passes blanks and comments. -/
def skipSpace (cursor : Cursor) : Cursor :=
  if cursor.options.verbose then { cursor with rest := dropSpace cursor.rest false } else cursor

def next (cursor : Cursor) : Cursor := (cursor.drop 1).skipSpace

/-- The next character, as seen past blanks and comments. -/
def peekNext (cursor : Cursor) : Option Char := cursor.next.peek

def startsWith (cursor : Cursor) (text : String) : Bool :=
  text.toList.isPrefixOf cursor.rest

end Cursor

/-- The characters up to `last`, each followed by blanks and comments in verbose patterns. -/
def takeUntil? (last : Char) : Nat → Cursor → Option (List Char × Cursor)
  | 0, _ => none
  | fuel + 1, cursor =>
    match cursor.peek with
    | none => none
    | some c =>
      if c = last then some ([], cursor)
      else (takeUntil? last fuel cursor.next).map fun (text, after) => (c :: text, after)

/-- A number of at most 32 bits, with blanks around and, in verbose patterns, inside. `none` if it
is too large, and no number if no digit is there. -/
def decimal? (cursor : Cursor) : Option (Option Nat × Cursor) :=
  let cursor := { cursor with rest := cursor.rest.dropWhile Text.isBlank }
  let (digits, after) := go (cursor.rest.length + 1) cursor
  let after := { after with rest := after.rest.dropWhile Text.isBlank }.skipSpace
  let value : Nat := digits.foldl (fun n d => n * 10 + (d.toNat - '0'.toNat)) 0
  if digits = [] then some (none, after)
  else if value < UInt32.size then some (some value, after)
  else none
where
  go : Nat → Cursor → List Char × Cursor
    | 0, cursor => ([], cursor)
    | fuel + 1, cursor =>
      match cursor.peek with
      | some c =>
        if c.isDigit then
          let (digits, after) := go fuel cursor.next
          (c :: digits, after)
        else ([], cursor)
      | none => ([], cursor)

end ComplianceScanner.Pattern
