namespace ComplianceScanner.Yaml

/-- A place in a text: what is left of it, and how much was read before. -/
structure Cursor where
  rest : List Char
  index : Nat
  line : Nat
  column : Nat

/-- Line feed, carriage return, next line, line separator and paragraph separator. -/
def isBreak (c : Char) : Bool :=
  c = '\n' || c = '\r' || c = '\u0085' || c = '\u2028' || c = '\u2029'

def isBlank (c : Char) : Bool := c = ' ' || c = '\t'

def isBlankOrEnd (c : Option Char) : Bool := c.all fun c => isBlank c || isBreak c

def isWord (c : Char) : Bool := c.isAlphanum || c = '_' || c = '-'

/-- The characters that a document may hold at all. -/
def isAllowed (c : Char) : Bool :=
  let n := c.toNat
  n = 0x09 || n = 0x0a || n = 0x0d || (0x20 ≤ n && n ≤ 0x7e) || n = 0x85 ||
    (0xa0 ≤ n && n ≤ 0xd7ff) || (0xe000 ≤ n && n ≤ 0xfffd) || 0x10000 ≤ n

namespace Cursor

def ofText (text : List Char) : Cursor := ⟨text, 0, 0, 0⟩

def peek (cursor : Cursor) : Option Char := cursor.rest.head?

def peekAt (cursor : Cursor) (n : Nat) : Option Char := cursor.rest[n]?

/-- Passes characters that are no line breaks. -/
def skip (cursor : Cursor) (n : Nat) : Cursor :=
  { cursor with
    rest := cursor.rest.drop n
    index := cursor.index + n
    column := cursor.column + n }

/-- Reads characters that are no line breaks, as long as the condition holds. -/
def takeWhile (cursor : Cursor) (p : Char → Bool) : List Char × Cursor :=
  let taken := cursor.rest.takeWhile p
  (taken, cursor.skip taken.length)

def nextLine (cursor : Cursor) (rest : List Char) (length : Nat) : Cursor :=
  ⟨rest, cursor.index + length, cursor.line + 1, 0⟩

/-- Reads one line break. All of them become line feeds, but for the two separators. -/
def lineBreak? (cursor : Cursor) : Option (Char × Cursor) :=
  match cursor.rest with
  | '\r' :: '\n' :: rest => some ('\n', cursor.nextLine rest 2)
  | c :: rest =>
    if c = '\u2028' ∨ c = '\u2029' then some (c, cursor.nextLine rest 1)
    else if isBreak c then some ('\n', cursor.nextLine rest 1)
    else none
  | [] => none

def skipBlanks (cursor : Cursor) : Cursor := (cursor.takeWhile isBlank).2

/-- Passes a comment up to the end of its line. -/
def skipComment (cursor : Cursor) : Cursor :=
  if cursor.peek = some '#' then (cursor.takeWhile fun c => !isBreak c).2 else cursor

/-- Three dashes or three dots alone at the start of a line. -/
def atMarker (cursor : Cursor) (mark : Char) : Bool :=
  cursor.column = 0 && cursor.rest.take 3 = [mark, mark, mark] && isBlankOrEnd (cursor.peekAt 3)

def atDocumentMarker (cursor : Cursor) : Bool :=
  cursor.atMarker '-' || cursor.atMarker '.'

end Cursor

end ComplianceScanner.Yaml
