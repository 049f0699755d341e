/-!
Paths as routes. A route is a text with placeholders in braces: a placeholder stands for the rest of
a segment, one that begins with a star for the rest of the path. A doubled brace is a brace.
-/

namespace ComplianceScanner

inductive RoutePiece where
  | char (c : Char)
  /-- One or more characters up to the next slash. -/
  | segment
  /-- One or more characters up to the end. -/
  | rest
deriving DecidableEq, Repr

abbrev Route := List RoutePiece

namespace Route

/-- A character of a route; `plain` is false for a brace that is not doubled. -/
structure Glyph where
  char : Char
  plain : Bool

def glyphs : List Char → List Glyph
  | '\x7b' :: '\x7b' :: rest => ⟨'\x7b', true⟩ :: glyphs rest
  | '\x7d' :: '\x7d' :: rest => ⟨'\x7d', true⟩ :: glyphs rest
  | c :: rest => ⟨c, c ≠ '\x7b' && c ≠ '\x7d'⟩ :: glyphs rest
  | [] => []

def isBrace (u : Glyph) (brace : Char) : Bool := u.char = brace && !u.plain

/-- The end of a placeholder, from its second character on: how many characters are left of its
name, and what follows it. No star and no slash may stand there. -/
def closing? : List Glyph → Option (Nat × List Glyph)
  | [] => none
  | u :: rest =>
    if isBrace u '\x7d' then some (0, rest)
    else if u.char = '*' || u.char = '/' then none
    else (closing? rest).map fun (length, rest) => (length + 1, rest)

/-- At most so many segments may be left open. -/
def placeholderLimit : Nat := 25

/-- Reads a route, with the number of placeholders that it may still hold and at most `steps`
pieces. -/
def pieces? : Nat → Nat → List Glyph → Option Route
  | 0, _, _ => none
  | _ + 1, _, [] => some []
  | steps + 1, left, u :: rest =>
    if isBrace u '\x7d' then none
    else if isBrace u '\x7b' then
      match rest with
      | first :: rest =>
        if first.char = '\x7d' then none
        else
          match closing? rest with
          | none => none
          | some (length, rest) =>
            if first.char = '*' then
              if length = 0 || !rest.isEmpty then none else some [.rest]
            else if left = 0 || rest.head?.any (·.char ≠ '/') then none
            else (pieces? steps (left - 1) rest).map (.segment :: ·)
      | [] => none
    else (pieces? steps left rest).map (.char u.char :: ·)

/-- Whether some segment begins with one of the marks that once stood for placeholders. -/
def hasOldMark : List Char → Bool
  | '/' :: ':' :: _ => true
  | '/' :: '*' :: _ => true
  | _ :: rest => hasOldMark rest
  | [] => false

/-- A text that begins with a slash as a route. -/
def ofText? (text : List Char) : Option Route :=
  if hasOldMark text then none else pieces? (text.length + 1) placeholderLimit (glyphs text)

def covers : Route → List Char → Bool
  | [], path => path.isEmpty
  | .char c :: route, first :: path => c = first && covers route path
  | .char _ :: _, [] => false
  | .segment :: route, path =>
    !(path.takeWhile (· ≠ '/')).isEmpty && covers route (path.dropWhile (· ≠ '/'))
  | .rest :: _, path => !path.isEmpty

end Route

end ComplianceScanner
