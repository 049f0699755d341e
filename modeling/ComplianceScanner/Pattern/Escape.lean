import ComplianceScanner.Json.Token
import ComplianceScanner.Pattern.Cursor

namespace ComplianceScanner.Pattern

open Json (hexDigit?)

/-- What a backslash sequence stands for. -/
inductive Escape where
  | char (c : Char)
  /-- Two hexadecimal digits, which name a byte where Unicode is switched off. -/
  | byte (c : Char)
  | set (set : CharSet)
  | look (condition : Look)

def isMeta (c : Char) : Bool := "\\.+*?()|[]\x7b\x7d^$#&-~".toList.contains c

/-- Any ASCII character but letters, digits and angle brackets stands for itself. -/
def isEscapable (c : Char) : Bool :=
  isMeta c || (c.toNat < 0x80 && !c.isAlphanum && c ≠ '<' && c ≠ '>')

def control? : Char → Option Char
  | 'a' => some '\x07'
  | 'f' => some '\x0c'
  | 't' => some '\t'
  | 'n' => some '\n'
  | 'r' => some '\r'
  | 'v' => some '\x0b'
  | _ => none

def hexChar? (digits : List Char) : Option Char := do
  let values ← digits.mapM hexDigit?
  guard (values ≠ [])
  let value : Nat := values.foldl (fun n d => n * 16 + d) 0
  if h : value.isValidChar then some (Char.ofNatAux value h) else none

/-- A fixed number of digits; nothing but the last may be the end of the pattern. -/
def hexDigits? : Nat → Cursor → Option (List Char × Cursor)
  | 0, cursor => some ([], cursor)
  | n + 1, cursor => do
    let c ← cursor.peek
    let (digits, after) ← hexDigits? n cursor.next
    some (c :: digits, after)

/-- `\x41`, `\u0041`, `\U00000041`, or any number of digits in braces; the cursor is at the
letter. -/
def hexEscape? (kind : Char) (cursor : Cursor) : Option (Escape × Cursor) := do
  let cursor := cursor.next
  if cursor.peek = some '\x7b' then
    let (digits, after) ← takeUntil? '\x7d' (cursor.rest.length + 1) cursor.next
    let c ← hexChar? digits
    some (.char c, after.next)
  else
    let count := if kind = 'x' then 2 else if kind = 'u' then 4 else 8
    let (digits, after) ← hexDigits? count cursor
    let c ← hexChar? digits
    some (if kind = 'x' then .byte c else .char c, after)

/-- The first place at which `mark` begins, and the text around it. -/
def splitAt? (mark : List Char) : List Char → Option (List Char × List Char)
  | [] => none
  | c :: rest =>
    if mark.isPrefixOf (c :: rest) then some ([], (c :: rest).drop mark.length)
    else (splitAt? mark rest).map fun (before, after) => (c :: before, after)

/-- A class by what stands in braces; the second value tells whether it is negated. -/
def classQuery? (query : List Char) : Option (CharSet × Bool) :=
  match splitAt? ['!', '='] query with
  | some (property, value) => (CharSet.valued? property value).map (·, true)
  | none =>
    match splitAt? [':'] query with
    | some (property, value) => (CharSet.valued? property value).map (·, false)
    | none =>
      match splitAt? ['='] query with
      | some (property, value) => (CharSet.valued? property value).map (·, false)
      | none => (CharSet.named? query).map (·, false)

/-- `\pL`, `\p{Greek}` and their negations; the cursor is at the letter. -/
def unicodeEscape? (negated : Bool) (cursor : Cursor) : Option (Escape × Cursor) := do
  let options := cursor.options
  guard options.unicode
  let cursor := cursor.next
  let c ← cursor.peek
  let ((set, inverted), after) ←
    if c = '\x7b' then do
      let (query, after) ← takeUntil? '\x7d' (cursor.rest.length + 1) cursor.next
      let found ← classQuery? query
      some (found, after.drop 1)
    else if c = '\\' then none
    else (CharSet.named? [c]).map fun set => ((set, false), cursor.next)
  let set := set.foldCaseIf options.ignoreCase true
  some (.set (set.complementIf (negated != inverted)), after)

/-- Without Unicode a negated class would hold bytes that are no characters. -/
def letterClassEscape? (letter : Char) (cursor : Cursor) : Option (Escape × Cursor) := do
  let unicode := cursor.options.unicode
  let negated := letter.isUpper
  guard (unicode ∨ !negated)
  let set ← CharSet.letterClass? unicode letter.toLower
  some (.set (set.complementIf negated), cursor.drop 1)

/-- The conditions written `\b{start}`; anything else in braces that begins with a letter or a
hyphen is an error, and what begins otherwise is a count. -/
def boundaryEscape? (cursor : Cursor) : Option (Escape × Cursor) :=
  let unicode := cursor.options.unicode
  let isNameChar (c : Char) : Bool := c.isAlpha || c = '-'
  let plain : Option (Escape × Cursor) := some (.look (.wordBoundary unicode), cursor)
  if cursor.peek = some '\x7b' then
    let inner := cursor.next
    match inner.peek with
    | none => none
    | some c =>
      if !isNameChar c then plain
      else do
        let (name, after) ← takeUntil? '\x7d' (inner.rest.length + 1) inner
        let condition ←
          match String.ofList name with
          | "start" => some (Look.wordStart unicode)
          | "end" => some (.wordEnd unicode)
          | "start-half" => some (.wordStartHalf unicode)
          | "end-half" => some (.wordEndHalf unicode)
          | _ => none
        some (.look condition, after.drop 1)
  else plain

def escape? (cursor : Cursor) : Option (Escape × Cursor) := do
  let cursor := cursor.drop 1
  let unicode := cursor.options.unicode
  let c ← cursor.peek
  let after := cursor.drop 1
  if c.isDigit then none
  else if c = 'x' ∨ c = 'u' ∨ c = 'U' then hexEscape? c cursor
  else if c = 'p' ∨ c = 'P' then unicodeEscape? (c = 'P') cursor
  else if (CharSet.letterClass? unicode c.toLower).isSome then letterClassEscape? c cursor
  else if isEscapable c then some (.char c, after)
  else match control? c with
    | some d => some (.char d, after)
    | none =>
      match c with
      | 'A' => some (.look .textStart, after)
      | 'z' => some (.look .textEnd, after)
      | 'b' => boundaryEscape? after
      | 'B' => some (.look (.notWordBoundary unicode), after)
      | '<' => some (.look (.wordStart unicode), after)
      | '>' => some (.look (.wordEnd unicode), after)
      | _ => none

end ComplianceScanner.Pattern
