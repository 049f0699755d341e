import ComplianceScanner.Json.Token
import ComplianceScanner.Yaml.Cursor

/-!
The five ways to write a scalar. Texts are collected in reverse. Each loop runs once for every
line of the scalar, so the characters left over bound the rounds.
-/

namespace ComplianceScanner.Yaml

open Json (hexDigit?)

/-- Blanks and line breaks between two words. Once there was a break, blanks no longer count. -/
structure Gap where
  broken : Bool := false
  blanks : List Char := []
  firstBreak : List Char := []
  laterBreaks : List Char := []

/-- A single line feed becomes a blank; of several breaks the first is dropped. Separators stay. -/
def Gap.joinOnto (gap : Gap) (text : List Char) : List Char :=
  if !gap.broken then gap.blanks ++ text
  else if gap.firstBreak = ['\n'] then
    if gap.laterBreaks = [] then ' ' :: text else gap.laterBreaks ++ text
  else gap.laterBreaks ++ gap.firstBreak ++ text

def Gap.pushBreak (gap : Gap) (c : Char) : Gap :=
  if gap.broken then { gap with laterBreaks := c :: gap.laterBreaks } else ⟨true, [], [c], []⟩

/-- Reads a gap. A tab left of `indent` at the start of a line is an error. -/
def Gap.read? (indent : Int) : Nat → Gap → Cursor → Option (Gap × Cursor)
  | 0, gap, cursor => some (gap, cursor)
  | rounds + 1, gap, cursor =>
    match cursor.peek with
    | none => some (gap, cursor)
    | some c =>
      if isBlank c then
        if !gap.broken then
          read? indent rounds { gap with blanks := c :: gap.blanks } (cursor.skip 1)
        else if c = '\t' ∧ (cursor.column : Int) < indent then none
        else read? indent rounds gap (cursor.skip 1)
      else match cursor.lineBreak? with
        | none => some (gap, cursor)
        | some (b, next) => read? indent rounds (gap.pushBreak b) next

/-! ## Plain scalars -/

def isFlowIndicator (c : Char) : Bool :=
  c = ',' || c = '[' || c = ']' || c = '\x7b' || c = '\x7d'

/-- The characters of one word of a plain scalar; inside flow collections a colon may not touch an
indicator. -/
def plainWord? (inFlow : Bool) : List Char → Option (List Char)
  | [] => some []
  | c :: rest =>
    if isBlank c || isBreak c then some []
    else if inFlow && c = ':' && rest.head?.any (fun d => d = '?' || isFlowIndicator d) then none
    else if c = ':' && isBlankOrEnd rest.head? then some []
    else if inFlow && isFlowIndicator c then some []
    else (plainWord? inFlow rest).map (c :: ·)

structure PlainScalar where
  text : List Char
  /-- The scalar was followed by a line break. -/
  endsLine : Bool

def plainScalar? (inFlow : Bool) (indent : Int) :
    Nat → List Char → Gap → Cursor → Option (PlainScalar × Cursor)
  | 0, text, gap, cursor => some (⟨text, gap.broken⟩, cursor)
  | rounds + 1, text, gap, cursor =>
    if cursor.atDocumentMarker || cursor.peek = some '#' then
      some (⟨text, gap.broken⟩, cursor)
    else do
      let word ← plainWord? inFlow cursor.rest
      let next := cursor.skip word.length
      let pending := if word = [] then gap else {}
      let text := if word = [] then text else word.reverse ++ gap.joinOnto text
      if next.peek.any fun c => isBlank c || isBreak c then
        let (gap, next) ← Gap.read? indent (next.rest.length + 1) pending next
        if !inFlow && decide ((next.column : Int) < indent) then
          some (⟨text, gap.broken⟩, next)
        else plainScalar? inFlow indent rounds text gap next
      else some (⟨text, pending.broken⟩, next)

/-! ## Quoted scalars -/

def simpleEscape? : Char → Option Char
  | '0' => some '\x00'
  | 'a' => some '\x07'
  | 'b' => some '\x08'
  | 't' => some '\t'
  | '\t' => some '\t'
  | 'n' => some '\n'
  | 'v' => some '\x0b'
  | 'f' => some '\x0c'
  | 'r' => some '\r'
  | 'e' => some '\x1b'
  | ' ' => some ' '
  | '"' => some '"'
  | '/' => some '/'
  | '\\' => some '\\'
  | 'N' => some '\u0085'
  | '_' => some '\u00a0'
  | 'L' => some '\u2028'
  | 'P' => some '\u2029'
  | _ => none

def escapeLength : Char → Option Nat
  | 'x' => some 2
  | 'u' => some 4
  | 'U' => some 8
  | _ => none

/-- The character of a code point written with hexadecimal digits. -/
def codePoint? (digits : List Char) : Option Char := do
  let values ← digits.mapM hexDigit?
  let value : Nat := values.foldl (fun n d => n * 16 + d) 0
  if h : value.isValidChar then some (Char.ofNatAux value h) else none

/-- What one line of a quoted scalar ends with. -/
inductive QuotedStop where
  | quote
  | blank
  | escapedBreak
deriving DecidableEq

/-- Reads up to a blank, a break or the closing quote, and gives the text onto `text` with the
number of characters read. -/
def quotedRun? (single : Bool) :
    Nat → List Char → Nat → List Char → Option (List Char × Nat × QuotedStop)
  | 0, _, _, _ => none
  | _ + 1, _, _, [] => none
  | rounds + 1, text, count, c :: rest =>
    if isBlank c || isBreak c then some (text, count, .blank)
    else if single then
      if c = '\'' then
        if rest.head? = some '\'' then
          quotedRun? single rounds ('\'' :: text) (count + 2) (rest.drop 1)
        else some (text, count, .quote)
      else quotedRun? single rounds (c :: text) (count + 1) rest
    else if c = '"' then some (text, count, .quote)
    else if c = '\\' then
      match rest with
      | [] => none
      | e :: more =>
        if isBreak e then some (text, count, .escapedBreak)
        else match simpleEscape? e, escapeLength e with
          | some d, _ => quotedRun? single rounds (d :: text) (count + 2) more
          | none, some n =>
            if more.length < n then none
            else (codePoint? (more.take n)).bind fun d =>
              quotedRun? single rounds (d :: text) (count + 2 + n) (more.drop n)
          | none, none => none
    else quotedRun? single rounds (c :: text) (count + 1) rest

def quotedScalar? (single : Bool) : Nat → List Char → Cursor → Option (List Char × Cursor)
  | 0, _, _ => none
  | rounds + 1, text, cursor =>
    if cursor.atDocumentMarker then none
    else
      match quotedRun? single (cursor.rest.length + 1) text 0 cursor.rest with
      | none => none
      | some (text, count, .quote) => some (text, cursor.skip (count + 1))
      | some (text, count, .blank) => do
        let next := cursor.skip count
        let (gap, next) ← Gap.read? 0 (next.rest.length + 1) {} next
        quotedScalar? single rounds (gap.joinOnto text) next
      | some (text, count, .escapedBreak) => do
        let (_, next) ← (cursor.skip (count + 1)).lineBreak?
        let (gap, next) ← Gap.read? 0 (next.rest.length + 1) { broken := true } next
        quotedScalar? single rounds (gap.joinOnto text) next

/-! ## Block scalars -/

/-- What happens to the line breaks at the end of a block scalar. -/
inductive Chomping where
  | strip
  | clip
  | keep
deriving DecidableEq

def chomping? : Char → Option Chomping
  | '+' => some .keep
  | '-' => some .strip
  | _ => none

/-- One to nine; zero is refused. -/
def increment? (c : Char) : Option Nat :=
  if '1' ≤ c ∧ c ≤ '9' then some (c.toNat - '0'.toNat) else none

/-- Chomping and indentation in either order, a comment, and the end of the line. -/
def blockHeader? (cursor : Cursor) : Option (Chomping × Nat × Cursor) := do
  let (chomping, increment, next) ←
    match cursor.peek.bind chomping? with
    | some chomping =>
      let next := cursor.skip 1
      if next.peek.any Char.isDigit then do
        let n ← next.peek.bind increment?
        some (chomping, n, next.skip 1)
      else some (chomping, 0, next)
    | none =>
      if cursor.peek.any Char.isDigit then do
        let n ← cursor.peek.bind increment?
        let next := cursor.skip 1
        match next.peek.bind chomping? with
        | some chomping => some (chomping, n, next.skip 1)
        | none => some (.clip, n, next)
      else some (.clip, 0, cursor)
  let next := next.skipBlanks.skipComment
  match next.lineBreak? with
  | some (_, next) => some (chomping, increment, next)
  | none => if next.rest = [] then some (chomping, increment, next) else none

/-- Empty lines before a line of text. With `indent` zero the indentation is not known yet; the
deepest one seen is given too. -/
def blockBreaks? (indent : Nat) :
    Nat → Nat → List Char → Cursor → Option (Nat × List Char × Cursor)
  | 0, deepest, breaks, cursor => some (deepest, breaks, cursor)
  | rounds + 1, deepest, breaks, cursor =>
    let spaces := (cursor.rest.takeWhile (· = ' ')).length
    let next := cursor.skip (if indent = 0 then spaces else min spaces (indent - cursor.column))
    let deepest := max deepest next.column
    if next.peek = some '\t' ∧ (indent = 0 ∨ next.column < indent) then none
    else match next.lineBreak? with
      | some (b, next) => blockBreaks? indent rounds deepest (b :: breaks) next
      | none => some (deepest, breaks, next)

def blockLines? (folded : Bool) (indent : Nat) :
    Nat → List Char → Option Char → List Char → Bool → Cursor →
      Option (List Char × Option Char × List Char × Cursor)
  | 0, text, lead, trail, _, cursor => some (text, lead, trail, cursor)
  | rounds + 1, text, lead, trail, afterBlank, cursor =>
    if cursor.column = indent ∧ cursor.rest ≠ [] then do
      let startsBlank := cursor.peek.any isBlank
      let text :=
        if folded && lead = some '\n' && !afterBlank && !startsBlank then
          if trail = [] then ' ' :: text else trail ++ text
        else trail ++ lead.toList ++ text
      let (line, next) := cursor.takeWhile fun c => !isBreak c
      let text := line.reverse ++ text
      let (lead, next) := match next.lineBreak? with
        | some (b, next) => (some b, next)
        | none => (none, next)
      let (_, trail, next) ← blockBreaks? indent (next.rest.length + 1) 0 [] next
      blockLines? folded indent rounds text lead trail startsBlank next
    else some (text, lead, trail, cursor)

/-- The text after the indicator of a block scalar; `parent` is the indentation around it. -/
def blockScalar? (folded : Bool) (parent : Int) (cursor : Cursor) :
    Option (List Char × Cursor) := do
  let (chomping, increment, next) ← blockHeader? cursor
  let fixed := if increment = 0 then 0 else (max parent 0).toNat + increment
  let (deepest, trail, next) ← blockBreaks? fixed (next.rest.length + 1) 0 [] next
  let indent := if fixed = 0 then max (max deepest (parent + 1).toNat) 1 else fixed
  let (text, lead, trail, next) ←
    blockLines? folded indent (next.rest.length + 1) [] none trail false next
  let text := if chomping = .strip then text else lead.toList ++ text
  let text := if chomping = .keep then trail ++ text else text
  some (text, next)

end ComplianceScanner.Yaml
