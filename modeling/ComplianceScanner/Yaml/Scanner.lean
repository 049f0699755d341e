import ComplianceScanner.Yaml.Property
import ComplianceScanner.Yaml.Scalar

/-!
The tokens of a text. A key in front of a colon is only recognised at the colon, so its `key` token
is put in afterwards, in front of the tokens of the key; until then the place is remembered as a
`SimpleKey`. Block collections have no closing sign of their own: `blockEnd` tokens follow from the
indentation.
-/

namespace ComplianceScanner.Yaml

/-- A place where a key may turn out to have begun. A required one must end in a colon. -/
structure SimpleKey where
  required : Bool
  position : Nat
  index : Nat
  line : Nat
  column : Nat

/-- Tokens are held newest first. `key` is the candidate at the current flow level, `outer` holds
those of the levels around it. -/
structure Scanner where
  cursor : Cursor
  tokens : List Token := []
  count : Nat := 0
  key : Option SimpleKey := none
  outer : List (Option SimpleKey) := []
  keyAllowed : Bool := true
  indent : Int := -1
  indents : List Int := []

/-- A key stands on one line and has at most this many characters before its colon. -/
def simpleKeyLimit : Nat := 1024

namespace Scanner

def inFlow (s : Scanner) : Bool := !s.outer.isEmpty

def push (s : Scanner) (token : Token) : Scanner :=
  { s with tokens := token :: s.tokens, count := s.count + 1 }

/-- Puts a token in front of all tokens from `position` on. -/
def insert (s : Scanner) (position : Nat) (token : Token) : Scanner :=
  let later := s.count - position
  { s with
    tokens := s.tokens.take later ++ token :: s.tokens.drop later
    count := s.count + 1 }

/-- Reads a sign of `n` characters. -/
def pushSign (s : Scanner) (token : Token) (n : Nat) : Scanner :=
  { s.push token with cursor := s.cursor.skip n }

/-- Opens a block collection if the column is to the right of the enclosing one. -/
def openBlock (s : Scanner) (column position : Nat) (token : Token) : Scanner :=
  if s.inFlow then s
  else if s.indent < column then
    { s.insert position token with indent := column, indents := s.indent :: s.indents }
  else s

/-- Closes the block collections to the right of the column. -/
def closeBlocks (s : Scanner) (column : Int) : Scanner :=
  if s.inFlow then s else go s.indents s
where
  go : List Int → Scanner → Scanner
    | [], s => if column < s.indent then { s.push .blockEnd with indent := -1 } else s
    | parent :: rest, s =>
      if column < s.indent then
        go rest { s.push .blockEnd with indent := parent, indents := rest }
      else s

/-- Forgets the candidate of the current level, which must not be a required one. -/
def dropKey? (s : Scanner) : Option Scanner :=
  if s.key.any (·.required) then none else some { s with key := none }

def saveKey? (s : Scanner) : Option Scanner :=
  if s.keyAllowed then
    let required := !s.inFlow && s.indent = s.cursor.column
    (dropKey? s).map fun s =>
      { s with key := some ⟨required, s.count, s.cursor.index, s.cursor.line, s.cursor.column⟩ }
  else some s

def isStale (cursor : Cursor) (key : SimpleKey) : Bool :=
  key.line < cursor.line || key.index + simpleKeyLimit < cursor.index

/-- Forgets candidates that are too far back. -/
def dropStaleKeys? (s : Scanner) : Option Scanner :=
  let stale (key : Option SimpleKey) : Bool := key.any (isStale s.cursor)
  if (s.key :: s.outer).any fun key => stale key && key.any (·.required) then none
  else
    let keep (key : Option SimpleKey) : Option SimpleKey := if stale key then none else key
    some { s with key := keep s.key, outer := s.outer.map keep }

/-- Passes blanks, comments and line breaks. Tabs may not indent a block, and after a line break a
key may begin. -/
def toNextToken : Nat → Scanner → Scanner
  | 0, s => s
  | rounds + 1, s =>
    let cursor := s.cursor
    let cursor := if cursor.column = 0 && cursor.peek = some '\ufeff' then cursor.skip 1 else cursor
    let tabs := s.inFlow || !s.keyAllowed
    let cursor := (cursor.takeWhile fun c => c = ' ' || (tabs && c = '\t')).2.skipComment
    match cursor.lineBreak? with
    | some (_, next) =>
      toNextToken rounds { s with cursor := next, keyAllowed := s.keyAllowed || !s.inFlow }
    | none => { s with cursor }

def finish? (s : Scanner) : Option Scanner :=
  (closeBlocks s (-1)).dropKey?.map (push · .streamEnd)

def readDirective? (s : Scanner) : Option Scanner := do
  let s ← (closeBlocks s (-1)).dropKey?
  let (token, next) ← directive? s.cursor
  some { s.push token with cursor := next, keyAllowed := false }

def readMarker? (s : Scanner) (token : Token) : Option Scanner := do
  let s ← (closeBlocks s (-1)).dropKey?
  some { s.pushSign token 3 with keyAllowed := false }

def openFlow? (s : Scanner) (token : Token) : Option Scanner := do
  let s ← s.saveKey?
  some { s.pushSign token 1 with key := none, outer := s.key :: s.outer, keyAllowed := true }

def closeFlow? (s : Scanner) (token : Token) : Option Scanner := do
  let s ← s.dropKey?
  let s := match s.outer with
    | [] => s
    | key :: outer => { s with key, outer }
  some { s.pushSign token 1 with keyAllowed := false }

def readFlowEntry? (s : Scanner) : Option Scanner := do
  let s ← s.dropKey?
  some { s.pushSign .flowEntry 1 with keyAllowed := true }

def readBlockEntry? (s : Scanner) : Option Scanner := do
  guard (s.inFlow ∨ s.keyAllowed)
  let s ← (s.openBlock s.cursor.column s.count .blockSequenceStart).dropKey?
  some { s.pushSign .blockEntry 1 with keyAllowed := true }

def readKey? (s : Scanner) : Option Scanner := do
  guard (s.inFlow ∨ s.keyAllowed)
  let s ← (s.openBlock s.cursor.column s.count .blockMappingStart).dropKey?
  some { s.pushSign .key 1 with keyAllowed := !s.inFlow }

/-- A colon ends the key that began at the candidate; without a candidate the key is empty or was
marked by a question mark. -/
def readValue? (s : Scanner) : Option Scanner :=
  match s.key with
  | some key =>
    let s := (s.insert key.position .key).openBlock key.column key.position .blockMappingStart
    some { s.pushSign .value 1 with key := none, keyAllowed := false }
  | none => do
    guard (s.inFlow ∨ s.keyAllowed)
    let s := s.openBlock s.cursor.column s.count .blockMappingStart
    some { s.pushSign .value 1 with keyAllowed := !s.inFlow }

def readAnchor? (s : Scanner) (token : String → Token) : Option Scanner := do
  let s ← s.saveKey?
  let (name, next) ← anchorName? s.cursor
  some { s.push (token (String.ofList name)) with cursor := next, keyAllowed := false }

def readTag? (s : Scanner) : Option Scanner := do
  let s ← s.saveKey?
  let ((handle, suffix), next) ← tag? s.inFlow s.cursor
  some { s.push (.tag (String.ofList handle) (String.ofList suffix)) with
    cursor := next, keyAllowed := false }

def pushScalar (s : Scanner) (text : List Char) (style : ScalarStyle) (next : Cursor) : Scanner :=
  { s.push (.scalar (String.ofList text.reverse) style) with cursor := next }

def readBlockScalar? (s : Scanner) (folded : Bool) : Option Scanner := do
  let s ← s.dropKey?
  let (text, next) ← blockScalar? folded s.indent (s.cursor.skip 1)
  some { s.pushScalar text (if folded then .folded else .literal) next with keyAllowed := true }

def readQuoted? (s : Scanner) (single : Bool) : Option Scanner := do
  let s ← s.saveKey?
  let start := s.cursor.skip 1
  let (text, next) ← quotedScalar? single (start.rest.length + 1) [] start
  let style := if single then ScalarStyle.singleQuoted else .doubleQuoted
  some { s.pushScalar text style next with keyAllowed := false }

def readPlain? (s : Scanner) : Option Scanner := do
  let s ← s.saveKey?
  let (scalar, next) ←
    plainScalar? s.inFlow (s.indent + 1) (s.cursor.rest.length + 1) [] {} s.cursor
  some { s.pushScalar scalar.text .plain next with keyAllowed := scalar.endsLine }

def isIndicator (c : Char) : Bool :=
  ['-', '?', ':', ',', '[', ']', '\x7b', '\x7d', '#', '&', '*', '!', '|', '>', '\'', '"', '%', '@',
    '\x60'].contains c

/-- A plain scalar begins with a character that is no indicator, or with one of three indicators
that more text follows. -/
def beginsPlain (inFlow : Bool) (c : Char) (following : Option Char) : Bool :=
  (!(isBlank c || isBreak c) && !isIndicator c) ||
    (c = '-' && !following.any isBlank) ||
    (!inFlow && (c = '?' || c = ':') && !isBlankOrEnd following)

/-- Reads the token at the cursor. -/
def readToken? (s : Scanner) (c : Char) : Option Scanner :=
  let following := s.cursor.peekAt 1
  let alone := isBlankOrEnd following
  if s.cursor.column = 0 && c = '%' then s.readDirective?
  else if s.cursor.atMarker '-' then s.readMarker? .documentStart
  else if s.cursor.atMarker '.' then s.readMarker? .documentEnd
  else if c = '[' then s.openFlow? .flowSequenceStart
  else if c = '\x7b' then s.openFlow? .flowMappingStart
  else if c = ']' then s.closeFlow? .flowSequenceEnd
  else if c = '\x7d' then s.closeFlow? .flowMappingEnd
  else if c = ',' then s.readFlowEntry?
  else if c = '-' && alone then s.readBlockEntry?
  else if c = '?' && (s.inFlow || alone) then s.readKey?
  else if c = ':' && (s.inFlow || alone) then s.readValue?
  else if c = '*' then s.readAnchor? .alias
  else if c = '&' then s.readAnchor? .anchor
  else if c = '!' then s.readTag?
  else if c = '|' && !s.inFlow then s.readBlockScalar? false
  else if c = '>' && !s.inFlow then s.readBlockScalar? true
  else if c = '\'' then s.readQuoted? true
  else if c = '"' then s.readQuoted? false
  else if beginsPlain s.inFlow c following then s.readPlain?
  else none

/-- Every token has a character of its own, so the characters bound the rounds. -/
def run? : Nat → Scanner → Option Scanner
  | 0, _ => none
  | rounds + 1, s => do
    let s ← (s.toNextToken (s.cursor.rest.length + 1)).dropStaleKeys?
    let s := s.closeBlocks s.cursor.column
    match s.cursor.peek with
    | none => s.finish?
    | some c => (s.readToken? c).bind (run? rounds)

end Scanner

/-- All tokens of a text, which must hold allowed characters only. -/
def tokens? (text : List Char) : Option (List Token) :=
  if text.all isAllowed then
    (Scanner.run? (text.length + 1) { cursor := .ofText text }).map (·.tokens.reverse)
  else none

end ComplianceScanner.Yaml
