import ComplianceScanner.Pattern.Brackets
import ComplianceScanner.Pattern.Matching

namespace ComplianceScanner.Pattern

/-- A read part of a pattern. Only an item can be repeated; options set in between are none. -/
structure Part where
  expr : Expr
  depth : Nat
  isItem : Bool

/-- Parts nest at most this deep. -/
def depthLimit : Nat := 250

/-- The states that an automaton for a pattern may take, about. -/
def stateLimit : Nat := 327680

def deepest (parts : List Part) : Nat := (parts.map (·.depth)).foldl max 0

def Part.sequence (parts : List Part) : Part :=
  match parts with
  | [] => ⟨.empty, 0, true⟩
  | [part] => part
  | parts => ⟨.seqAll (parts.map (·.expr)), deepest parts + 1, true⟩

def Part.alternatives (branches : List Part) : Part :=
  match branches with
  | [] => ⟨.empty, 0, true⟩
  | [branch] => branch
  | first :: rest =>
    ⟨rest.foldl (fun expr branch => .alt expr branch.expr) first.expr,
      deepest (first :: rest) + 1, true⟩

/-- A character by itself, or with those that differ from it in case only. -/
def literal (options : Options) (c : Char) : Part :=
  ⟨.chars ((CharSet.single c).foldCaseIf options.ignoreCase options.unicode), 0, true⟩

/-- Without Unicode, a byte beyond ASCII is no character. -/
def escapePart? (options : Options) : Escape → Option Part
  | .char c => some (literal options c)
  | .byte c => if isAdmitted options c then some (literal options c) else none
  | .set set => some ⟨.chars set, 0, true⟩
  | .look condition => some ⟨.look condition, 0, true⟩

/-- Without Unicode a dot would match bytes that are no characters. -/
def dot? (options : Options) : Option Part :=
  if !options.unicode then none
  else if options.dotAll then some ⟨.chars ⟨fun _ => true, 10⟩, 0, true⟩
  else if options.carriageReturns then
    some ⟨.chars ⟨fun c => c ≠ '\n' && c ≠ '\r', 12⟩, 0, true⟩
  else some ⟨.chars ⟨(· ≠ '\n'), 11⟩, 0, true⟩

def lineStart (options : Options) : Part :=
  ⟨.look (if options.multiLine then .lineStart options.carriageReturns else .textStart), 0, true⟩

def lineEnd (options : Options) : Part :=
  ⟨.look (if options.multiLine then .lineEnd options.carriageReturns else .textEnd), 0, true⟩

/-- Applies a repetition to the last of the parts, which are held in reverse. -/
def repeatLast? (least : Nat) (most : Option Nat) : List Part → Option (List Part)
  | [] => none
  | part :: rest =>
    if part.isItem then some (⟨.rep part.expr least most, part.depth + 1, true⟩ :: rest) else none

/-- A question mark after a repetition changes which match is found, not whether there is one. -/
def dropLazyMark (cursor : Cursor) : Cursor :=
  if cursor.peek = some '?' then cursor.drop 1 else cursor

/-- `{n}`, `{n,}`, `{n,m}` or `{,m}`, where the last counts from zero on is refused; the cursor is
at the brace. -/
def counts? (cursor : Cursor) : Option ((Nat × Option Nat) × Cursor) := do
  let (least, after) ← decimal? cursor.next
  let ((least, most), after) ←
    if after.peek = some ',' then do
      let after := after.next
      let least ← least
      if after.peek = some '\x7d' then some ((least, none), after)
      else do
        let (most, after) ← decimal? after
        let most ← most
        guard (least ≤ most)
        some ((least, some most), after)
    else do
      let least ← least
      some ((least, some least), after)
  guard (after.peek = some '\x7d')
  some ((least, most), dropLazyMark after.next)

/-- Letters of options, each once, and at most one hyphen, which must not be the last. -/
def optionLetters? : List Char → List Char → Option (List Char × List Char)
  | held, c :: rest =>
    if c = ':' ∨ c = ')' then
      if held.head? = some '-' then none else some (held.reverse, c :: rest)
    else if held.contains c ∨ !"imsURux-".toList.contains c then none
    else optionLetters? (c :: held) rest
  | _, [] => none

def Options.set (options : Options) (on : Bool) (letter : Char) : Options :=
  match letter with
  | 'i' => { options with ignoreCase := on }
  | 'm' => { options with multiLine := on }
  | 's' => { options with dotAll := on }
  | 'R' => { options with carriageReturns := on }
  | 'x' => { options with verbose := on }
  | 'u' => { options with unicode := on }
  | _ => options

def Options.apply (options : Options) (letters : List Char) : Options :=
  let on := letters.takeWhile (· ≠ '-')
  let off := (letters.dropWhile (· ≠ '-')).drop 1
  off.foldl (·.set false ·) (on.foldl (·.set true ·) options)

def isNameStart (c : Char) : Bool := c = '_' || Unicode.isAlphabetic c

def isNamePart (c : Char) : Bool :=
  c = '_' || c = '.' || c = '[' || c = ']' || Unicode.isAlphabetic c ||
    ["Nd", "Nl", "No"].contains (Unicode.category c)

/-- The name of a group up to its angle bracket; no two groups have the same. -/
def groupName? (cursor : Cursor) : Option Cursor := do
  let name := cursor.rest.takeWhile (· ≠ '>')
  let after := cursor.drop name.length
  guard (after.peek = some '>')
  let first ← name.head?
  guard (isNameStart first ∧ (name.drop 1).all isNamePart ∧ !cursor.names.contains name)
  some { after.drop 1 with names := name :: cursor.names }

/-- What an opening parenthesis begins. -/
inductive Opening where
  | group
  | options

/-- Reads what follows an opening parenthesis; look-around is not supported. -/
def opening? (cursor : Cursor) : Option (Opening × Cursor) :=
  if ["?=", "?!", "?<=", "?<!"].any cursor.startsWith then none
  else if cursor.startsWith "?P<" then (groupName? (cursor.drop 3)).map (.group, ·)
  else if cursor.startsWith "?<" then (groupName? (cursor.drop 2)).map (.group, ·)
  else if cursor.peek = some '?' then do
    let (letters, rest) ← optionLetters? [] (cursor.rest.drop 1)
    let after := { cursor with
      rest := rest.drop 1, options := cursor.options.apply letters }
    if rest.head? = some ')' then
      if letters = [] then none else some (.options, after)
    else some (.group, after)
  else some (.group, cursor)

mutual

/-- Alternatives up to a closing parenthesis or the end. -/
def alternatives? : Nat → Cursor → Option (List Part × Cursor)
  | 0, _ => none
  | fuel + 1, cursor => do
    let (parts, after) ← parts? fuel [] cursor
    let branch := Part.sequence parts.reverse
    if after.peek = some '|' then
      let (others, after) ← alternatives? fuel (after.drop 1)
      some (branch :: others, after)
    else some ([branch], after)

/-- Parts up to a bar, a closing parenthesis or the end, in reverse. -/
def parts? : Nat → List Part → Cursor → Option (List Part × Cursor)
  | 0, _, _ => none
  | fuel + 1, parts, cursor =>
    let cursor := cursor.skipSpace
    let options := cursor.options
    match cursor.peek with
    | none => some (parts, cursor)
    | some '|' => some (parts, cursor)
    | some ')' => some (parts, cursor)
    | some '(' => do
      let (part, after) ← group? fuel options (cursor.drop 1).skipSpace
      parts? fuel (part :: parts) after
    | some '[' => do
      let (class_, after) ← brackets? (2 * cursor.rest.length + 2) cursor
      parts? fuel (⟨.chars class_.set, class_.depth, true⟩ :: parts) after
    | some '?' => do
      let parts ← repeatLast? 0 (some 1) parts
      parts? fuel parts (dropLazyMark (cursor.drop 1))
    | some '*' => do
      let parts ← repeatLast? 0 none parts
      parts? fuel parts (dropLazyMark (cursor.drop 1))
    | some '+' => do
      let parts ← repeatLast? 1 none parts
      parts? fuel parts (dropLazyMark (cursor.drop 1))
    | some '\x7b' => do
      let ((least, most), after) ← counts? cursor
      let parts ← repeatLast? least most parts
      parts? fuel parts after
    | some '\\' => do
      let (escape, after) ← escape? cursor
      let part ← escapePart? options escape
      parts? fuel (part :: parts) after
    | some '.' => do
      let part ← dot? options
      parts? fuel (part :: parts) (cursor.drop 1)
    | some '^' => parts? fuel (lineStart options :: parts) (cursor.drop 1)
    | some '$' => parts? fuel (lineEnd options :: parts) (cursor.drop 1)
    | some c => parts? fuel (literal options c :: parts) (cursor.drop 1)

/-- A group with its closing parenthesis, after which the options `outer` are in force again, or
options set for what follows. -/
def group? : Nat → Options → Cursor → Option (Part × Cursor)
  | 0, _, _ => none
  | fuel + 1, outer, cursor => do
    match ← opening? cursor with
    | (.options, after) => some (⟨.empty, 0, false⟩, after)
    | (.group, after) =>
      let (branches, after) ← alternatives? fuel after
      guard (after.peek = some ')')
      let inner := Part.alternatives branches
      some (⟨inner.expr, inner.depth + 1, true⟩, { after.drop 1 with options := outer })

end

def compile? (pattern : String) : Option Expr := do
  let text := pattern.toList
  let (branches, after) ← alternatives? (4 * text.length + 4) { rest := text }
  guard (after.rest = [])
  let whole := Part.alternatives branches
  guard (whole.depth ≤ depthLimit ∧ whole.expr.states ≤ stateLimit)
  some whole.expr

end ComplianceScanner.Pattern
