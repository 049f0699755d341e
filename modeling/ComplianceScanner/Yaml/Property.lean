import ComplianceScanner.Json.Token
import ComplianceScanner.Yaml.Cursor
import ComplianceScanner.Yaml.Token

/-! Directives, anchors, aliases and tags. -/

namespace ComplianceScanner.Yaml

open Json (hexDigit?)

def isAnchorEnd (c : Option Char) : Bool :=
  isBlankOrEnd c || c.any fun c => ['?', ':', ',', ']', '\x7d', '%', '@', '\x60'].contains c

def anchorName? (cursor : Cursor) : Option (List Char × Cursor) :=
  let (name, next) := (cursor.skip 1).takeWhile isWord
  if name ≠ [] ∧ isAnchorEnd next.peek then some (name, next) else none

/-- `!`, `!!` or `!name!`; in a directive a name needs its closing mark. -/
def tagHandle? (inDirective : Bool) (cursor : Cursor) : Option (List Char × Cursor) :=
  if cursor.peek = some '!' then
    let (name, next) := (cursor.skip 1).takeWhile isWord
    if next.peek = some '!' then some ('!' :: name ++ ['!'], next.skip 1)
    else if inDirective ∧ name ≠ [] then none
    else some ('!' :: name, next)
  else none

def isTagChar (verbatim : Bool) (c : Char) : Bool :=
  isWord c || ";/?:@&=+$.%!~*'()".toList.contains c || (verbatim && ",[]".toList.contains c)

/-- The number of bytes of a character that begins with this byte. -/
def encodedLength? (byte : Nat) : Option Nat :=
  if byte < 0x80 then some 1
  else if byte / 0x20 = 6 then some 2
  else if byte / 0x10 = 14 then some 3
  else if byte / 0x08 = 30 then some 4
  else none

def escapedByte? : List Char → Option (Nat × List Char)
  | '%' :: a :: b :: rest => do
    let high ← hexDigit? a
    let low ← hexDigit? b
    some (high * 16 + low, rest)
  | _ => none

def escapedTail? : Nat → Nat → List Char → Option (Nat × List Char)
  | 0, value, text => some (value, text)
  | n + 1, value, text => do
    let (byte, rest) ← escapedByte? text
    guard (byte / 0x40 = 2)
    escapedTail? n (value * 0x40 + byte % 0x40) rest

/-- One character written as escaped bytes, and the number of characters that took. -/
def escapedChar? (text : List Char) : Option (Char × Nat) := do
  let (first, rest) ← escapedByte? text
  let length ← encodedLength? first
  let lead := if length = 1 then first else first % Nat.pow 2 (7 - length)
  let (value, _) ← escapedTail? (length - 1) lead rest
  some (Char.ofNat value, 3 * length)

def tagText? (verbatim : Bool) : Nat → List Char → Cursor → Option (List Char × Cursor)
  | 0, text, cursor => some (text, cursor)
  | rounds + 1, text, cursor =>
    match cursor.peek with
    | none => some (text, cursor)
    | some c =>
      if !isTagChar verbatim c then some (text, cursor)
      else if c = '%' then do
        let (c, length) ← escapedChar? cursor.rest
        tagText? verbatim rounds (c :: text) (cursor.skip length)
      else tagText? verbatim rounds (c :: text) (cursor.skip 1)

/-- The characters of a tag after its handle; `head` was read as a handle and belongs to them, but
for its mark. -/
def tagSuffix? (verbatim : Bool) (head : List Char) (cursor : Cursor) :
    Option (List Char × Cursor) := do
  let (text, next) ← tagText? verbatim (cursor.rest.length + 1) (head.drop 1).reverse cursor
  guard (head ≠ [] ∨ text ≠ [])
  some (text.reverse, next)

/-- Handle and suffix of a tag, which ends at a blank, or at a comma inside a flow collection. -/
def tag? (inFlow : Bool) (cursor : Cursor) : Option ((List Char × List Char) × Cursor) := do
  let (parts, next) ←
    if cursor.peekAt 1 = some '<' then do
      let (suffix, next) ← tagSuffix? true [] (cursor.skip 2)
      guard (next.peek = some '>')
      some (([], suffix), next.skip 1)
    else do
      let (handle, next) ← tagHandle? false cursor
      if 1 < handle.length ∧ handle.getLast? = some '!' then
        let (suffix, next) ← tagSuffix? false [] next
        some ((handle, suffix), next)
      else
        let (suffix, next) ← tagSuffix? false handle next
        some (if suffix = [] then ([], ['!']) else (['!'], suffix), next)
  guard (isBlankOrEnd next.peek ∨ (inFlow ∧ next.peek = some ','))
  some (parts, next)

/-- A part of a version: one to nine digits. -/
def versionNumber? (cursor : Cursor) : Option (Nat × Cursor) :=
  let (digits, next) := cursor.takeWhile Char.isDigit
  if 1 ≤ digits.length ∧ digits.length ≤ 9 then
    some (digits.foldl (fun n d => n * 10 + (d.toNat - '0'.toNat)) 0, next)
  else none

def versionDirective? (cursor : Cursor) : Option (Token × Cursor) := do
  let (major, next) ← versionNumber? cursor.skipBlanks
  guard (next.peek = some '.')
  let (minor, next) ← versionNumber? (next.skip 1)
  some (.versionDirective major minor, next)

def tagDirective? (cursor : Cursor) : Option (Token × Cursor) := do
  let (handle, next) ← tagHandle? true cursor.skipBlanks
  guard (next.peek.any isBlank)
  let (start, next) ← tagSuffix? true [] next.skipBlanks
  guard (isBlankOrEnd next.peek)
  some (.tagDirective (String.ofList handle) (String.ofList start), next)

/-- A line that begins with a percent sign: only the version and tag directives are known. -/
def directive? (cursor : Cursor) : Option (Token × Cursor) := do
  let (name, next) := (cursor.skip 1).takeWhile isWord
  guard (name ≠ [] ∧ isBlankOrEnd next.peek)
  let (token, next) ←
    if name = "YAML".toList then versionDirective? next
    else if name = "TAG".toList then tagDirective? next
    else none
  let next := next.skipBlanks.skipComment
  match next.lineBreak? with
  | some (_, next) => some (token, next)
  | none => if next.rest = [] then some (token, next) else none

end ComplianceScanner.Yaml
