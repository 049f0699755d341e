import ComplianceScanner.Json.Number

namespace ComplianceScanner.Json

inductive Token where
  | beginArray
  | endArray
  | beginObject
  | endObject
  | comma
  | colon
  | text (value : String)
  | scalar (value : Json)

/-- Where in a token the reader stands. The characters of an unfinished token are held in
reverse. -/
inductive Mode where
  | between
  | word (held : List Char)
  | text (held : List Char)
  | escape (held : List Char)
  /-- Inside `\u`: the first half of a surrogate pair, the digits read, and their value. -/
  | unicode (held : List Char) (high : Option Nat) (count value : Nat)
  /-- After the first half of a surrogate pair: whether the backslash of the second was read. -/
  | pair (held : List Char) (high : Nat) (backslash : Bool)

structure Scan where
  mode : Mode
  tokens : List Token

def hexDigit? (c : Char) : Option Nat :=
  if c.isDigit then some (c.toNat - '0'.toNat)
  else if 'a' ≤ c ∧ c ≤ 'f' then some (c.toNat - 'a'.toNat + 10)
  else if 'A' ≤ c ∧ c ≤ 'F' then some (c.toNat - 'A'.toNat + 10)
  else none

def escaped? : Char → Option Char
  | '"' => some '"'
  | '\\' => some '\\'
  | '/' => some '/'
  | 'b' => some '\x08'
  | 'f' => some '\x0c'
  | 'n' => some '\n'
  | 'r' => some '\r'
  | 't' => some '\t'
  | _ => none

def isBlank (c : Char) : Bool :=
  c = ' ' || c = '\t' || c = '\n' || c = '\r'

def punctuation? : Char → Option Token
  | '[' => some .beginArray
  | ']' => some .endArray
  | '\x7b' => some .beginObject
  | '\x7d' => some .endObject
  | ',' => some .comma
  | ':' => some .colon
  | _ => none

/-- Numbers and the three names; the text is in order. -/
def scalar? (text : List Char) : Option Json :=
  if text = "null".toList then some .null
  else if text = "true".toList then some (.bool true)
  else if text = "false".toList then some (.bool false)
  else number? text

/-- The mode after four hexadecimal digits of value `value`; halves of surrogate pairs stand only
in pairs. -/
def Mode.unit? (held : List Char) (high : Option Nat) (value : Nat) : Option Mode :=
  match high with
  | none =>
    if 0xd800 ≤ value ∧ value < 0xdc00 then some (.pair held value false)
    else if 0xdc00 ≤ value ∧ value < 0xe000 then none
    else some (.text (Char.ofNat value :: held))
  | some first =>
    if 0xdc00 ≤ value ∧ value < 0xe000 then
      some (.text (Char.ofNat (0x10000 + (first - 0xd800) * 0x400 + (value - 0xdc00)) :: held))
    else none

/-- A character outside of any token. -/
def Scan.between? (tokens : List Token) (c : Char) : Option Scan :=
  if isBlank c then some ⟨.between, tokens⟩
  else if c = '"' then some ⟨.text [], tokens⟩
  else match punctuation? c with
    | some token => some ⟨.between, token :: tokens⟩
    | none => some ⟨.word [c], tokens⟩

def Scan.step? (scan : Scan) (c : Char) : Option Scan :=
  match scan.mode with
  | .between => Scan.between? scan.tokens c
  | .word held =>
    if isBlank c || c = '"' || (punctuation? c).isSome then do
      let value ← scalar? held.reverse
      Scan.between? (.scalar value :: scan.tokens) c
    else some { scan with mode := .word (c :: held) }
  | .text held =>
    if c = '"' then some ⟨.between, .text (String.ofList held.reverse) :: scan.tokens⟩
    else if c = '\\' then some { scan with mode := .escape held }
    else if c < ' ' then none
    else some { scan with mode := .text (c :: held) }
  | .escape held =>
    if c = 'u' then some { scan with mode := .unicode held none 0 0 }
    else (escaped? c).map fun e => { scan with mode := .text (e :: held) }
  | .unicode held high count value => do
    let d ← hexDigit? c
    let value := value * 16 + d
    if count = 3 then
      let mode ← Mode.unit? held high value
      some { scan with mode }
    else some { scan with mode := .unicode held high (count + 1) value }
  | .pair held high backslash =>
    if backslash then
      if c = 'u' then some { scan with mode := .unicode held (some high) 0 0 } else none
    else if c = '\\' then some { scan with mode := .pair held high true }
    else none

def Scan.finish? (scan : Scan) : Option (List Token) :=
  match scan.mode with
  | .between => some scan.tokens.reverse
  | .word held => (scalar? held.reverse).map fun value => (.scalar value :: scan.tokens).reverse
  | _ => none

def tokens? (text : List Char) : Option (List Token) :=
  (text.foldlM Scan.step? ⟨.between, []⟩).bind Scan.finish?

end ComplianceScanner.Json
