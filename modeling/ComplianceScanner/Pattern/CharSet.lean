import ComplianceScanner.Text.Blank
import ComplianceScanner.Unicode.Category
import ComplianceScanner.Unicode.Folding
import ComplianceScanner.Unicode.Property
import ComplianceScanner.Unicode.Script

namespace ComplianceScanner.Pattern

/-- A set of characters, with an estimate of the automaton states that it takes. -/
structure CharSet where
  mem : Char → Bool
  states : Nat

namespace CharSet

def encodedLength (c : Char) : Nat := c.utf8Size

def none : CharSet := ⟨fun _ => false, 0⟩

def single (c : Char) : CharSet := ⟨(· = c), encodedLength c⟩

def range (first last : Char) : CharSet :=
  ⟨fun c => decide (first ≤ c) && decide (c ≤ last), 2 * encodedLength last⟩

def union (a b : CharSet) : CharSet := ⟨fun c => a.mem c || b.mem c, a.states + b.states⟩

def intersection (a b : CharSet) : CharSet :=
  ⟨fun c => a.mem c && b.mem c, max a.states b.states⟩

def difference (a b : CharSet) : CharSet :=
  ⟨fun c => a.mem c && !b.mem c, max a.states b.states⟩

def symmetricDifference (a b : CharSet) : CharSet :=
  ⟨fun c => a.mem c != b.mem c, a.states + b.states⟩

def complement (a : CharSet) : CharSet := ⟨fun c => !a.mem c, a.states + 8⟩

def complementIf (negated : Bool) (a : CharSet) : CharSet := if negated then a.complement else a

def asciiVariants (c : Char) : List Char := [c.toLower, c.toUpper]

/-- Adds all characters that differ in case only. -/
def foldCase (unicode : Bool) (a : CharSet) : CharSet :=
  let variants := if unicode then Unicode.caseVariants else asciiVariants
  ⟨fun c => a.mem c || (variants c).any a.mem, a.states + 2⟩

def foldCaseIf (folds unicode : Bool) (a : CharSet) : CharSet :=
  if folds then a.foldCase unicode else a

def isDigit (c : Char) : Bool := Unicode.category c = "Nd"

/-- Letters, marks, digits, connecting punctuation and the two joiners. -/
def isWord (c : Char) : Bool :=
  if c.toNat < 0x80 then c.isAlphanum || c = '_'
  else Unicode.isAlphabetic c || ["Mn", "Mc", "Me", "Nd", "Pc"].contains (Unicode.category c) ||
    c = '\u200c' || c = '\u200d'

def isAsciiWord (c : Char) : Bool := c.isAlphanum || c = '_'

def isAsciiBlank (c : Char) : Bool :=
  c = ' ' || c = '\t' || c = '\n' || c = '\r' || c = '\x0b' || c = '\x0c'

/-- The classes behind `\d`, `\s` and `\w`. -/
def letterClass? (unicode : Bool) : Char → Option CharSet
  | 'd' => some (if unicode then ⟨isDigit, 180⟩ else ⟨Char.isDigit, 1⟩)
  | 's' => some (if unicode then ⟨Text.isBlank, 12⟩ else ⟨isAsciiBlank, 1⟩)
  | 'w' => some (if unicode then ⟨isWord, 1500⟩ else ⟨isAsciiWord, 1⟩)
  | _ => Option.none

def asciiClass? (name : String) : Option CharSet :=
  let below (p : Char → Bool) : Option CharSet :=
    some ⟨fun c => decide (c.toNat < 0x80) && p c, 1⟩
  match name with
  | "alnum" => below Char.isAlphanum
  | "alpha" => below Char.isAlpha
  | "ascii" => below fun _ => true
  | "blank" => below fun c => c = '\t' || c = ' '
  | "cntrl" => below fun c => c.toNat < 0x20 || c.toNat = 0x7f
  | "digit" => below Char.isDigit
  | "graph" => below fun c => 0x21 ≤ c.toNat && c.toNat ≤ 0x7e
  | "lower" => below Char.isLower
  | "print" => below fun c => 0x20 ≤ c.toNat && c.toNat ≤ 0x7e
  | "punct" => below fun c => 0x21 ≤ c.toNat && c.toNat ≤ 0x7e && !c.isAlphanum
  | "space" => below isAsciiBlank
  | "upper" => below Char.isUpper
  | "word" => below isAsciiWord
  | "xdigit" => below fun c =>
    c.isDigit || ('a' ≤ c && c ≤ 'f') || ('A' ≤ c && c ≤ 'F')
  | _ => Option.none

def property? (name : List Char) : Option CharSet :=
  (Unicode.properties.find? (Unicode.isNamed ·.names name)).map fun property =>
    ⟨property.holds, property.runs.length⟩

def category? (name : List Char) : Option CharSet :=
  let loose := Unicode.looseName name
  if loose = "any".toList then some ⟨fun _ => true, 10⟩
  else if loose = "assigned".toList then some ⟨fun c => Unicode.category c ≠ "Cn", 1400⟩
  else if loose = "ascii".toList then some ⟨fun c => decide (c.toNat < 0x80), 1⟩
  else (Unicode.categoryNames.find? (Unicode.isNamed · name)).map fun names =>
    let short := String.ofList (names.toList.takeWhile (· ≠ '='))
    ⟨fun c => Unicode.inCategory short (Unicode.category c), 500⟩

def script? (name : List Char) : Option CharSet :=
  (Unicode.scriptNames.find? (Unicode.isNamed · name)).map fun names =>
    let short := String.ofList (names.toList.takeWhile (· ≠ '='))
    ⟨fun c => Unicode.script c = short, 60⟩

/-- A class by a name alone: a property, a general category or a script. -/
def named? (name : List Char) : Option CharSet :=
  ((property? name).or (category? name)).or (script? name)

/-- A class by the value of a property. -/
def valued? (property value : List Char) : Option CharSet :=
  let loose := Unicode.looseName property
  if loose = "gc".toList ∨ loose = "generalcategory".toList then category? value
  else if loose = "sc".toList ∨ loose = "script".toList then script? value
  else Option.none

end CharSet

end ComplianceScanner.Pattern
