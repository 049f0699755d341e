/-!
Addresses to listen at: a host, a colon and a number. A host is four octets, as in `10.0.0.1:80`,
or eight groups of hexadecimal digits in brackets, as in `[2001:db8::1]:80`: two colons stand for
as many zero groups as are left out, and four octets may stand for the last two groups.
-/

namespace ComplianceScanner

inductive HostAddress where
  | octets (values : List Nat)
  | groups (values : List Nat)
deriving DecidableEq, Repr

structure ListenAddress where
  host : HostAddress
  number : Nat
deriving DecidableEq, Repr

namespace ListenAddress

def digitValue? (base : Nat) (c : Char) : Option Nat :=
  let value :=
    if c.isDigit then c.toNat - 48
    else if 'a' ≤ c ∧ c ≤ 'f' then c.toNat - 87
    else if 'A' ≤ c ∧ c ≤ 'F' then c.toNat - 55
    else base
  if value < base then some value else none

def spanDigits (base : Nat) : List Char → List Nat × List Char
  | [] => ([], [])
  | c :: rest =>
    match digitValue? base c with
    | some value => (value :: (spanDigits base rest).1, (spanDigits base rest).2)
    | none => ([], c :: rest)

/-- The number at the front, if it has digits and is below the bound. -/
def number? (base bound : Nat) (text : List Char) : Option (Nat × List Char) :=
  let (digits, rest) := spanDigits base text
  let value := digits.foldl (base * · + ·) 0
  if digits.isEmpty || bound ≤ value then none else some (value, rest)

def octet? (text : List Char) : Option (Nat × List Char) :=
  let (digits, _) := spanDigits 10 text
  if 3 < digits.length || (digits.head? = some 0 && 1 < digits.length) then none
  else number? 10 256 text

def group? (text : List Char) : Option (Nat × List Char) :=
  if 4 < (spanDigits 16 text).1.length then none else number? 16 UInt16.size text

def skip? (mark : Char) : List Char → Option (List Char)
  | c :: rest => if c = mark then some rest else none
  | [] => none

def quad? (text : List Char) : Option ((Nat × Nat × Nat × Nat) × List Char) := do
  let (a, rest) ← octet? text
  let (b, rest) ← octet? (← skip? '.' rest)
  let (c, rest) ← octet? (← skip? '.' rest)
  let (d, rest) ← octet? (← skip? '.' rest)
  some ((a, b, c, d), rest)

/-- A series of groups, as read from the front of a text. -/
structure Series where
  values : List Nat
  /-- The last two were written as octets. -/
  endsInOctets : Bool
  rest : List Char

/-- Reads at most `most` groups with colons between; `first` if none comes before them. -/
def series : (most : Nat) → (first : Bool) → List Char → Series
  | 0, _, text => ⟨[], false, text⟩
  | most + 1, first, text =>
    match if first then some text else skip? ':' text with
    | none => ⟨[], false, text⟩
    | some start =>
      match if most = 0 then none else quad? start with
      | some ((a, b, c, d), rest) => ⟨[256 * a + b, 256 * c + d], true, rest⟩
      | none =>
        match group? start with
        | none => ⟨[], false, text⟩
        | some (value, rest) =>
          let others := series most false rest
          { others with values := value :: others.values }

/-- Eight groups, or fewer around two colons; the colons stand for one group at least. -/
def groups? (text : List Char) : Option (List Nat × List Char) :=
  let head := series 8 true text
  if head.values.length = 8 then some (head.values, head.rest)
  else if head.endsInOctets then none
  else
    match head.rest with
    | ':' :: ':' :: rest =>
      let tail := series (7 - head.values.length) true rest
      let left := 8 - head.values.length - tail.values.length
      some (head.values ++ List.replicate left 0 ++ tail.values, tail.rest)
    | _ => none

/-- Passes over a scope, a percent sign and a number. -/
def skipScope (text : List Char) : List Char :=
  (((skip? '%' text).bind (number? 10 UInt32.size)).map (·.2)).getD text

def host? (text : List Char) : Option (HostAddress × List Char) :=
  match quad? text with
  | some ((a, b, c, d), rest) => some (.octets [a, b, c, d], rest)
  | none => do
    let (values, rest) ← groups? (← skip? '[' text)
    some (.groups values, ← skip? ']' (skipScope rest))

def ofText? (text : String) : Option ListenAddress := do
  let (host, rest) ← host? text.toList
  let (number, rest) ← number? 10 UInt16.size (← skip? ':' rest)
  if rest.isEmpty then some { host, number } else none

end ListenAddress

end ComplianceScanner
