/-!
The order in which the versions of an API group are preferred: stable ones first, then betas, then
alphas, higher numbers first in each; then all other names by the alphabet.
-/

namespace ComplianceScanner.Kubernetes

inductive VersionName where
  | stable (major : Nat)
  | beta (major : Nat) (minor : Option Nat)
  | alpha (major : Nat) (minor : Option Nat)
  | other (name : String)
deriving DecidableEq, Repr

namespace VersionName

/-- A number of 32 bits in decimal, of which a plus sign may stand in front. -/
def number? (text : List Char) : Option Nat :=
  let digits := match text with
    | '+' :: rest => rest
    | _ => text
  if digits.isEmpty || !digits.all Char.isDigit then none
  else
    let n := digits.foldl (fun n c => 10 * n + (c.toNat - '0'.toNat)) 0
    if n < UInt32.size then some n else none

def minor? (text : List Char) : Option (Option Nat) :=
  if text.isEmpty then some none else (number? text).map some

/-- Reads names such as `v1`, `v2beta` and `v1alpha3`. -/
def ofChars? : List Char → Option VersionName
  | 'v' :: rest =>
    let digits := rest.takeWhile Char.isDigit
    (number? digits).bind fun major =>
      match rest.dropWhile Char.isDigit with
      | [] => some (stable major)
      | 'a' :: 'l' :: 'p' :: 'h' :: 'a' :: suffix => (minor? suffix).map (alpha major)
      | 'b' :: 'e' :: 't' :: 'a' :: suffix => (minor? suffix).map (beta major)
      | _ => none
  | _ => none

def ofText (text : String) : VersionName := (ofChars? text.toList).getD (other text)

/-- Stability, major and minor number; a minor number comes before none. -/
def rank : VersionName → Nat × Nat × Nat
  | stable major => (3, major, 0)
  | beta major minor => (2, major, (minor.map (· + 1)).getD 0)
  | alpha major minor => (1, major, (minor.map (· + 1)).getD 0)
  | other _ => (0, 0, 0)

/-- Whether the first may stand before the second. -/
def precedes (a b : VersionName) : Bool :=
  match a, b with
  | other a, other b => decide (a ≤ b)
  | a, b =>
    let (s, m, n) := a.rank
    let (s', m', n') := b.rank
    decide (s' < s) || (s = s' && (decide (m' < m) || (m = m' && decide (n' ≤ n))))

end VersionName

end ComplianceScanner.Kubernetes
