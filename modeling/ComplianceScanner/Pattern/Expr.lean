import ComplianceScanner.Pattern.CharSet

namespace ComplianceScanner.Pattern

/-- Conditions on a place between two characters. -/
inductive Look where
  | textStart
  | textEnd
  | lineStart (carriageReturns : Bool)
  | lineEnd (carriageReturns : Bool)
  | wordBoundary (unicode : Bool)
  | notWordBoundary (unicode : Bool)
  | wordStart (unicode : Bool)
  | wordEnd (unicode : Bool)
  | wordStartHalf (unicode : Bool)
  | wordEndHalf (unicode : Bool)
deriving DecidableEq, Repr

inductive Expr where
  | empty
  | chars (set : CharSet)
  | look (condition : Look)
  | seq (first second : Expr)
  | alt (first second : Expr)
  | rep (body : Expr) (least : Nat) (most : Option Nat)

namespace Look

def isWord (unicode : Bool) (c : Option Char) : Bool :=
  c.any (if unicode then CharSet.isWord else CharSet.isAsciiWord)

/-- Whether the place between the two characters meets the condition; nothing stands beyond the
ends of the text. With carriage returns a place inside `\r\n` neither ends nor starts a line. -/
def holds (condition : Look) (before after : Option Char) : Bool :=
  match condition with
  | textStart => before.isNone
  | textEnd => after.isNone
  | lineStart false => before.isNone || before = some '\n'
  | lineEnd false => after.isNone || after = some '\n'
  | lineStart true =>
    before.isNone || before = some '\n' || (before = some '\r' && after ≠ some '\n')
  | lineEnd true =>
    after.isNone || after = some '\r' || (after = some '\n' && before ≠ some '\r')
  | wordBoundary unicode => isWord unicode before != isWord unicode after
  | notWordBoundary unicode => isWord unicode before == isWord unicode after
  | wordStart unicode => !isWord unicode before && isWord unicode after
  | wordEnd unicode => isWord unicode before && !isWord unicode after
  | wordStartHalf unicode => !isWord unicode before
  | wordEndHalf unicode => !isWord unicode after

end Look

namespace Expr

/-- Whether a match can take up any character. -/
def consumes : Expr → Bool
  | empty => false
  | chars _ => true
  | look _ => false
  | seq first second => consumes first || consumes second
  | alt first second => consumes first || consumes second
  | rep body _ most => consumes body && most ≠ some 0

/-- The automaton states that the expression takes, about. Repetitions are unrolled, but what
takes up no character is repeated once at most. -/
def states : Expr → Nat
  | empty => 0
  | chars set => max set.states 1
  | look _ => 1
  | seq first second => states first + states second
  | alt first second => states first + states second + 1
  | rep body least most =>
    let once := states body
    if !consumes body then once
    else match most with
      | none => least * once + once + 2
      | some most => least * once + (most - least) * (once + 1)

def seqAll (parts : List Expr) : Expr := parts.foldr seq empty

end Expr

end ComplianceScanner.Pattern
