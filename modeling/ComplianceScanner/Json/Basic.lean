namespace ComplianceScanner

/-- A JSON document. Members of an object stand in order of their names, each name once. -/
inductive Json where
  | null
  | bool (value : Bool)
  | int (value : Int)
  | float (value : Float)
  | str (value : String)
  | arr (items : List Json)
  | obj (members : List (String × Json))
deriving Inhabited

namespace Json

/-- Puts a member at its place; a member of that name is replaced. -/
def insertMember (name : String) (value : Json) :
    List (String × Json) → List (String × Json)
  | [] => [(name, value)]
  | (other, held) :: rest =>
    if name < other then (name, value) :: (other, held) :: rest
    else if name = other then (name, value) :: rest
    else (other, held) :: insertMember name value rest

/-- The object with these members; of two members of one name the later counts. -/
def ofMembers (members : List (String × Json)) : Json :=
  .obj (members.foldl (fun held member => insertMember member.1 member.2 held) [])

def get? (json : Json) (name : String) : Option Json :=
  match json with
  | .obj members => members.lookup name
  | _ => none

/-- The value that a chain of member names leads to. -/
def path? (json : Json) : List String → Option Json
  | [] => some json
  | name :: rest => (json.get? name).bind (path? · rest)

def bool? : Json → Option Bool
  | .bool value => some value
  | _ => none

def str? : Json → Option String
  | .str value => some value
  | _ => none

def arr? : Json → Option (List Json)
  | .arr items => some items
  | _ => none

def obj? : Json → Option (List (String × Json))
  | .obj members => some members
  | _ => none

/-- A whole number that fits 64 bits with a sign; `2.0` is none. -/
def int64? : Json → Option Int
  | .int value => if Int64.minValue.toInt ≤ value ∧ value ≤ Int64.maxValue.toInt then some value else none
  | _ => none

/-- A whole number in `[0, bound)`. -/
def natBelow? (bound : Nat) : Json → Option Nat
  | .int value => if 0 ≤ value ∧ value < bound then some value.toNat else none
  | _ => none

def isNull : Json → Bool
  | .null => true
  | _ => false

def isObject : Json → Bool
  | .obj _ => true
  | _ => false

def eraseMember (json : Json) (name : String) : Json :=
  match json with
  | .obj members => .obj (members.filter (·.1 ≠ name))
  | other => other

end Json

end ComplianceScanner
