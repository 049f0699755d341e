import ComplianceScanner.Yaml.Node

namespace ComplianceScanner.Yaml

structure Document where
  root : Option Node
  anchors : Anchors

/-- The directives in front of a document: the version is given once and is 1.1 or 1.2, and no
handle is defined twice. -/
def directives? : List Token → Bool → List (String × String) →
    Option (List (String × String) × List Token)
  | .versionDirective major minor :: rest, false, handles =>
    if major = 1 ∧ (minor = 1 ∨ minor = 2) then directives? rest true handles else none
  | .versionDirective _ _ :: _, true, _ => none
  | .tagDirective handle start :: rest, versioned, handles =>
    if (handles.lookup handle).isSome then none
    else directives? rest versioned ((handle, start) :: handles)
  | tokens, _, handles => some (handles, tokens)

def defaultHandles : List (String × String) :=
  [("!", "!"), ("!!", "tag:yaml.org,2002:")]

/-- The tokens after a document: end markers and then the end of the text. -/
def endsStream : List Token → Bool
  | .documentEnd :: rest => endsStream rest
  | [.streamEnd] => true
  | _ => false

def Document.content? (handles : List (String × String)) (tokens : List Token) :
    Option Document := do
  let fuel := 4 * tokens.length + 4
  let (root, composer) ← Compose.node true false fuel { tokens, handles }
  if endsStream composer.tokens then some ⟨some root, composer.anchors⟩ else none

def Document.ofTokens? (tokens : List Token) : Option Document :=
  match tokens with
  | [.streamEnd] => some ⟨none, {}⟩
  | .versionDirective _ _ :: _ | .tagDirective _ _ :: _ | .documentStart :: _ => do
    let (own, rest) ← directives? tokens false []
    let handles := own ++ defaultHandles
    match rest with
    | .documentStart :: rest =>
      match rest with
      | .versionDirective _ _ :: _ | .tagDirective _ _ :: _ | .documentStart :: _ => none
      | .documentEnd :: _ | .streamEnd :: _ =>
        if endsStream rest then some ⟨some .empty, {}⟩ else none
      | _ => content? handles rest
    | _ => none
  | _ => content? defaultHandles tokens

def Document.parse? (text : String) : Option Document :=
  (tokens? text.toList).bind Document.ofTokens?

/-- The node itself, or the one that an alias stands for. -/
def Document.resolve? (document : Document) : Node → Option Node
  | .alias number => document.anchors.node? number
  | node => some node

end ComplianceScanner.Yaml
