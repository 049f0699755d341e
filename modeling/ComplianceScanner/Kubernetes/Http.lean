import ComplianceScanner.Error.Cluster
import ComplianceScanner.Json.Reader

/-!
Requests to the API server and its replies. All requests read, so they are a path and a query; a
refusal says why in a document or in plain text.
-/

namespace ComplianceScanner.Kubernetes

structure Request where
  path : String
  query : List (String × String) := []

structure Reply where
  status : Nat
  body : String

abbrev Transport (World : Type) := Request → World → Reply × World

namespace Request

def hexByte (n : Nat) : List Char :=
  let digit (n : Nat) : Char := if n < 10 then Char.ofNat (n + 48) else Char.ofNat (n + 55)
  ['%', digit (n / 16), digit (n % 16)]

/-- A byte of a query value: letters, digits and a few marks stand as they are, a space is a plus
sign, all else is written in hexadecimal. -/
def encodeByte (byte : UInt8) : List Char :=
  let c := Char.ofNat byte.toNat
  if c.isAlphanum || c = '*' || c = '-' || c = '.' || c = '_' then [c]
  else if c = ' ' then ['+']
  else hexByte byte.toNat

def encode (text : String) : String :=
  String.ofList (text.toUTF8.toList.flatMap encodeByte)

def queryText (request : Request) : String :=
  "&".intercalate (request.query.map fun (name, value) => encode name ++ "=" ++ encode value)

/-- Path and query, if there is one. -/
def target (request : Request) : String :=
  if request.query.isEmpty then request.path else request.path ++ "?" ++ request.queryText

/-- Characters that may stand in a path as they are. -/
def isPathChar (c : Char) : Bool :=
  let n := c.toNat
  0x21 ≤ n && n ≠ 0x3c && n ≠ 0x3e && n ≠ 0x60

def isValid (request : Request) : Bool := request.path.toList.all isPathChar

end Request

def reasonPhrases : List (Nat × String) :=
  [(400, "Bad Request"), (401, "Unauthorized"), (402, "Payment Required"), (403, "Forbidden"),
   (404, "Not Found"), (405, "Method Not Allowed"), (406, "Not Acceptable"),
   (407, "Proxy Authentication Required"), (408, "Request Timeout"), (409, "Conflict"),
   (410, "Gone"), (411, "Length Required"), (412, "Precondition Failed"),
   (413, "Payload Too Large"), (414, "URI Too Long"), (415, "Unsupported Media Type"),
   (416, "Range Not Satisfiable"), (417, "Expectation Failed"), (418, "I'm a teapot"),
   (421, "Misdirected Request"), (422, "Unprocessable Entity"), (423, "Locked"),
   (424, "Failed Dependency"), (425, "Too Early"), (426, "Upgrade Required"),
   (428, "Precondition Required"), (429, "Too Many Requests"),
   (431, "Request Header Fields Too Large"), (451, "Unavailable For Legal Reasons"),
   (500, "Internal Server Error"), (501, "Not Implemented"), (502, "Bad Gateway"),
   (503, "Service Unavailable"), (504, "Gateway Timeout"), (505, "HTTP Version Not Supported"),
   (506, "Variant Also Negotiates"), (507, "Insufficient Storage"), (508, "Loop Detected"),
   (510, "Not Extended"), (511, "Network Authentication Required")]

def statusLine (status : Nat) : String :=
  toString status ++ " " ++ (reasonPhrases.lookup status).getD "<unknown status code>"

namespace Reply

def isRefusal (reply : Reply) : Bool := 400 ≤ reply.status && decide (reply.status < 600)

/-- A text that may be left out, but not be of another type. -/
def textOrEmpty? (json : Json) (name : String) : Option String :=
  match json.get? name with
  | none => some ""
  | some value => value.str?

/-- A refusal as a document: status and code must be given. -/
def failure? (json : Json) : Option ApiFailure := do
  match json with
  | .arr [status, message, reason, code] =>
    some ⟨← status.str?, ← message.str?, ← reason.str?, ← code.natBelow? UInt16.size⟩
  | _ =>
    some {
      status := ← (← json.get? "status").str?
      message := ← textOrEmpty? json "message"
      reason := ← textOrEmpty? json "reason"
      code := ← (← json.get? "code").natBelow? UInt16.size }

/-- What a refusal says; a body that is no document is quoted. -/
def failure (reply : Reply) : ApiFailure :=
  ((Json.parse? reply.body).bind failure?).getD
    { status := statusLine reply.status
      message := Text.quoted reply.body
      reason := "Failed to parse error data"
      code := reply.status }

def document? (reply : Reply) : Except ClusterError Json :=
  if reply.isRefusal then .error (.api reply.failure)
  else
    match Json.parse? reply.body with
    | some json => .ok json
    | none => .error .malformed

end Reply

end ComplianceScanner.Kubernetes
