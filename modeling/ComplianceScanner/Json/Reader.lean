import ComplianceScanner.Json.Token

namespace ComplianceScanner.Json

/-- An unfinished array or object: its items in reverse, or its members with the name that waits
for a value. -/
inductive Frame where
  | array (items : List Json)
  | object (members : List (String × Json)) (name : String)

/-- What may come next. -/
inductive Expectation where
  | value
  | valueOrEnd
  | name (members : List (String × Json)) (orEnd : Bool)
  | colon (members : List (String × Json)) (name : String)
  | separator
  | finished (value : Json)

structure Reading where
  frames : List Frame
  expects : Expectation

/-- Containers nest at most this deep. -/
def depthLimit : Nat := 127

/-- Hands a finished value to the innermost unfinished container. -/
def Reading.deliver (frames : List Frame) (value : Json) : Reading :=
  match frames with
  | [] => ⟨[], .finished value⟩
  | .array items :: rest => ⟨.array (value :: items) :: rest, .separator⟩
  | .object members name :: rest =>
    ⟨.object (insertMember name value members) "" :: rest, .separator⟩

def Reading.value? (frames : List Frame) (token : Token) : Option Reading :=
  match token with
  | .scalar value => some (.deliver frames value)
  | .text value => some (.deliver frames (.str value))
  | .beginArray =>
    if frames.length < depthLimit then some ⟨.array [] :: frames, .valueOrEnd⟩ else none
  | .beginObject =>
    if frames.length < depthLimit then some ⟨frames, .name [] true⟩ else none
  | _ => none

def Reading.step? (reading : Reading) (token : Token) : Option Reading :=
  match reading.expects, reading.frames, token with
  | .value, frames, token => Reading.value? frames token
  | .valueOrEnd, .array items :: rest, .endArray => some (.deliver rest (.arr items.reverse))
  | .valueOrEnd, frames, token => Reading.value? frames token
  | .name members _, frames, .text name => some ⟨frames, .colon members name⟩
  | .name members true, frames, .endObject => some (.deliver frames (.obj members))
  | .colon members name, frames, .colon => some ⟨.object members name :: frames, .value⟩
  | .separator, .array items :: rest, .comma => some ⟨.array items :: rest, .value⟩
  | .separator, .array items :: rest, .endArray => some (.deliver rest (.arr items.reverse))
  | .separator, .object members _ :: rest, .comma => some ⟨rest, .name members false⟩
  | .separator, .object members _ :: rest, .endObject => some (.deliver rest (.obj members))
  | _, _, _ => none

/-- The one document that a text holds. -/
def parse? (text : String) : Option Json := do
  let tokens ← tokens? text.toList
  let reading ← tokens.foldlM Reading.step? ⟨[], .value⟩
  match reading.expects with
  | .finished value => some value
  | _ => none

end ComplianceScanner.Json
