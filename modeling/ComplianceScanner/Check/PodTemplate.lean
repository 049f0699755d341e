import ComplianceScanner.Json.Basic

namespace ComplianceScanner.PodTemplate

/-- The pod spec of a workload at the place where its kind keeps it. -/
def spec? (kind : String) (data : Json) : Option Json :=
  (data.get? "spec").bind fun spec =>
    if kind = "Pod" then some spec
    else if kind = "CronJob" then spec.path? ["jobTemplate", "spec", "template", "spec"]
    else spec.path? ["template", "spec"]

/-- The items of an array member; anything else counts as empty. -/
def items (json : Json) (name : String) : List Json :=
  ((json.get? name).bind Json.arr?).getD []

/-- Regular containers, then init containers. -/
def containers (spec : Json) : List Json :=
  items spec "containers" ++ items spec "initContainers"

def containerName (container : Json) : String :=
  ((container.get? "name").bind Json.str?).getD "<unnamed>"

/-- Only a literal `true` sets a flag. -/
def flag (json : Json) (path : List String) : Bool :=
  ((json.path? path).bind Json.bool?).getD false

/-- The first container that `fails`, reported with `message`. -/
def firstContainer (kind : String) (data : Json) (fails : Json → Json → Bool)
    (message : String) : Option String :=
  (spec? kind data).bind fun spec =>
    ((containers spec).find? (fails spec)).map fun container =>
      "container \"" ++ containerName container ++ "\" " ++ message

end ComplianceScanner.PodTemplate
