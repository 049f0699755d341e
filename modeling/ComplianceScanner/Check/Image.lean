namespace ComplianceScanner.Image

/-- What follows the last slash. -/
def lastComponent (image : List Char) : List Char :=
  (image.reverse.takeWhile (· ≠ '/')).reverse

/-- What follows the first colon. -/
def tag? (component : List Char) : Option (List Char) :=
  match component.dropWhile (· ≠ ':') with
  | [] => none
  | _ :: tag => some tag

/-- An image without a digest whose tag is missing or `latest` changes under its users. -/
def isFloating (image : String) : Bool :=
  if image.toList.contains '@' then false
  else match tag? (lastComponent image.toList) with
    | some tag => tag = "latest".toList
    | none => true

end ComplianceScanner.Image
