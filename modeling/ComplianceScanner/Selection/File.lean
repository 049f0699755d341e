import ComplianceScanner.Error.Basic
import ComplianceScanner.Selection.Document

namespace ComplianceScanner

/-- What is found where a check selection should be: bytes, or a reason why nothing can be read. -/
inductive SelectionFile where
  | bytes (content : ByteArray)
  | unreadable (reason : String)

namespace SelectionFile

def missing : SelectionFile := unreadable "No such file or directory (os error 2)"

def directory : SelectionFile := unreadable "Is a directory (os error 21)"

def ofText (text : String) : SelectionFile := bytes text.toUTF8

def text : SelectionFile → Except ScanError String
  | bytes content =>
    match String.fromUTF8? content with
    | some text => .ok text
    | none => .error (.io "stream did not contain valid UTF-8")
  | unreadable reason => .error (.io reason)

end SelectionFile

namespace Selection

def parse (text : String) : Except ScanError Selection :=
  match ofText? text with
  | some selection => .ok selection
  | none => .error .yaml

/-- The selection in a file; without a file it is the default one. -/
def load : Option SelectionFile → Except ScanError Selection
  | none => .ok {}
  | some file => file.text.bind parse

end Selection

end ComplianceScanner
