import ComplianceScanner.Unicode.Category
import ComplianceScanner.Unicode.Property

namespace ComplianceScanner.Text

/-- Characters that show as themselves: no control, format, separator or unassigned ones, and none
that merge with the character before. -/
def isPrintable (c : Char) : Bool :=
  c = ' ' || (!(["Cc", "Cf", "Cs", "Co", "Cn", "Zl", "Zp", "Zs"].contains (Unicode.category c)) &&
    !Unicode.isGraphemeExtend c)

def hexDigits (n : Nat) : List Char := Nat.toDigits 16 n

def quoteChar (c : Char) : List Char :=
  match c with
  | '"' => ['\\', '"']
  | '\\' => ['\\', '\\']
  | '\n' => ['\\', 'n']
  | '\r' => ['\\', 'r']
  | '\t' => ['\\', 't']
  | '\x00' => ['\\', '0']
  | c =>
    if isPrintable c then [c]
    else ['\\', 'u', '\x7b'] ++ hexDigits c.toNat ++ ['\x7d']

/-- The text in double quotes, on one line and in printable characters. -/
def quoted (text : String) : String :=
  String.ofList ('"' :: text.toList.flatMap quoteChar ++ ['"'])

end ComplianceScanner.Text
