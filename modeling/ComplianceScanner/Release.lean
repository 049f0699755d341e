namespace ComplianceScanner.Release

def program : String := "validation-operator"

def version : String := "0.1.0"

end ComplianceScanner.Release
