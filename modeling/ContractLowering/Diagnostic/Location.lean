/-! # Locations

A diagnostic refers to a node by its kind and, where it could be read, its name.
-/

namespace ContractLowering

structure Location where
  kind : String
  name : Option String
  deriving DecidableEq

/-- A name as diagnostics quote it. -/
def quoted (name : String) : String :=
  "`" ++ name ++ "`"

namespace Location

def text (location : Location) : String :=
  match location.name with
  | some name => location.kind ++ " " ++ quoted name
  | none => location.kind

def contract (name : Option String) : Location := ⟨"Contract", name⟩

def element : Location := ⟨"body element", none⟩

def variableStatement : Location := ⟨"VariableStatement", none⟩

def declarator (name : Option String) : Location := ⟨"VariableDeclarator", name⟩

def functionDeclaration (name : Option String) : Location := ⟨"FunctionDeclaration", name⟩

end Location

end ContractLowering
