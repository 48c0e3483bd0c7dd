import DeclSchema.ArgsName
import DeclSchema.Association

/-!
The argument lists of a source, by the names of their declarations and in the order in which the
names first came.
-/

namespace DeclSchema

structure ArgsTable where
  entries : List (String × String)
deriving DecidableEq

namespace ArgsTable

def empty : ArgsTable := ⟨[]⟩

def get? (table : ArgsTable) (name : String) : Option String := table.entries.lookup name

def names (table : ArgsTable) : List String := table.entries.map Prod.fst

-- Only names of argument declarations are taken; any other is given back.
def add (table : ArgsTable) (name arguments : String) : Except String ArgsTable :=
  if isArgsName name then .ok ⟨Association.put name arguments table.entries⟩ else .error name

def refusal (name : String) : String := "Not an arguments declaration name: " ++ name

end ArgsTable

end DeclSchema
