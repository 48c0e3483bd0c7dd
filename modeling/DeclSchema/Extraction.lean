import DeclSchema.ArgsTable
import DeclSchema.Failure
import DeclSchema.Fragment

/-!
The schema text of a list of declarations, and its table of argument lists.
-/

namespace DeclSchema

structure Extraction where
  schemaText : Points
  argsTable : ArgsTable
  fragmentCount : Nat
deriving DecidableEq

def Declaration.title : Declaration → String
  | .typeAlias name _ _ => name
  | .enumeration name _ => name
  | .embedded .. => "embedded literal"

structure Collected where
  fragments : List Points
  table : ArgsTable

-- An argument list is kept under the name of its declaration; only argument declarations have one.
def Lowered.record (lowered : Lowered) (table : ArgsTable) : ArgsTable :=
  match lowered.argsName with
  | some name =>
    if name.isEmpty || lowered.argsFragment.isEmpty then table
    else
      match table.add name lowered.argsFragment with
      | .ok table => table
      | .error _ => table
  | none => table

def collect (collected : Collected) (declaration : Declaration) : Logged Collected := do
  let lowered ← declaration.lower
  let table := lowered.record collected.table
  if lowered.fragment.isEmpty then return { collected with table }
  else
    Logged.write .debug .extractor ("Lowered " ++ declaration.title)
    return ⟨collected.fragments ++ [lowered.fragment], table⟩

def extract (declarations : List Declaration) : Traced Failure Extraction := do
  let collected ← Traced.ofLogged (declarations.foldlM collect ⟨[], .empty⟩)
  let text := collected.fragments.flatten
  if Points.allBlank text then throw .noDefinitions
  else return ⟨text, collected.table, collected.fragments.length⟩

end DeclSchema
