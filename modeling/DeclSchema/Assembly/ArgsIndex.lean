import DeclSchema.ArgsName
import DeclSchema.Log
import DeclSchema.Schema.Document

/-!
The argument declarations of a document by their keys. Of two declarations with one key the
earlier one counts, and the later one is reported.
-/

namespace DeclSchema.Assembly

open Schema

abbrev ArgsIndex := List (String × ObjectType)

def argsType? : Definition → Option ObjectType
  | .object type => if isArgsName type.name then some type else none
  | _ => none

def ArgsIndex.add (index : ArgsIndex) (type : ObjectType) : Logged ArgsIndex :=
  match index.lookup (argsKey type.name) with
  | some earlier => do
    Logged.write .warning .assembler
      ("Ignoring " ++ type.name ++ ": the same arguments are already defined by " ++ earlier.name)
    return index
  | none => return index ++ [(argsKey type.name, type)]

def ArgsIndex.of (definitions : List Definition) : Logged ArgsIndex :=
  (definitions.filterMap argsType?).foldlM ArgsIndex.add []

end DeclSchema.Assembly
