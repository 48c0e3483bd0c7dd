import DeclSchema.Assembly.ArgsIndex
import DeclSchema.Schema.InputForm

/-!
Fields of an operation type and the argument declarations that belong to them.
-/

namespace DeclSchema.Assembly

open Schema

-- A field together with the declaration of its arguments.
structure Bound where
  field : Field
  declaration : ObjectType

namespace Bound

def arguments (bound : Bound) : List InputValue := bound.declaration.fields.map Field.toInput

-- The arguments that the field had before are given up.
def result (bound : Bound) : Field := { bound.field with arguments := bound.arguments }

def argumentTypes (bound : Bound) : List String := bound.arguments.map (·.type.baseName)

def label (operation : String) (bound : Bound) : String := operation ++ "." ++ bound.field.name

end Bound

def bound? (operation : String) (index : ArgsIndex) (field : Field) : Option Bound :=
  (index.lookup (operationArgsKey operation field.name)).map (⟨field, ·⟩)

def boundFields (operation : String) (index : ArgsIndex) (fields : List Field) : List Bound :=
  fields.filterMap (bound? operation index)

-- Fields without a declaration stay as they are.
def bindField (operation : String) (index : ArgsIndex) (field : Field) : Field :=
  match bound? operation index field with
  | some bound => bound.result
  | none => field

end DeclSchema.Assembly
