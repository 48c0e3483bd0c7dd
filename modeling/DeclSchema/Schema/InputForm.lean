import DeclSchema.Schema.Document

/-!
Object types as input types. Input fields take no arguments, and fields have no default values.
-/

namespace DeclSchema.Schema

def Field.toInput (field : Field) : InputValue :=
  ⟨field.description, field.name, field.type, none, field.directives⟩

-- An input type implements nothing.
def ObjectType.toInput (type : ObjectType) : InputType :=
  ⟨type.description, type.name, type.directives, type.fields.map Field.toInput⟩

-- The fields of an extension, as input values.
def Extension.inputValues : Extension → List InputValue
  | object _ _ _ fields => fields.map Field.toInput
  | interface _ _ _ fields => fields.map Field.toInput
  | input _ _ fields => fields
  | _ => []

-- The fields of a definition, as input values.
def Definition.inputValues : Definition → List InputValue
  | object type => type.toInput.fields
  | interface type => type.toInput.fields
  | input type => type.fields
  | extension e => e.inputValues
  | _ => []

def Definition.inputForm : Definition → Option InputType
  | object type => some type.toInput
  | _ => none

end DeclSchema.Schema
