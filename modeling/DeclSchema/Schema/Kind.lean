import DeclSchema.Schema.Document

/-!
What a definition is called by its kind, and the name of the type under its marks.
-/

namespace DeclSchema.Schema

def Extension.kind : Extension → String
  | schema .. => "schema_extension"
  | scalar .. => "scalar_type_extension"
  | object .. => "object_type_extension"
  | interface .. => "interface_type_extension"
  | union .. => "union_type_extension"
  | enumeration .. => "enum_type_extension"
  | input .. => "input_object_type_extension"
  | directive .. => "directive_extension"

def Definition.kind : Definition → String
  | operation .. => "operation_definition"
  | fragment .. => "fragment_definition"
  | schema .. => "schema_definition"
  | scalar .. => "scalar_type_definition"
  | object _ => "object_type_definition"
  | interface _ => "interface_type_definition"
  | union .. => "union_type_definition"
  | enumeration .. => "enum_type_definition"
  | input _ => "input_object_type_definition"
  | directive .. => "directive_definition"
  | extension e => e.kind

-- The words of a kind run together, each with a capital letter.
def titled (start : Bool) : List Char → List Char
  | [] => []
  | '_' :: rest => titled true rest
  | c :: rest => (if start then c.toUpper else c) :: titled false rest

-- A piece of a document that may be asked for the name of its type.
inductive Piece where
  | type (type : TypeRef)
  | definition (definition : Definition)

-- A definition is no type, and the answer says which kind of definition it is.
def Piece.typeName : Piece → Except String String
  | .type t => .ok t.baseName
  | .definition d => .error d.kind

def noTypeMessage (kind : String) : String :=
  "Expected a NamedTypeNode, got " ++ String.ofList (titled true kind.toList) ++ "Node"

end DeclSchema.Schema
