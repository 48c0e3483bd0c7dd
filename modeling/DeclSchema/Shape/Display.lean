import DeclSchema.Shape
import DeclSchema.Number.Shortest
import DeclSchema.Text.Quoted

/-!
The text of a shape in messages: the name of its kind and its parts with their names.
-/

namespace DeclSchema

def listed (items : List String) : String := "[" ++ String.intercalate ", " items ++ "]"

def optionText (text : Option String) : String :=
  match text with
  | some text => Text.quoted text
  | none => "None"

def flagText (flag : Bool) : String := if flag then "True" else "False"

def Literal.display : Literal → String
  | text value => Text.quoted value
  | integer value => toString value
  | float value => value.display
  | boolean value => flagText value

mutual
def Shape.display : Shape → String
  | .keyword word => "KeywordShape(keyword=" ++ Text.quoted word ++ ")"
  | .literal value => "LiteralShape(value=" ++ value.display ++ ")"
  | .reference name arguments =>
    "TypeReference(name=" ++ Text.quoted name ++ ", type_arguments=" ++
      listed (displayShapes arguments) ++ ")"
  | .indexed object index =>
    "IndexedAccess(object_type=" ++ object.display ++ ", index_type=" ++ index.display ++ ")"
  | .object members => "ObjectShape(members=" ++ listed (displayMembers members) ++ ")"
  | .intersection parts => "IntersectionShape(parts=" ++ listed (displayShapes parts) ++ ")"
  | .union types => "UnionShape(types=" ++ listed (displayShapes types) ++ ")"
  | .array element => "ArrayShape(element=" ++ element.display ++ ")"
  | .verbatim text => "OpaqueShape(text=" ++ Text.quoted text ++ ")"
  | .absent => "None"
def Member.display : Member → String
  | .typed name shape isOptional =>
    "Member(name=" ++ optionText name ++ ", value_shape=" ++ shape.display ++ ", optional=" ++
      flagText isOptional ++ ")"
  | .bare name isOptional =>
    "Member(name=" ++ optionText name ++ ", value_shape=None, optional=" ++
      flagText isOptional ++ ")"
def displayShapes : List Shape → List String
  | [] => []
  | shape :: rest => shape.display :: displayShapes rest
def displayMembers : List Member → List String
  | [] => []
  | member :: rest => member.display :: displayMembers rest
end

end DeclSchema
