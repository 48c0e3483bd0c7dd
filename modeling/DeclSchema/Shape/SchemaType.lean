import DeclSchema.Log
import DeclSchema.Shape.Display

/-!
The schema type of a shape. `Maybe` is looked through, `Array` makes a list, and `Scalars` names a
scalar by its key; what has no counterpart becomes `Unknown` and is reported. Whether a value may
be absent is not decided here but by the member that holds it.
-/

namespace DeclSchema

def unmapped (shape : Shape) : Logged String := do
  Logged.write .warning .typeMapper
    ("Cannot map type " ++ shape.display ++ " to a GraphQL type; using Unknown")
  return "Unknown"

def keywordType? (word : String) : Option String :=
  match word with
  | "string" => some "String"
  | "number" => some "Int"
  | "boolean" => some "Boolean"
  | "any" => some "String"
  | _ => none

namespace Shape

-- Of a chain of keys only the first one counts.
def indexedType (base key : Shape) : Logged String :=
  match base with
  | .indexed innerBase innerKey => indexedType innerBase innerKey
  | .reference name _ =>
    if name = "Scalars" then
      match key.literalText? with
      | some scalar => return scalar
      | none => unmapped (.indexed base key)
    else return name
  | _ => unmapped (.indexed base key)

def schemaType (shape : Shape) : Logged String :=
  match shape with
  | .object _ => return "String"
  | .keyword word =>
    match keywordType? word with
    | some type => return type
    | none => unmapped shape
  | .reference name arguments =>
    if name = "Scalars" then
      match arguments.head?.bind literalText? with
      | some scalar => return scalar
      | none => unmapped shape
    else if name = "Maybe" then
      match arguments with
      | inner :: _ => schemaType inner
      | [] => unmapped shape
    else if name = "Array" then
      match arguments with
      | inner :: _ => do return "[" ++ (← schemaType inner) ++ "]"
      | [] => unmapped shape
    else return name
  | .indexed base key => indexedType base key
  | _ => unmapped shape

end Shape

end DeclSchema
