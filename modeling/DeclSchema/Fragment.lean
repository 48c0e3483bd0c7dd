import DeclSchema.ArgsName
import DeclSchema.Declaration
import DeclSchema.Shape.SchemaType
import DeclSchema.Text.Blank
import DeclSchema.Text.UpperCase

/-!
The schema text of a declaration. An argument declaration has two texts: an object type like any
other, and its argument list.
-/

namespace DeclSchema

-- A member that may be absent is nullable. Without a name or a type a member has no line.
def Member.line (member : Member) : Logged String :=
  match member.name, member.shape? with
  | some name, some shape =>
    if name.isEmpty then return ""
    else do
      let type ← shape.schemaType
      return "  " ++ name ++ ": " ++ type ++ (if member.isOptional then "" else "!")
  | _, _ => return ""

-- The members of an object, or of the first object of an intersection.
def Shape.members : Shape → List Member
  | .object members => members
  | .intersection parts =>
    match parts.find? (fun part => part matches .object _) with
    | some (.object members) => members
    | _ => []
  | _ => []

-- The lines of those members that have one.
def memberLines (members : List Member) : Logged (List String) := do
  let lines ← members.mapM Member.line
  return lines.filter (!·.isEmpty)

def typeFragment (name : String) (shape : Shape) : Logged String := do
  let lines ← memberLines shape.members
  if lines.isEmpty then return ""
  else return "type " ++ name ++ " \x7b\n" ++ "\n".intercalate lines ++ "\n\x7d\n"

def trimmed (text : String) : String := String.ofList (Text.trim text.toList)

def argumentList (shape : Shape) : Logged String := do
  let lines ← memberLines shape.members
  if lines.isEmpty then return ""
  else return "(" ++ ", ".intercalate (lines.map trimmed) ++ ")"

def scalarFragment (shape : Shape) : String :=
  match shape with
  | .object members =>
    let names := (members.filterMap Member.name).filter (!·.isEmpty)
    String.join (names.map fun name => "scalar " ++ name ++ "\n")
  | _ => ""

def enumFragment (name : String) (members : List String) : String :=
  if members.isEmpty then ""
  else "enum " ++ name ++ " \x7b\n" ++ ", ".intercalate (members.map Text.toUpper) ++ "\n\x7d\n"

structure Lowered where
  fragment : Points
  argsName : Option String
  argsFragment : String
deriving DecidableEq

def Lowered.plain (fragment : Points) : Lowered := ⟨fragment, none, ""⟩

-- The alias `Scalars` lists the scalars of the schema.
def Declaration.lower (declaration : Declaration) : Logged Lowered :=
  match declaration with
  | .embedded _ text =>
    if text.allBlank then return .plain [] else return .plain (text ++ "\n")
  | .enumeration name members => return .plain (enumFragment name members)
  | .typeAlias name shape _ =>
    if name = "Scalars" then return .plain (scalarFragment shape)
    else do
      let fragment ← typeFragment name shape
      if isArgsName name then
        let arguments ← argumentList shape
        return ⟨fragment, some name, arguments⟩
      else return .plain fragment

end DeclSchema
