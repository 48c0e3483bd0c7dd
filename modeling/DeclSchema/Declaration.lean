import DeclSchema.Shape
import DeclSchema.Text.Points

/-!
The declarations of a source: type aliases, enumerations and embedded schema texts.
-/

namespace DeclSchema

-- The tags in front of a template that make its text a schema text.
inductive Tag where
  | gql
  | graphql
deriving DecidableEq

def Tag.name : Tag → String
  | .gql => "gql"
  | .graphql => "graphql"

def Tag.ofName? (name : String) : Option Tag :=
  if name = "gql" then some .gql
  else if name = "graphql" then some .graphql
  else none

inductive Declaration where
  | typeAlias (name : String) (shape : Shape) (parameters : List String)
  | enumeration (name : String) (members : List String)
  | embedded (tag : Tag) (text : Points)
deriving Inhabited

namespace Declaration

def isAlias : Declaration → Bool
  | typeAlias .. => true
  | _ => false

def isEnumeration : Declaration → Bool
  | enumeration .. => true
  | _ => false

def isEmbedded : Declaration → Bool
  | embedded .. => true
  | _ => false

end Declaration

end DeclSchema
