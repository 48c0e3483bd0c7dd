import DeclSchema.Number.Double

/-!
Type shapes: what the right-hand side of a type alias can look like to the converter.
-/

namespace DeclSchema

inductive Literal where
  | text (value : String)
  | integer (value : Int)
  | float (value : Number.Double)
  | boolean (value : Bool)
deriving DecidableEq

mutual
inductive Shape where
  | keyword (word : String)
  | literal (value : Literal)
  | reference (name : String) (arguments : List Shape)
  | indexed (object index : Shape)
  | object (members : List Member)
  | intersection (parts : List Shape)
  | union (types : List Shape)
  | array (element : Shape)
  -- A type that is recognised and not modelled, kept as its exact text.
  | verbatim (text : String)
  -- A place for a type in which none stands. The reader of sources never leaves one empty.
  | absent
-- Index signatures, calls and methods are members as well, without a name or without a type, so
-- that the order of members is kept.
inductive Member where
  | typed (name : Option String) (shape : Shape) (optional : Bool)
  | bare (name : Option String) (optional : Bool)
end

instance : Inhabited Shape := ⟨.absent⟩
instance : Inhabited Member := ⟨.bare none false⟩

namespace Member

def name : Member → Option String
  | typed name _ _ => name
  | bare name _ => name

def shape? : Member → Option Shape
  | typed _ shape _ => some shape
  | bare _ _ => none

def isOptional : Member → Bool
  | typed _ _ optional => optional
  | bare _ optional => optional

def of (name : Option String) (shape : Option Shape) (optional : Bool) : Member :=
  match shape with
  | some shape => .typed name shape optional
  | none => .bare name optional

end Member

namespace Shape

-- The name of a reference.
def referenceName? : Shape → Option String
  | .reference name _ => some name
  | _ => none

-- The text of a string literal.
def literalText? : Shape → Option String
  | .literal (.text value) => some value
  | _ => none

end Shape

end DeclSchema
