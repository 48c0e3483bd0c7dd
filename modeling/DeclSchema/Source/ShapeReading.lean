import DeclSchema.Number.Numeral
import DeclSchema.Shape
import DeclSchema.Source.Fault
import DeclSchema.Source.Node

/-!
From the nodes of types to shapes. Comments play no part, parentheses and `readonly` leave a type
as it is, and the nodes of a chain of unions or intersections are one list of operands.
-/

namespace DeclSchema.Source

namespace Node

def textString (n : Node) : String := String.ofList n.text

-- A string without its quotes, any other node as written. Escapes stay as they are.
def unquoted (n : Node) : String :=
  if n.kind = .string && n.text.length ≥ 2 then String.ofList (n.text.drop 1).dropLast
  else n.textString

end Node

def readNumeral (text : List Char) : Except Fault Literal :=
  match Number.Numeral.read? text with
  | some (.integer n) => .ok (.integer n)
  | some (.float x) => .ok (.float x)
  | none => .error (.notNumeral text)

-- A literal type is read off its first content.
def readLiteral (text : List Char) (children : List Node) : Except Fault Shape :=
  match children.find? Node.isContent with
  | none => .ok (.verbatim (String.ofList text))
  | some value =>
    match value.kind with
    | .nullWord => .ok (.keyword "null")
    | .undefinedWord => .ok (.keyword "undefined")
    | .trueWord => .ok (.literal (.boolean true))
    | .falseWord => .ok (.literal (.boolean false))
    | .string => .ok (.literal (.text value.unquoted))
    | .number => (readNumeral value.text).map .literal
    | .signedNumber => (readNumeral value.text).map .literal
    | _ => .ok (.verbatim (String.ofList text))

def nameOf (children : List Node) : Except Fault Node :=
  match children.find? (·.role = some .name) with
  | some n => .ok n
  | none => .error .malformed

def marksOptional (children : List Node) : Bool :=
  children.any fun n => n.kind = .mark && n.text = ['?']

-- Index signatures are optional members when their type follows a question mark that no minus
-- sign takes away.
def typingOptional? : Kind → Option Bool
  | .typing => some false
  | .omittingTyping => some false
  | .optingTyping => some true
  | .addingTyping => some true
  | _ => none

mutual

def readShape : Node → Except Fault Shape
  | ⟨kind, _, _, text, _, children⟩ =>
    match kind with
    | .predefinedType => .ok (.keyword (String.ofList text))
    | .typeName => .ok (.reference (String.ofList text) [])
    | .nestedTypeName => .ok (.reference (String.ofList text) [])
    | .genericType => do
      let name ← nameOf children
      let arguments ← readArguments children
      return .reference name.textString arguments
    | .literalType => readLiteral text children
    | .objectType => (readMembers children).map .object
    | .unionType => do
      match ← readOperands .unionType children with
      | [single] => return single
      | operands => return .union operands
    | .intersectionType => do
      match ← readOperands .intersectionType children with
      | [single] => return single
      | operands => return .intersection operands
    | .arrayType => (readFirst children).map .array
    | .lookupType => do
      match ← readShapes children with
      | [object, index] => return .indexed object index
      | _ => throw .malformed
    | .parenthesizedType => readFirst children
    | .readonlyType => readFirst children
    | _ => .ok (.verbatim (String.ofList text))
termination_by structural n => n

-- The shapes of all content.
def readShapes : List Node → Except Fault (List Shape)
  | [] => .ok []
  | n :: rest =>
    if n.isContent then do
      let shape ← readShape n
      let more ← readShapes rest
      return shape :: more
    else readShapes rest

-- The shape of the first content.
def readFirst : List Node → Except Fault Shape
  | [] => .error .malformed
  | n :: rest => if n.isContent then readShape n else readFirst rest

-- The shapes inside of the child that holds the type arguments.
def readArguments : List Node → Except Fault (List Shape)
  | [] => .ok []
  | n :: rest =>
    match n with
    | ⟨_, some .typeArguments, _, _, _, inner⟩ => readShapes inner
    | _ => readArguments rest

-- Operands of a chain; a child of the chain's own kind is part of the chain.
def readOperands (chain : Kind) : List Node → Except Fault (List Shape)
  | [] => .ok []
  | n :: rest =>
    if n.isContent then do
      let here ←
        if n.kind = chain then
          match n with
          | ⟨_, _, _, _, _, inner⟩ => readOperands chain inner
        else (readShape n).map ([·])
      let more ← readOperands chain rest
      return here ++ more
    else readOperands chain rest
termination_by structural nodes => nodes

def readMembers : List Node → Except Fault (List Member)
  | [] => .ok []
  | n :: rest =>
    if n.isContent then do
      let member ← readMember n
      let more ← readMembers rest
      return member :: more
    else readMembers rest

def readMember : Node → Except Fault Member
  | ⟨kind, _, _, _, _, children⟩ =>
    match kind with
    | .propertySignature => do
      let name ← nameOf children
      let typing ← readTyping children
      return Member.of (some name.unquoted) (typing.map (·.2)) (marksOptional children)
    | .methodSignature => do
      let name ← nameOf children
      return .bare (some name.unquoted) (marksOptional children)
    | .indexSignature => do
      match ← readTyping children with
      | some (kind, shape) =>
        match typingOptional? kind with
        | some isOptional => return .typed none shape isOptional
        | none => return .bare none false
      | none => return .bare none false
    | _ => .ok (.bare none false)

-- The kind of the child that holds the type of a member, and that type.
def readTyping : List Node → Except Fault (Option (Kind × Shape))
  | [] => .ok none
  | n :: rest =>
    match n with
    | ⟨kind, some .typing, _, _, _, inner⟩ => (readFirst inner).map fun shape => some (kind, shape)
    | _ => readTyping rest

end

end DeclSchema.Source
