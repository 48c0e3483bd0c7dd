/-!
The syntax tree of a TypeScript source. A node knows its kind, the role it plays in its parent,
the place where it begins and the exact text it covers. Unreadable text is kept in the tree as a
node of kind `unreadable`, and a token that the grammar demands and the text lacks as a node
marked `missing`; both count as faults.
-/

namespace DeclSchema.Source

-- Bytes from the start of the source, then line and byte column, all counted from zero.
structure Place where
  offset : Nat
  line : Nat
  column : Nat
deriving DecidableEq, Inhabited

def Place.origin : Place := ⟨0, 0, 0⟩

-- Only a line feed starts a new line; a carriage return is an ordinary byte of its line.
def Place.after (p : Place) (c : Char) : Place :=
  if c = '\n' then ⟨p.offset + 1, p.line + 1, 0⟩
  else ⟨p.offset + c.utf8Size, p.line, p.column + c.utf8Size⟩

def Place.afterAll (p : Place) (text : List Char) : Place := text.foldl Place.after p

-- Kinds that the reader of declarations tells apart; the rest of the language is covered by the
-- coarse kinds of the last group, whose nodes are only walked through.
inductive Kind where
  | program | unreadable | comment | mark
  | typeAlias | enumeration | enumBody | enumAssignment
  | call | template | fragment | escape | substitution
  | identifier | privateName | computedName | string | number | signedNumber
  | nullWord | undefinedWord | trueWord | falseWord
  | predefinedType | typeName | nestedTypeName | genericType | typeArguments
  | typeParameters | typeParameter | literalType | objectType | unionType | intersectionType
  | arrayType | lookupType | parenthesizedType | readonlyType
  | functionType | constructorType | tupleType | conditionalType | keyofType | typeQuery
  | inferType | templateType | thisType | maybeType | anyType | importType | predicate
  | propertySignature | methodSignature | indexSignature | callSignature | constructSignature
  | mappedClause | typing | optingTyping | omittingTyping | addingTyping
  | statement | block | expression | pattern | parameters | element | arguments | regex
deriving DecidableEq, Inhabited

inductive Role where
  | name | value | typeParameters | body | function | arguments | typeArguments | typing
deriving DecidableEq

structure Node where
  kind : Kind
  role : Option Role
  place : Place
  text : List Char
  missing : Bool
  children : List Node
deriving Inhabited

namespace Node

def leaf (kind : Kind) (place : Place) (text : List Char) : Node :=
  ⟨kind, none, place, text, false, []⟩

def playing (role : Role) (n : Node) : Node := { n with role := some role }

def isFault (n : Node) : Bool := n.kind = .unreadable || n.missing

-- Marks (punctuation and key words) carry no content of their own, and comments none at all.
def isContent (n : Node) : Bool := n.kind != .mark && n.kind != .comment

def content (n : Node) : List Node := n.children.filter isContent

def child? (n : Node) (role : Role) : Option Node := n.children.find? (·.role = some role)

mutual
-- Whether the node or anything below it is a fault.
def hasFault : Node → Bool
  | ⟨kind, _, _, _, missing, children⟩ => kind = .unreadable || missing || anyFault children
def anyFault : List Node → Bool
  | [] => false
  | n :: rest => hasFault n || anyFault rest
end

mutual
def size : Node → Nat
  | ⟨_, _, _, _, _, children⟩ => 1 + sizes children
def sizes : List Node → Nat
  | [] => 0
  | n :: rest => size n + sizes rest
end

theorem sizes_append (a b : List Node) : sizes (a ++ b) = sizes a + sizes b := by
  induction a with
  | nil => simp [sizes]
  | cons n rest ih => simp [sizes, ih, Nat.add_assoc]

theorem size_eq (n : Node) : n.size = 1 + sizes n.children := by
  cases n with
  | mk => simp [size]

end Node

end DeclSchema.Source
