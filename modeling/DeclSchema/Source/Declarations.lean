import DeclSchema.Declaration
import DeclSchema.Log
import DeclSchema.Source.Grammar
import DeclSchema.Source.ShapeReading
import DeclSchema.Source.Template
import DeclSchema.Text.Quoted

/-!
The declarations of a source, in document order. The whole tree is walked; an alias or an
enumeration is read and not entered, an embedded text is read and entered, unreadable text is
passed over. A source with faults in which nothing at all could be read is rejected at its first
fault.
-/

namespace DeclSchema.Source

inductive Rejection where
  -- Nothing could be read; the text of the first fault with its line and byte column.
  | unreadable (text : List Char) (line column : Nat)
  | fault (fault : Fault)
deriving DecidableEq

def warn {ε : Type} (message : String) : Traced ε Unit :=
  Traced.write .warning .sourceReader message

def Node.line (n : Node) : Nat := n.place.line + 1
def Node.column (n : Node) : Nat := n.place.column + 1

def nameText (name : Option Node) : String :=
  match name with
  | some n => n.textString
  | none => "<anonymous>"

def parameterNames (n : Option Node) : List String :=
  match n with
  | none => []
  | some n => (n.content.filterMap (·.child? .name)).map (·.textString)

def readAlias (n : Node) : Traced Fault (Option Declaration) :=
  let name := nameText (n.child? .name)
  let skipped : Traced Fault (Option Declaration) := do
    warn s!"Skipping type alias {name} at line {n.line}: syntax error"
    return none
  match n.child? .value with
  | none => skipped
  | some value =>
    if n.hasFault then skipped
    else do
      let shape ← Traced.ofExcept (readShape value)
      return some (.typeAlias name shape (parameterNames (n.child? .typeParameters)))

def memberName (n : Node) : Except Fault String :=
  if n.kind = .enumAssignment then (nameOf n.children).map (·.unquoted) else .ok n.unquoted

def readEnumeration (n : Node) : Traced Fault (Option Declaration) :=
  let name := nameText (n.child? .name)
  let skipped : Traced Fault (Option Declaration) := do
    warn s!"Skipping enum {name} at line {n.line}: syntax error"
    return none
  match n.child? .name, n.child? .body with
  | some _, some body =>
    if n.hasFault then skipped
    else do
      let members ← Traced.ofExcept (body.content.mapM memberName)
      return some (.enumeration name members)
  | _, _ => skipped

-- The tag of a call: a plain identifier that is one of the schema tags.
def tagOf (n : Node) : Option Tag := do
  let function ← n.child? .function
  if function.kind = .identifier then Tag.ofName? function.textString else none

def readEmbedded (n : Node) : Traced Fault (Option Declaration) :=
  match tagOf n, n.child? .arguments with
  | some tag, some template =>
    if template.kind != .template then return none
    else if template.hasFault then do
      warn s!"Skipping {tag.name} template at line {n.line}: syntax error"
      return none
    else do
      let text ← Traced.ofExcept template.cooked
      return some (.embedded tag text)
  | _, _ => return none

def readDeclaration (n : Node) : Traced Fault (Option Declaration) :=
  match n.kind with
  | .typeAlias => readAlias n
  | .enumeration => readEnumeration n
  | .call => readEmbedded n
  | _ => return none

def Node.isClosed (n : Node) : Bool := n.kind = .typeAlias || n.kind = .enumeration

-- The nodes still to be visited, the next one first.
def walk : List Node → Traced Fault (List Declaration)
  | [] => return []
  | n :: rest =>
    if n.kind = .unreadable then do
      warn s!"Skipping unparsable source at line {n.line}, column {n.column}"
      walk rest
    else do
      let found ← readDeclaration n
      let more ← walk (if n.isClosed then rest else n.children ++ rest)
      return found.toList ++ more
termination_by stack => Node.sizes stack
decreasing_by
  · simp only [Node.sizes, Node.size_eq]; omega
  · split
    · simp only [Node.sizes, Node.size_eq]; omega
    · simp only [Node.sizes, Node.sizes_append, Node.size_eq]; omega

def Node.faultyChildren (n : Node) : List Node := n.children.filter Node.hasFault

theorem Node.sizes_filter_le (p : Node → Bool) (nodes : List Node) :
    Node.sizes (nodes.filter p) ≤ Node.sizes nodes := by
  induction nodes with
  | nil => simp [Node.sizes]
  | cons n rest ih => by_cases kept : p n <;> simp [kept, Node.sizes] <;> omega

-- The first fault among the nodes still to be searched; what holds no fault is not entered.
def firstFault : List Node → Option Node
  | [] => none
  | n :: rest => if n.isFault then some n else firstFault (n.faultyChildren ++ rest)
termination_by stack => Node.sizes stack
decreasing_by
  have fewer := Node.sizes_filter_le Node.hasFault n.children
  simp only [Node.faultyChildren, Node.sizes, Node.sizes_append, Node.size_eq]
  omega

def faultOf (root : Node) : Node := (firstFault [root]).getD root

-- The declarations of a tree.
def declarationsOf (root : Node) : Traced Rejection (List Declaration) := do
  let declarations ← ExceptT.adapt Rejection.fault (walk [root])
  if root.hasFault && declarations.isEmpty then
    let n := faultOf root
    throw (.unreadable n.text n.line n.column)
  else return declarations

def readSource (source : String) : Traced Rejection (List Declaration) :=
  declarationsOf (Grammar.parse source.toList)

-- The fault is shown by the first forty characters of its text.
def nearText (text : List Char) : String :=
  "Cannot parse source near " ++ String.ofList (Text.quotedList (text.take 40))

end DeclSchema.Source
