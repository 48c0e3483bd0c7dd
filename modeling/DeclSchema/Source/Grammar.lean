import DeclSchema.Source.Grammar.Statements

/-!
The reader of whole sources. `read` ties the rules together: each step down to a goal uses one
unit of fuel, and a source of n characters needs no more than a fixed multiple of n. A source is
always read into a tree; what fits no rule stands in it as unreadable.
-/

namespace DeclSchema.Source.Grammar

open Rule

def read : Nat → Reader
  | 0 => fun _ => fail
  | fuel + 1 => fun
    | .statement => statementRule (read fuel)
    | .expression => expressionRule (read fuel)
    | .assignment => assignmentRule (read fuel)
    | .callee => calleeRule (read fuel)
    | .type lineEnds => typeRule (read fuel) lineEnds
    | .pattern => patternRule (read fuel)
    | .element => elementRule (read fuel)

mutual
-- Whether an alias, an enumeration or a call with a template stands in the node.
def declares : Node → Bool
  | ⟨kind, _, _, _, _, children⟩ =>
    kind = .typeAlias || kind = .enumeration ||
      (kind = .call && children.any fun n => n.kind = .template && n.role = some .arguments) ||
      anyDeclares children
def anyDeclares : List Node → Bool
  | [] => false
  | n :: rest => declares n || anyDeclares rest
end

-- Unreadable text ends where the next statement that declares something begins, behind a line
-- break, a semicolon or a closing brace; without one it runs to the end of the source.
def resumption (statement : Rule Node) : Nat → Bool → Cursor → Option Cursor
  | 0, _, _ => none
  | fuel + 1, divided, c =>
    let g := c.gap
    let rest := g.after.rest
    if rest.isEmpty then none
    else
      let readable := (divided || g.lineBreak) &&
        (match statement g.after with
          | some (n, _) => declares n
          | none => false)
      if readable then some c
      else
        resumption statement fuel (rest.head? = some ';' || rest.head? = some '}')
          (g.after.skip (roughLexeme rest))

def unreadable (statement : Rule Node) : Rule Node := fun c =>
  let first := c.skip (roughLexeme c.rest)
  let stop := (resumption statement (c.rest.length + 1)
    (c.rest.head? = some ';' || c.rest.head? = some '}') first).getD (c.skip c.rest.length)
  some (Node.leaf .unreadable c.place (c.textTo stop), stop)

def program (statement : Rule Node) : Nat → Rule (List Node)
  | 0 => pure []
  | fuel + 1 => fun c =>
    if c.gap.after.rest.isEmpty then gap c
    else
      match item (statement <|> unreadable statement) c with
      | none => some ([], c)
      | some (found, next) =>
        (program statement fuel next).map fun more => (found ++ more.1, more.2)

-- A first line that names an interpreter is no part of the program.
def shebang (text : List Char) : Nat :=
  match text with
  | '#' :: '!' :: rest => 2 + Lexeme.runOf (· != '\n') rest
  | _ => 0

def enoughFuel (text : List Char) : Nat := 8 * (text.length + 2)

def parse (text : List Char) : Node :=
  let statement := read (enoughFuel text) .statement
  let start := (Cursor.start text).skip (shebang text)
  match program statement (text.length + 1) start with
  | none => ⟨.program, none, .origin, text, false, []⟩
  | some (children, _) => ⟨.program, none, .origin, text, false, children⟩

end DeclSchema.Source.Grammar
