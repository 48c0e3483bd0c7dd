import DeclSchema.Source.Rule

/-!
The goals of the grammar: the phrases that can hold one another. Every rule of the grammar gets
the reader of goals as an argument, so the rules are plain definitions and the recursion of the
language is tied in one place.
-/

namespace DeclSchema.Source.Grammar

open Rule

-- A type in a position where a line break may end it stops before a bracket or a word on the
-- next line; inside of brackets it does not.
inductive Goal where
  | statement
  | expression
  | assignment
  | callee
  | type (lineEnds : Bool)
  | pattern
  | element

abbrev Reader := Goal → Rule Node

-- Words that never stand for a value or a binding.
def reserved : List String :=
  ["break", "case", "catch", "class", "const", "continue", "debugger", "default", "delete", "do",
    "else", "enum", "export", "extends", "finally", "for", "function", "if", "import", "in",
    "instanceof", "new", "return", "super", "switch", "this", "throw", "try", "typeof", "var",
    "void", "while", "with", "null", "true", "false"]

def isReserved (found : List Char) : Bool := reserved.any (·.toList == found)

def identifier : Rule (List Node) := lexeme .identifier (nameSize fun found => !isReserved found)

-- A property name: any word, a private name, a string, a number or a computed name.
def propertyName (read : Reader) : Rule Node :=
  fun c =>
    match c.rest with
    | '[' :: _ => node .computedName (seq [mark "[", item (read .expression), mark "]"]) c
    | '#' :: rest =>
      match Lexeme.name rest with
      | 0 => none
      | n + 1 => some (Node.leaf .privateName c.place (c.rest.take (n + 2)), c.skip (n + 2))
    | _ =>
      let found (kind : Kind) (size : Nat) :=
        some (Node.leaf kind c.place (c.rest.take size), c.skip size)
      match Lexeme.name c.rest, Lexeme.string c.rest, Lexeme.number c.rest with
      | n + 1, _, _ => found .identifier (n + 1)
      | 0, n + 1, _ => found .string (n + 1)
      | 0, 0, n + 1 => found .number (n + 1)
      | 0, 0, 0 => none

-- Whether a property name can begin here.
def startsName (c : Cursor) : Bool :=
  match c.rest with
  | '[' :: _ => true
  | '#' :: _ => true
  | '*' :: _ => true
  | _ => Lexeme.name c.rest > 0 || Lexeme.string c.rest > 0 || Lexeme.number c.rest > 0

-- A modifier is a word in front of the name that it qualifies, on the same line.
def modifier (words : List String) : Rule (List Node) := do
  let found ← wordOf words
  guard fun c => sameLine c && startsName c.gap.after
  return found

-- A statement or member ends at a semicolon, before a closing brace, at the end of the text, or
-- at a line break that the next line does not continue over. After a type a bracket or a
-- parenthesis on the next line continues nothing.
def continuesOver (afterType : Bool) (rest : List Char) : Bool :=
  match rest with
  | [] => false
  | '+' :: next => next.head? != some '+'
  | '-' :: next => next.head? != some '-'
  | '!' :: next => next.head? = some '='
  | c :: _ =>
    let found := rest.take (Lexeme.name rest)
    "`,.;*%><=?^|&/:".toList.contains c || (!afterType && (c = '(' || c = '[')) ||
      found == "in".toList || found == "instanceof".toList

def endsHere (afterType : Bool) (c : Cursor) : Bool :=
  let g := c.gap
  match g.after.rest with
  | [] => true
  | '}' :: _ => true
  | rest => g.lineBreak && !continuesOver afterType rest

def terminator (afterType : Bool) : Rule (List Node) :=
  mark ";" <|> (do guard (endsHere afterType); return [])

/-! ### Templates -/

def fragmentPiece : List Char → Nat
  | '$' :: '{' :: _ => 0
  | c :: _ => if c = '`' || c = '\\' || c.toNat = 0 then 0 else 1
  | [] => 0

-- The inside of a template and its closing mark. A backslash that begins no escape sequence is
-- kept as unreadable.
def templateBody (hole : Rule Node) : Nat → Rule (List Node)
  | 0 => fail
  | fuel + 1 => fun c =>
    let cut (kind : Kind) (size : Nat) : Option (List Node × Cursor) :=
      (templateBody hole fuel (c.skip size)).map fun more =>
        (Node.leaf kind c.place (c.rest.take size) :: more.1, more.2)
    match c.rest with
    | [] => none
    | '`' :: _ => some ([Node.leaf .mark c.place ['`']], c.skip 1)
    | '\\' :: _ =>
      match Lexeme.escape c.rest with
      | 0 => cut .unreadable 1
      | n + 1 => cut .escape (n + 1)
    | '$' :: '{' :: _ =>
      match hole c with
      | none => none
      | some (n, next) => (templateBody hole fuel next).map fun more => (n :: more.1, more.2)
    | _ =>
      match Lexeme.run fragmentPiece 0 c.rest with
      | 0 => none
      | n + 1 => cut .fragment (n + 1)

def templateOf (kind : Kind) (hole : Rule Node) : Rule Node :=
  node kind do
    let opening ← mark "`"
    let inside ← fun c => templateBody hole (c.rest.length + 1) c
    return opening ++ inside

def template (read : Reader) : Rule Node :=
  templateOf .template (node .substitution (seq [mark "$\x7b", item (read .expression), mark "\x7d"]))

end DeclSchema.Source.Grammar
