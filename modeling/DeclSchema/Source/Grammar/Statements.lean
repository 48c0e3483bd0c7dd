import DeclSchema.Source.Grammar.Expressions

/-!
The rules of statements. An alias or enumeration whose inside cannot be read is still an alias or
enumeration when its brackets match: its inside is kept as one unreadable node.
-/

namespace DeclSchema.Source.Grammar

open Rule

def atWord (text : String) (c : Cursor) : Bool := c.gap.after.nameHere == text.toList

/-! ### Unreadable stretches -/

-- A template up to the next mark that no backslash precedes.
def roughTemplate : List Char → Nat
  | '`' :: rest =>
    let body := Lexeme.run (fun
      | '\\' :: _ :: _ => 2
      | c :: _ => if c = '`' then 0 else 1
      | [] => 0) 0 rest
    if (rest.drop body).isEmpty then 0 else body + 2
  | _ => 0

-- The size of whatever stands here, at least one character.
def roughLexeme (rest : List Char) : Nat :=
  max (max (Lexeme.name rest) (Lexeme.number rest))
    (max (max (Lexeme.string rest) (roughTemplate rest)) (if rest.isEmpty then 0 else 1))

def opens (rest : List Char) : Bool :=
  match rest with
  | c :: _ => c = '(' || c = '[' || c = '{'
  | [] => false

def closes (rest : List Char) : Bool :=
  match rest with
  | c :: _ => c = ')' || c = ']' || c = '}'
  | [] => false

-- The end of a stretch whose brackets match: in front of a semicolon, of a closing bracket that
-- nothing in the stretch opened, of a name on a new line, or of the end of the text.
def stretchEnd : Nat → Nat → Cursor → Option Cursor
  | 0, _, _ => none
  | fuel + 1, depth, c =>
    let g := c.gap
    let rest := g.after.rest
    if rest.isEmpty then if depth = 0 then some c else none
    else if depth = 0 &&
        (rest.head? = some ';' || closes rest || (g.lineBreak && Lexeme.name rest > 0)) then
      some c
    else
      let next := g.after.skip (roughLexeme rest)
      if opens rest then stretchEnd fuel (depth + 1) next
      else if closes rest then stretchEnd fuel (depth - 1) next
      else stretchEnd fuel depth next

def stretch : Rule (List Node) := fun c =>
  match stretchEnd (c.rest.length + 1) 0 c with
  | none => none
  | some next =>
    let from_ := c.gap.after
    some ([Node.leaf .unreadable from_.place (from_.textTo next)], next)

/-! ### Declarations -/

def typeAlias (read : Reader) : Rule Node :=
  let head : Rule (List Node) := do
    let found ← word "type"
    guard sameLine
    return found ++ (← role .name (anyName .typeName))
  let strict := seq
    [head, optional (typeParameters read), mark "=", itemAs .value (read (.type true)),
      terminator true]
  let broken : Rule (List Node) := seq
    [head, do
      guard fun c => c.gap.after.startsWith "=" || c.gap.after.startsWith "<"
      stretch, optional (mark ";")]
  node .typeAlias (strict <|> broken)

def enumBody (read : Reader) : Rule Node :=
  let assigned := node .enumAssignment (seq
    [itemAs .name (propertyName read), initializer read])
  node .enumBody (seq
    [mark "\x7b", optional (listed (item assigned <|> item (propertyName read))), mark "\x7d"])

def brokenBody : Rule Node :=
  node .enumBody (seq [mark "\x7b", stretch, mark "\x7d"])

def enumeration (read : Reader) : Rule Node :=
  node .enumeration (seq
    [optional (word "const"), word "enum", role .name identifier,
      itemAs .body (enumBody read <|> brokenBody)])

def interface (read : Reader) : Rule Node :=
  node .statement (do
    let found ← word "interface"
    guard sameLine
    return found ++ (← seq
      [anyName .typeName, optional (typeParameters read),
        optional (seq [word "extends", listed (item (read (.type false)))]),
        item (objectType read)]))

def moduleName : Rule (List Node) :=
  lexeme .string Lexeme.string <|>
  seq [anyName .identifier, many (seq [mark ".", anyName .identifier])]

def namespaceRule (read : Reader) : Rule Node :=
  node .statement (do
    let found ← wordOf ["namespace", "module"]
    guard sameLine
    return found ++ (← seq [moduleName, item (block read) <|> terminator true]))

def declarator (read : Reader) : Rule (List Node) :=
  seq
    [item (read .pattern), optional (mark "!"), optional (typing read true),
      optional (initializer read)]

def bindings (read : Reader) : Rule Node :=
  node .statement (seq
    [wordOf ["var", "let", "const"], declarator read, many (seq [mark ",", declarator read]),
      terminator false])

def functionDeclaration (read : Reader) : Rule Node :=
  node .statement (seq
    [optional (word "async"), word "function", optional (mark "*"), optional identifier,
      signature read true, item (block read) <|> terminator true])

def classDeclaration (read : Reader) : Rule Node :=
  node .statement (item (classRule read))

def declaration (read : Reader) : Rule Node :=
  typeAlias read <|> enumeration read <|> interface read <|> namespaceRule read <|>
  functionDeclaration read <|> classDeclaration read <|> bindings read

def ambient (read : Reader) : Rule Node :=
  node .statement (do
    let found ← word "declare"
    guard sameLine
    return found ++ (← item (declaration read) <|> seq [word "global", item (block read)]))

/-! ### Modules -/

def importedNames : Rule (List Node) :=
  let one := seq
    [optional (do
        let found ← word "type"
        guard fun c => Lexeme.name c.gap.after.rest > 0 && !atWord "as" c
        return found),
      anyName .identifier <|> lexeme .string Lexeme.string,
      optional (seq [word "as", anyName .identifier <|> lexeme .string Lexeme.string])]
  seq [mark "\x7b", optional (listed one), mark "\x7d"]

def everything : Rule (List Node) := seq [mark "*", optional (seq [word "as", anyName .identifier])]

def fromClause (read : Reader) : Rule (List Node) :=
  seq
    [word "from", lexeme .string Lexeme.string,
      optional (seq [wordOf ["with", "assert"], item (objectLiteral read)])]

def importClause : Rule (List Node) :=
  let names := importedNames <|> everything
  names <|> seq [identifier, optional (seq [mark ",", names])]

def importStatement (read : Reader) : Rule Node :=
  node .statement (
    seq [word "import", lexeme .string Lexeme.string, terminator false] <|>
    seq [word "import", importClause, fromClause read, terminator false] <|>
    seq [word "import", wordOf ["type", "typeof"], importClause, fromClause read,
      terminator false] <|>
    seq [word "import", optional (word "type"), identifier, mark "=", item (read .expression),
      terminator false])

def exportStatement (read : Reader) : Rule Node :=
  node .statement (
    seq [decorators read, word "export",
      item (declaration read) <|> item (ambient read) <|> item (importStatement read)] <|>
    seq [word "export", optional (word "type"), everything, fromClause read, terminator false] <|>
    seq [word "export", optional (word "type"), importedNames, optional (fromClause read),
      terminator false] <|>
    seq [word "export", word "as", word "namespace", identifier, terminator false] <|>
    seq [word "export", mark "=", item (read .expression), terminator false] <|>
    seq [decorators read, word "export", word "default",
      item (functionDeclaration read) <|> item (classDeclaration read) <|>
      item (interface read) <|> seq [item (read .expression), terminator false]])

/-! ### Control -/

def inParentheses (read : Reader) : Rule (List Node) :=
  seq [mark "(", item (read .expression), mark ")"]

def forHead (read : Reader) : Rule (List Node) :=
  let binding := seq
    [wordOf ["var", "let", "const"], item (read .pattern)] <|> item (read .callee)
  seq [binding, wordOf ["of", "in"], item (read .expression)] <|>
  seq
    [item (bindings read) <|> seq [optional (item (read .expression)), mark ";"],
      optional (item (read .expression)), mark ";", optional (item (read .expression))]

def switchCase (read : Reader) : Rule (List Node) :=
  seq
    [seq [word "case", item (read .expression)] <|> word "default", mark ":",
      many (do
        guard fun c => !atWord "case" c && !atWord "default" c
        item (read .statement))]

def control (read : Reader) : Rule (List Node) :=
  seq [word "if", inParentheses read, item (read .statement),
    optional (seq [word "else", item (read .statement)])] <|>
  seq [word "for", optional (word "await"), mark "(", forHead read, mark ")",
    item (read .statement)] <|>
  seq [word "while", inParentheses read, item (read .statement)] <|>
  seq [word "with", inParentheses read, item (read .statement)] <|>
  seq [word "do", item (read .statement), word "while", inParentheses read,
    optional (mark ";")] <|>
  seq [word "try", item (block read),
    optional (seq [word "catch",
      optional (seq [mark "(", item (read .pattern), optional (typing read false), mark ")"]),
      item (block read)]),
    optional (seq [word "finally", item (block read)])] <|>
  seq [word "switch", inParentheses read, mark "\x7b", many (switchCase read), mark "\x7d"] <|>
  seq [word "return", terminator false <|>
    seq [do guard sameLine; item (read .expression), terminator false]] <|>
  seq [word "throw", item (read .expression), terminator false] <|>
  seq [wordOf ["break", "continue"], terminator false <|> seq [identifier, terminator false]] <|>
  seq [word "debugger", terminator false]

def labelled (read : Reader) : Rule (List Node) :=
  seq [identifier, mark ":", item (read .statement)]

def expressionStatement (read : Reader) : Rule (List Node) :=
  seq [item (read .expression), terminator false]

def statementRule (read : Reader) : Rule Node := fun c =>
  match c.rest with
  | [] => none
  | ';' :: _ => node .statement (mark ";") c
  | '{' :: _ => block read c
  | '@' :: _ => (exportStatement read <|> classDeclaration read) c
  | _ =>
    match Lexeme.name c.rest with
    | 0 => node .statement (expressionStatement read) c
    | _ + 1 =>
      (declaration read <|> ambient read <|> importStatement read <|> exportStatement read <|>
        node .statement (control read <|> labelled read <|> expressionStatement read)) c

end DeclSchema.Source.Grammar
