import DeclSchema.Source.Grammar.Types

/-!
The rules of expressions, bindings, functions, classes and elements. Operators are not ranked: a
chain of operands and operators is one node, since only the operands and their order matter to
whoever walks the tree.
-/

namespace DeclSchema.Source.Grammar

open Rule

def block (read : Reader) : Rule Node :=
  node .block (seq [mark "\x7b", many (item (read .statement)), mark "\x7d"])

/-! ### Bindings -/

def pairPattern (read : Reader) : Rule (List Node) :=
  seq [item (propertyName read), mark ":", item (read .pattern)]

def objectPattern (read : Reader) : Rule Node :=
  node .pattern (seq
    [mark "\x7b",
      optional (listed (
        seq [mark "...", item (read .pattern)] <|>
        seq [pairPattern read <|> identifier, optional (initializer read)])),
      mark "\x7d"])

def arrayPattern (read : Reader) : Rule Node :=
  let entry := seq [optional (mark "..."), item (read .pattern), optional (initializer read)]
  node .pattern (seq [mark "[", many (entry <|> mark ","), mark "]"])

def patternRule (read : Reader) : Rule Node := fun c =>
  match c.rest with
  | '{' :: _ => objectPattern read c
  | '[' :: _ => arrayPattern read c
  | _ => node .pattern identifier c

/-! ### Functions and classes -/

def function (read : Reader) : Rule Node :=
  node .expression (seq
    [optional (word "async"), word "function", optional (mark "*"), optional identifier,
      signature read true, item (block read)])

def method (read : Reader) : Rule Node :=
  node .expression (seq
    [many (modifier ["static", "async", "get", "set"]), optional (mark "*"),
      item (propertyName read), signature read true, item (block read)])

def classModifiers : List String :=
  ["public", "private", "protected", "static", "abstract", "override", "readonly", "async",
    "accessor", "declare", "get", "set"]

def classMember (read : Reader) : Rule Node :=
  let head : Rule (List Node) := seq
    [decorators read, many (modifier classModifiers), optional (mark "*"),
      item (propertyName read), optional (mark "?" <|> mark "!")]
  let field := seq
    [head, optional (typing read true), optional (initializer read), terminator false]
  let method := seq
    [head, signature read true, item (block read) <|> terminator true]
  node .statement (
    mark ";" <|>
    seq [word "static", item (block read)] <|>
    seq [many (modifier classModifiers), item (indexSignature read), terminator true] <|>
    method <|> field)

def heritage (read : Reader) : Rule (List Node) :=
  seq
    [optional (seq [word "extends",
      listed (seq [item (read .callee), optional (item (typeArguments read))])]),
      optional (seq [word "implements", listed (item (read (.type false)))])]

def classRule (read : Reader) : Rule Node :=
  node .expression (seq
    [decorators read, optional (word "abstract"), word "class",
      optional (seq [do guard fun c => !(c.gap.after.nameHere == "extends".toList ||
          c.gap.after.nameHere == "implements".toList); return [], identifier]),
      optional (typeParameters read), heritage read,
      mark "\x7b", many (item (classMember read)), mark "\x7d"])

/-! ### Elements -/

def tagName : Rule (List Node) :=
  seq
    [lexeme .identifier Lexeme.elementName,
      many (seq [mark "." <|> mark ":", lexeme .identifier Lexeme.elementName])]

def attributeString : List Char → Nat
  | q :: rest =>
    if q = '"' || q = '\'' then
      let body := Lexeme.runOf (· != q) rest
      if (rest.drop body).isEmpty then 0 else body + 2
    else 0
  | [] => 0

def container (read : Reader) : Rule Node :=
  node .expression (seq
    [mark "\x7b", optional (seq [optional (mark "..."), item (read .expression)]), gap,
      mark "\x7d"])

def tagAttribute (read : Reader) : Rule (List Node) :=
  item (container read) <|>
  seq
    [tagName,
      optional (seq [mark "=", lexeme .string attributeString <|> item (container read) <|>
        item (read .element)])]

-- Text and references between tags; blanks belong to the text, so no gap is skipped here.
def elementChild (read : Reader) : Rule (List Node) := fun c =>
  let cut (size : Nat) := some ([Node.leaf .fragment c.place (c.rest.take size)], c.skip size)
  match c.rest with
  | [] => none
  | '<' :: '/' :: _ => none
  | '<' :: _ => (read .element c).map fun found => ([found.1], found.2)
  | '{' :: _ => (container read c).map fun found => ([found.1], found.2)
  | '&' :: _ =>
    match Lexeme.reference c.rest with
    | 0 => cut 1
    | n + 1 => cut (n + 1)
  | _ =>
    match Lexeme.elementText c.rest with
    | 0 => none
    | n + 1 => cut (n + 1)

def elementRule (read : Reader) : Rule Node :=
  let closing := seq [mark "<", mark "/", optional tagName, mark ">"]
  node .element (
    seq [mark "<", mark ">", many (elementChild read), closing] <|>
    (do
      let opening ← seq [mark "<", tagName, optional (item (typeArguments read)),
        many (tagAttribute read)]
      (do return opening ++ (← seq [mark "/", mark ">"])) <|>
      (do return opening ++ (← seq [mark ">", many (elementChild read), closing]))))

/-! ### Primary expressions -/

def arguments (read : Reader) : Rule Node :=
  node .arguments (seq
    [mark "(", optional (listed (seq [optional (mark "..."), item (read .assignment)])),
      mark ")"])

def arrayLiteral (read : Reader) : Rule Node :=
  let entry := seq [optional (mark "..."), item (read .assignment)]
  node .expression (seq [mark "[", many (entry <|> mark ","), mark "]"])

def objectLiteral (read : Reader) : Rule Node :=
  let entry :=
    seq [mark "...", item (read .assignment)] <|>
    item (method read) <|>
    seq [item (propertyName read), mark ":", item (read .assignment)] <|>
    seq [identifier, optional (initializer read)]
  node .expression (seq [mark "\x7b", optional (listed entry), mark "\x7d"])

def leafOf (kind : Kind) (size : List Char → Nat) : Rule Node := fun c =>
  match size c.rest with
  | 0 => none
  | n + 1 => some (Node.leaf kind c.place (c.rest.take (n + 1)), c.skip (n + 1))

def importExpression (read : Reader) : Rule Node :=
  node .expression (seq [word "import", seq [mark ".", word "meta"] <|> item (arguments read)])

def wordPrimary (read : Reader) : Rule Node := fun c =>
  let found := c.nameHere
  let is (text : String) : Bool := found == text.toList
  if is "function" then function read c
  else if is "class" || is "abstract" then (classRule read <|> leafOf .identifier Lexeme.name) c
  else if is "async" then (function read <|> leafOf .identifier Lexeme.name) c
  else if is "import" then importExpression read c
  else if is "this" || is "super" || is "null" || is "true" || is "false" then
    leafOf .expression Lexeme.name c
  else if isReserved found then none
  else leafOf .identifier Lexeme.name c

def primary (read : Reader) : Rule Node := fun c =>
  match c.rest with
  | [] => none
  | '(' :: _ =>
    node .expression (seq
      [mark "(", item (read .expression), optional (typing read false), mark ")"]) c
  | '[' :: _ => arrayLiteral read c
  | '{' :: _ => objectLiteral read c
  | '`' :: _ => template read c
  | '\'' :: _ => leafOf .string Lexeme.string c
  | '"' :: _ => leafOf .string Lexeme.string c
  | '/' :: _ => leafOf .regex Lexeme.regex c
  | '<' :: _ => read .element c
  | '@' :: _ => classRule read c
  | '#' :: _ => propertyName read c
  | _ =>
    match Lexeme.name c.rest with
    | 0 => leafOf .number Lexeme.number c
    | _ + 1 => wordPrimary read c

/-! ### Calls and members -/

def memberStep (read : Reader) (start : Cursor) (left : Node) : Rule Node :=
  grow .expression start [left] (
    (do guard dotted; seq [mark ".", item (propertyName read)]) <|>
    seq [mark "[", item (read .expression), mark "]"] <|>
    (do guard sameLine; markNot "!" ["!="]))

-- A template behind a value is a call of that value.
def templateStep (read : Reader) (start : Cursor) (left : Node) : Rule Node :=
  grow .call start [left.playing .function] (itemAs .arguments (template read))

-- What may follow type arguments that belong to a value and not to two comparisons.
def endsInstance (c : Cursor) : Bool :=
  let g := c.gap
  match g.after.rest with
  | [] => true
  | x :: _ => g.lineBreak || "`()]:;,.?=!|\x7d^&".toList.contains x

def callStep (read : Reader) (start : Cursor) (left : Node) : Rule Node :=
  memberStep read start left <|> templateStep read start left <|>
  grow .call start [left.playing .function] (
    seq [optional optionalDot, itemAs .typeArguments (typeArguments read),
      itemAs .arguments (arguments read)] <|>
    seq [optional optionalDot, itemAs .arguments (arguments read)]) <|>
  grow .expression start [left] (
    seq [optionalDot, mark "[", item (read .expression), mark "]"] <|>
    seq [optionalDot, item (propertyName read)] <|>
    (do
      let found ← item (typeArguments read)
      guard endsInstance
      return found))

-- An object that a call of `new` builds: members and templates belong to its constructor, the
-- first argument list does not.
def construction (read : Reader) : Rule Node := fun c =>
  let constructor : Rule Node := climbing (primary read) fun start left =>
    memberStep read start left <|> templateStep read start left
  node .expression (seq
    [many (word "new"),
      seq [mark ".", word "target"] <|> seq
        [item constructor,
          optional (seq
            [optional (item (typeArguments read)), item (arguments read)]),
          many (item (arguments read))]]) c

def calleeRule (read : Reader) : Rule Node :=
  climbing
    (fun c => if c.nameHere == "new".toList then construction read c else primary read c)
    (callStep read)

/-! ### Operators -/

-- Longer signs stand before the shorter ones that begin them.
def signs : List String :=
  [">>>=", "===", "!==", "**=", "&&=", "||=", "??=", "<<=", ">>=", ">>>", "=>", "==", "!=", "<=",
    ">=", "<<", ">>", "**", "&&", "||", "??", "+=", "-=", "*=", "/=", "%=", "&=", "|=", "^=", "++",
    "--", "?.", "=", "<", ">", "+", "-", "*", "/", "%", "&", "|", "^", "?", "!", "~"]

def signHere (rest : List Char) : String :=
  (signs.find? (·.toList.isPrefixOf rest)).getD ""

def signOf (accept : List String) : Rule (List Node) :=
  lexeme .mark fun rest =>
    let sign := signHere rest
    if accept.contains sign then sign.length else 0

def binarySigns : List String :=
  ["===", "!==", ">>>", "==", "!=", "<=", ">=", "<<", ">>", "**", "&&", "||", "??", "<", ">", "+",
    "-", "*", "/", "%", "&", "|", "^"]

def assigningSigns : List String :=
  ["=", ">>>=", "**=", "&&=", "||=", "??=", "<<=", ">>=", "+=", "-=", "*=", "/=", "%=", "&=", "|=",
    "^="]

def unary (read : Reader) : Rule Node := fun c =>
  let operand : Rule Node := fun c =>
    match calleeRule read c with
    | none => none
    | some (left, next) =>
      match grow .expression c [left] (do guard sameLine; signOf ["++", "--"]) next with
      | none => some (left, next)
      | grown => grown
  let lead := signOf ["!", "~", "+", "-", "++", "--"] <|>
    wordOf ["typeof", "void", "delete", "await"]
  (node .expression (do
    let first ← lead
    return first ++ (← seq [many lead, item operand])) <|> operand) c

def binaryTail (read : Reader) : Rule (List Node) :=
  let typed (text : String) := do
    guard sameLine
    seq [word text, word "const" <|> item (read (.type true))]
  seq [signOf binarySigns <|> wordOf ["in", "instanceof"], item (unary read)] <|>
  typed "as" <|> typed "satisfies"

def binary (read : Reader) : Rule Node := fun c =>
  match unary read c with
  | none => none
  | some (left, next) =>
    match grow .expression c [left] (do
        let first ← binaryTail read
        return first ++ (← many (binaryTail read))) next with
    | none => some (left, next)
    | grown => grown

def questionMark : Rule (List Node) := fun c =>
  match c.gap.after.rest with
  | '?' :: '.' :: d :: _ => if d.isDigit then mark "?" c else none
  | _ => signOf ["?"] c

def arrow (read : Reader) : Rule Node :=
  let head : Rule (List Node) :=
    (do
      let found ← identifier
      guard fun c => sameLine c && c.gap.after.startsWith "=>"
      return found) <|>
    signature read false
  let async : Rule (List Node) := do
    let found ← word "async"
    guard fun c => sameLine c && !c.gap.after.startsWith "=>"
    return found
  node .expression (seq
    [seq [async, head, mark "=>"] <|> seq [head, mark "=>"],
      item (block read) <|> item (read .assignment)])

def yielding (read : Reader) : Rule Node :=
  node .expression (seq
    [word "yield", seq [mark "*", item (read .assignment)] <|>
      (do guard sameLine; item (read .assignment)) <|> pure []])

-- What stands between the two marks may look like a function with a type behind the colon. If no
-- colon is left then, it is none.
def choice (read : Reader) : Rule (List Node) :=
  seq [questionMark, item (read .assignment), mark ":", item (read .assignment)] <|>
  seq [questionMark, item (binary read), mark ":", item (read .assignment)]

def plainAssignment (read : Reader) : Rule Node := fun c =>
  match binary read c with
  | none => none
  | some (left, next) =>
    match grow .expression c [left] (
        choice read <|> seq [signOf assigningSigns, item (read .assignment)]) next with
    | none => some (left, next)
    | grown => grown

def assignmentRule (read : Reader) : Rule Node := fun c =>
  match c.rest with
  | '(' :: _ => (arrow read <|> plainAssignment read) c
  | '<' :: _ => (arrow read <|> plainAssignment read) c
  | _ =>
    if c.nameHere == "yield".toList then (yielding read <|> plainAssignment read) c
    else if c.nameHere.isEmpty then plainAssignment read c
    else (arrow read <|> plainAssignment read) c

def expressionRule (read : Reader) : Rule Node := fun c =>
  match read .assignment c with
  | none => none
  | some (left, next) =>
    match grow .expression c [left] (do
        let first ← seq [mark ",", item (read .assignment)]
        return first ++ (← many (seq [mark ",", item (read .assignment)]))) next with
    | none => some (left, next)
    | grown => grown

end DeclSchema.Source.Grammar
