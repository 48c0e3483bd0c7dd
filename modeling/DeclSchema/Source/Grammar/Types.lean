import DeclSchema.Source.Grammar.Goal

/-!
The rules of types, with the parameter lists and bindings that function types share with
functions.
-/

namespace DeclSchema.Source.Grammar

open Rule

def typingOf (kind : Kind) (sign : String) (read : Reader) (lineEnds : Bool) :
    Rule (List Node) :=
  itemAs .typing (node kind (seq [mark sign, item (read (.type lineEnds))]))

def typing (read : Reader) (lineEnds : Bool) : Rule (List Node) :=
  typingOf .typing ":" read lineEnds

def typeArguments (read : Reader) : Rule Node :=
  node .typeArguments (seq [mark "<", listed (item (read (.type false))), mark ">"])

def typeParameter (read : Reader) : Rule Node :=
  node .typeParameter (seq
    [many (modifier ["const", "in", "out"]), role .name (anyName .typeName),
      optional (seq [word "extends" <|> mark ":", item (read (.type false))]),
      optional (seq [markNot "=" ["=="], item (read (.type false))])])

def typeParameters (read : Reader) : Rule (List Node) :=
  itemAs .typeParameters
    (node .typeParameters (seq [mark "<", listed (item (typeParameter read)), mark ">"]))

/-! ### Parameters -/

def initializer (read : Reader) : Rule (List Node) :=
  seq [markNot "=" ["==", "=>"], item (read .assignment)]

-- The expression of a decorator: a name with members and calls, or anything in parentheses.
def decorators (read : Reader) : Rule (List Node) :=
  many (item (node .expression (seq [mark "@", item (read .callee)])))

def parameter (read : Reader) : Rule (List Node) :=
  item (node .pattern (seq
    [many (modifier ["public", "private", "protected", "override", "readonly"]),
      optional (mark "..."),
      item (read .pattern) <|> word "this",
      optional (markNot "?" ["?.", "??"]),
      optional (typing read false),
      optional (initializer read)]))

def parameters (read : Reader) : Rule (List Node) :=
  item (node .parameters (seq
    [mark "(",
      optional (listed (seq [decorators read, parameter read])),
      mark ")"]))

-- What a function returns: a type, or a statement about one of its parameters.
def predicate (read : Reader) (lineEnds : Bool) : Rule Node :=
  node .predicate (
    seq [word "asserts", anyName .identifier, word "is", item (read (.type lineEnds))] <|>
    (do
      let found ← word "asserts"
      guard sameLine
      return found ++ (← anyName .identifier)) <|>
    seq [anyName .identifier, word "is", item (read (.type lineEnds))])

def returnType (read : Reader) (lineEnds : Bool) : Rule Node :=
  predicate read lineEnds <|> read (.type lineEnds)

def returnTyping (read : Reader) (lineEnds : Bool) : Rule (List Node) :=
  item (node .typing (seq [mark ":", item (returnType read lineEnds)]))

def signature (read : Reader) (lineEnds : Bool) : Rule (List Node) :=
  seq [optional (typeParameters read), parameters read, optional (returnTyping read lineEnds)]

/-! ### Members of object types -/

def indexHead (read : Reader) : Rule (List Node) :=
  item (node .mappedClause (seq [role .name (anyName .typeName), word "in",
    item (read (.type false)), optional (seq [word "as", item (read (.type false))])])) <|>
  seq [anyName .identifier, mark ":", item (read (.type false))]

def indexSignature (read : Reader) : Rule Node :=
  node .indexSignature (seq
    [optional (seq [optional (mark "+" <|> mark "-"), word "readonly"]),
      mark "[", indexHead read, mark "]",
      typing read true <|> typingOf .optingTyping "?:" read true <|>
        typingOf .omittingTyping "-?:" read true <|>
        typingOf .addingTyping "+?:" read true])

def startsSignature (c : Cursor) : Bool :=
  let g := c.gap
  !g.lineBreak && (g.after.startsWith "(" || g.after.startsWith "<")

def namedMember (read : Reader) : Rule Node := fun c =>
  let head : Rule (List Node) := seq
    [many (modifier ["public", "private", "protected", "static", "override", "readonly", "async",
        "get", "set"]),
      optional (mark "*"), itemAs .name (propertyName read), optional (mark "?")]
  let method := node .methodSignature (seq
    [head, do guard startsSignature; return [], signature read true])
  let property := node .propertySignature (seq [head, optional (typing read true)])
  (method <|> property) c

-- A name and `in` behind a bracket begin a mapped member and nothing else.
def startsMapped (c : Cursor) : Bool :=
  (seq [mark "[", anyName .typeName, word "in"] c).isSome

def member (read : Reader) : Rule Node := fun c =>
  if startsMapped c then indexSignature read c else plainMember c
where
  plainMember : Rule Node :=
    indexSignature read <|>
    node .constructSignature (seq [optional (word "abstract"), word "new", signature read true]) <|>
    node .callSignature (signature read true) <|>
    namedMember read

-- Members are divided by a comma, a semicolon or a line break, and one divider may stand in
-- front of the first.
def members (read : Reader) : Rule (List Node) :=
  let divider := mark "," <|> terminator true
  seq [optional (mark "," <|> mark ";"),
    many (do
      let found ← item (member read)
      return found ++ (← divider <|> do guard (·.gap.after.startsWith "|\x7d"); return []))]

def objectType (read : Reader) : Rule Node :=
  node .objectType (
    seq [mark "\x7b|", members read, mark "|\x7d"] <|> seq [mark "\x7b", members read, mark "\x7d"])

/-! ### Types -/

-- Whether the type may go on with the coming token.
def goesOn (lineEnds : Bool) : Rule Unit := guard fun c => !lineEnds || sameLine c

def tupleMember (read : Reader) : Rule (List Node) :=
  seq [optional (mark "..."), anyName .identifier, optional (mark "?"), typing read false] <|>
  seq [mark "...", item (read (.type false))] <|>
  seq [item (read (.type false)), optional (mark "?")]

def tupleType (read : Reader) : Rule Node :=
  node .tupleType (seq [mark "[", optional (listed (tupleMember read)), mark "]"])

def functionType (read : Reader) (lineEnds : Bool) : Rule Node :=
  node .functionType (seq
    [optional (typeParameters read), parameters read, mark "=>",
      item (returnType read lineEnds)])

-- The result of a constructor type takes no union or intersection along.
def constructorType (read : Reader) (result : Rule Node) : Rule Node :=
  node .constructorType (seq
    [optional (word "abstract"), word "new", optional (typeParameters read), parameters read,
      mark "=>", item result])

def parenthesized (read : Reader) (lineEnds : Bool) : Rule Node :=
  (do
    let found ← node .parenthesizedType (seq [mark "(", item (read (.type false)), mark ")"])
    guard fun c => !c.gap.after.startsWith "=>"
    return found) <|>
  functionType read lineEnds

def templateType (read : Reader) : Rule Node :=
  templateOf .templateType
    (node .substitution (seq [mark "$\x7b", item (read (.type false)), mark "\x7d"]))

def importCall (read : Reader) : Rule Node :=
  node .importType (seq [word "import", mark "(", item (read (.type false)), mark ")"])

def dotted (c : Cursor) : Bool :=
  let after := c.gap.after
  after.startsWith "." && !after.startsWith "..."

def memberPath : Rule (List Node) :=
  many (do guard dotted; seq [mark ".", anyName .typeName])

def importType (read : Reader) : Rule Node :=
  node .importType (seq
    [item (importCall read), memberPath, optional (item (typeArguments read))])

-- In front of a digit the question mark is that of a choice and the point that of a number.
def optionalDot : Rule (List Node) :=
  markNot "?." ["?.0", "?.1", "?.2", "?.3", "?.4", "?.5", "?.6", "?.7", "?.8", "?.9"]

-- The queried value: a name or an imported module, its members and literal indices.
def typeQuery (read : Reader) (lineEnds : Bool) : Rule Node :=
  let index := do
    goesOn lineEnds
    seq [mark "[", lexeme .string Lexeme.string <|> lexeme .number Lexeme.number <|>
      wordOf ["string", "number", "symbol", "any", "boolean", "object", "unknown", "never", "void"],
      mark "]"]
  let step := (do guard dotted; seq [mark ".", item (propertyName read)]) <|>
    seq [optionalDot, item (propertyName read)] <|> index
  node .typeQuery (seq
    [word "typeof", item (importCall read) <|> anyName .identifier, many step,
      optional (item (typeArguments read))])

def predefined : List String :=
  ["any", "number", "boolean", "string", "symbol", "void", "unknown", "never", "object"]

def typeName : Rule Node := fun c =>
  match Lexeme.name c.rest with
  | 0 => none
  | n + 1 => some (Node.leaf .typeName c.place (c.rest.take (n + 1)), c.skip (n + 1))

def nestedTypeName : Rule Node :=
  node .nestedTypeName (seq [anyName .typeName, do guard dotted; memberPath])

def namedType (read : Reader) : Rule Node := fun c =>
  match (nestedTypeName <|> typeName) c with
  | none => none
  | some (base, next) =>
    match (grow .genericType c [base.playing .name]
        (itemAs .typeArguments (typeArguments read))) next with
    | none => some (base, next)
    | generic => generic

def literalWord (kind : Kind) (text : String) : Rule Node :=
  node .literalType (lexeme kind (nameSize (· == text.toList)))

def wordType (read : Reader) (lineEnds : Bool) : Rule Node :=
  let whole (rule : Rule Node) : Rule Node := do
    let found ← rule
    guard fun c => !dotted c
    return found
  whole (node .predefinedType (wordOf predefined)) <|>
  node .predefinedType (seq [word "unique", word "symbol"]) <|>
  whole (literalWord .nullWord "null") <|> whole (literalWord .undefinedWord "undefined") <|>
  whole (literalWord .trueWord "true") <|> whole (literalWord .falseWord "false") <|>
  whole (node .thisType (word "this")) <|>
  typeQuery read lineEnds <|> importType read <|> namedType read

def signedNumber : Rule Node :=
  node .literalType (item (node .signedNumber
    (seq [mark "-" <|> mark "+", lexeme .number Lexeme.number])))

def atomType (read : Reader) (lineEnds : Bool) : Rule Node := fun c =>
  match c.rest with
  | [] => none
  | '(' :: _ => parenthesized read lineEnds c
  | '<' :: _ => functionType read lineEnds c
  | '{' :: _ => objectType read c
  | '[' :: _ => tupleType read c
  | '\'' :: _ => node .literalType (lexeme .string Lexeme.string) c
  | '"' :: _ => node .literalType (lexeme .string Lexeme.string) c
  | '`' :: _ => templateType read c
  | '-' :: _ => signedNumber c
  | '+' :: _ => signedNumber c
  | '*' :: _ => node .anyType (mark "*") c
  | '?' :: _ => node .maybeType (seq [mark "?", item (read (.type lineEnds))]) c
  | _ =>
    match Lexeme.name c.rest with
    | 0 => node .literalType (lexeme .number Lexeme.number) c
    | _ + 1 => wordType read lineEnds c

-- Brackets behind a type: an array of it, or a member looked up in it.
def bracketed (read : Reader) (lineEnds : Bool) (start : Cursor) (left : Node) : Rule Node :=
  let guarded (kind : Kind) (inside : Rule (List Node)) :=
    grow kind start [left] do
      goesOn lineEnds
      seq [mark "[", inside, mark "]"]
  guarded .arrayType (pure []) <|> guarded .lookupType (item (read (.type false)))

def primaryType (read : Reader) (lineEnds : Bool) : Rule Node :=
  climbing (atomType read lineEnds) (bracketed read lineEnds)

def operandType (read : Reader) (lineEnds : Bool) : Rule Node := fun c =>
  let found := c.nameHere
  let tried :=
    if found == "keyof".toList then
      node .keyofType (seq [word "keyof", item (primaryType read lineEnds)]) c
    else if found == "readonly".toList then
      node .readonlyType (seq [word "readonly", item (read (.type lineEnds))]) c
    else if found == "infer".toList then
      node .inferType (seq [word "infer", anyName .typeName,
        optional (seq [word "extends", item (read (.type lineEnds))])]) c
    else if found == "new".toList || found == "abstract".toList then
      constructorType read (primaryType read lineEnds) c
    else none
  match tried with
  | none => primaryType read lineEnds c
  | some result => some result

-- Operands joined by one sign, which may also stand in front of the first.
def chain (kind : Kind) (sign : Rule (List Node)) (operand : Rule Node) : Rule Node :=
  climbing (node kind (seq [sign, item operand]) <|> operand)
    fun start left => grow kind start [left] (seq [sign, item operand])

def intersectionType (read : Reader) (lineEnds : Bool) : Rule Node :=
  chain .intersectionType (markNot "&" ["&&"]) (operandType read lineEnds)

def unionType (read : Reader) (lineEnds : Bool) : Rule Node :=
  chain .unionType (markNot "|" ["||", "|\x7d"]) (intersectionType read lineEnds)

def typeRule (read : Reader) (lineEnds : Bool) : Rule Node := fun c =>
  match unionType read lineEnds c with
  | none => none
  | some (left, next) =>
    let rest : Rule (List Node) := do
      goesOn lineEnds
      seq [word "extends", item (read (.type false)), mark "?", item (read (.type false)),
        mark ":", item (read (.type lineEnds))]
    match grow .conditionalType c [left] rest next with
    | none => some (left, next)
    | conditional => conditional

end DeclSchema.Source.Grammar
