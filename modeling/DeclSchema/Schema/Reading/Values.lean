import DeclSchema.Schema.Document
import DeclSchema.Schema.Reading

/-!
Rules for types, values, arguments and directives. `depth` is the number of brackets and braces
that may still be opened inside one another.
-/

namespace DeclSchema.Schema.Reading

-- Brackets and braces that may be open at a time.
def maxDepth : Nat := 200

def nonNullMark (type : TypeRef) : Reading TypeRef := do
  if ← accept .bang then return .nonNull type else return type

def typeRef (depth : Nat) : Reading TypeRef := do
  if ← isNext .openBracket then
    match depth with
    | 0 => fail .tooDeep
    | depth + 1 =>
      expect .openBracket
      let element ← typeRef depth
      expect .closeBracket
      nonNullMark (.list element)
  else nonNullMark (.named (← name))

def quotation? : Reading (Option Quotation) := do
  match ← peek with
  | some (.string value) =>
    advance
    return some ⟨value, false⟩
  | some (.block value) =>
    advance
    return some ⟨value, true⟩
  | _ => return none

def namedValue (text : String) : Value :=
  if text = "true" then .boolean true
  else if text = "false" then .boolean false
  else if text = "null" then .null
  else .enumeration text

def variableName : Reading String := do
  expect .dollar
  name

-- Constant values hold no variables.
def variableValue (constant : Bool) : Reading Value := do
  if constant then
    let dollar ← peek
    expect .dollar
    match ← peek with
    | some (.name text) => fail (.variableInConstant text)
    | _ => fail (.unexpected dollar)
  else return .variable (← variableName)

def value (constant : Bool) (depth : Nat) : Reading Value := do
  match ← peek with
  | some (.symbol .openBracket) =>
    match depth with
    | 0 => fail .tooDeep
    | depth + 1 => return .list (← any .openBracket .closeBracket (value constant depth))
  | some (.symbol .openBrace) =>
    match depth with
    | 0 => fail .tooDeep
    | depth + 1 =>
      let field : Reading (String × Value) := do
        let fieldName ← name
        expect .colon
        return (fieldName, ← value constant depth)
      return .object (← any .openBrace .closeBrace field)
  | some (.symbol .dollar) => variableValue constant
  | some (.integer text) =>
    advance
    return .integer text
  | some (.float text) =>
    advance
    return .float text
  | some (.string text) =>
    advance
    return .string ⟨text, false⟩
  | some (.block text) =>
    advance
    return .string ⟨text, true⟩
  | some (.name text) =>
    advance
    return namedValue text
  | _ => unexpected

def argument (constant : Bool) (depth : Nat) : Reading Argument := do
  let argumentName ← name
  expect .colon
  return ⟨argumentName, ← value constant depth⟩

def arguments (constant : Bool) (depth : Nat) : Reading (List Argument) :=
  optionalMany .openParen .closeParen (argument constant depth)

def directive (constant : Bool) (depth : Nat) : Reading Directive := do
  expect .atSign
  let directiveName ← name
  return ⟨directiveName, ← arguments constant depth⟩

def directives (constant : Bool) (depth : Nat) : Reading (List Directive) :=
  whileNext .atSign (directive constant depth)

def constantDirectives : Reading (List Directive) := directives true maxDepth

end DeclSchema.Schema.Reading
