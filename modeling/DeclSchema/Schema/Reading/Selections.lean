import DeclSchema.Schema.Reading.Values

/-!
Rules for operations and fragments.
-/

namespace DeclSchema.Schema.Reading

-- `on` stands in front of a condition and is no fragment's name, whichever kind of token it is.
def fragmentName : Reading String := do
  if (← peek).bind Token.text? = some "on" then unexpected else name

-- A spread or an inline fragment. `nested` reads its selections.
def fragment (depth : Nat) (nested : Reading (List Selection)) : Reading Selection := do
  expect .spread
  if ← acceptKeyword "on" then
    let condition ← name
    let list ← directives false depth
    return .inline (some condition) list (← nested)
  else
    match ← peek with
    | some (.name _) =>
      let spreadName ← fragmentName
      return .spread spreadName (← directives false depth)
    | _ =>
      let list ← directives false depth
      return .inline none list (← nested)

def selectedField (depth : Nat) (nested : Reading (List Selection)) : Reading Selection := do
  let first ← name
  let (label, fieldName) ←
    if ← accept .colon then do
      let second ← name
      pure (some first, second)
    else pure (none, first)
  let argumentList ← arguments false depth
  let directiveList ← directives false depth
  if ← isNext .openBrace then
    return .branch label fieldName argumentList directiveList (← nested)
  else return .leaf label fieldName argumentList directiveList

def selection (depth : Nat) (nested : Reading (List Selection)) : Reading Selection := do
  if ← isNext .spread then fragment depth nested else selectedField depth nested

def selections (depth : Nat) : Reading (List Selection) := do
  match depth with
  | 0 => if ← isNext .openBrace then fail .tooDeep else any .openBrace .closeBrace unexpected
  | depth + 1 => any .openBrace .closeBrace (selection depth (selections depth))

def operation : Reading Operation := do
  let next ← peek
  let word ← name
  if word = "query" then return .query
  else if word = "mutation" then return .mutation
  else if word = "subscription" then return .subscription
  else fail (.unexpected next)

def defaultValue : Reading (Option Value) := do
  if ← accept .equals then return some (← value true maxDepth) else return none

def variableDefinition : Reading VariableDefinition := do
  let description ← quotation?
  let parameter ← variableName
  expect .colon
  let type ← typeRef maxDepth
  let default ← defaultValue
  return ⟨description, parameter, type, default, ← constantDirectives⟩

def operationDefinition : Reading Definition := do
  let description ← quotation?
  if ← isNext .openBrace then
    return .operation description .query none [] [] (← selections maxDepth)
  else
    let kind ← operation
    let operationName ← match ← peek with
      | some (.name _) => do pure (some (← name))
      | _ => pure none
    let parameters ← optionalMany .openParen .closeParen variableDefinition
    let directiveList ← directives false maxDepth
    return .operation description kind operationName parameters directiveList
      (← selections maxDepth)

def fragmentDefinition : Reading Definition := do
  let description ← quotation?
  keyword "fragment"
  let definitionName ← fragmentName
  keyword "on"
  let condition ← name
  let directiveList ← directives false maxDepth
  return .fragment description definitionName condition directiveList (← selections maxDepth)

end DeclSchema.Schema.Reading
