import DeclSchema.Schema.Reading.Selections
import DeclSchema.Schema.Scan

/-!
Rules for the definitions of a schema, and the reading of whole texts.
-/

namespace DeclSchema.Schema.Reading

def rootType : Reading RootType := do
  let kind ← operation
  expect .colon
  return ⟨kind, ← name⟩

def schemaDefinition : Reading Definition := do
  let description ← quotation?
  keyword "schema"
  let directiveList ← constantDirectives
  return .schema description directiveList (← many .openBrace .closeBrace rootType)

def scalarDefinition : Reading Definition := do
  let description ← quotation?
  keyword "scalar"
  let definitionName ← name
  return .scalar description definitionName (← constantDirectives)

def interfaces : Reading (List String) := do
  if ← acceptKeyword "implements" then separated .ampersand name else return []

def inputValue : Reading InputValue := do
  let description ← quotation?
  let valueName ← name
  expect .colon
  let type ← typeRef maxDepth
  let default ← defaultValue
  return ⟨description, valueName, type, default, ← constantDirectives⟩

def argumentDefinitions : Reading (List InputValue) :=
  optionalMany .openParen .closeParen inputValue

def field : Reading Field := do
  let description ← quotation?
  let fieldName ← name
  let argumentList ← argumentDefinitions
  expect .colon
  let type ← typeRef maxDepth
  return ⟨description, fieldName, argumentList, type, ← constantDirectives⟩

def fields : Reading (List Field) := optionalMany .openBrace .closeBrace field

def inputFields : Reading (List InputValue) := optionalMany .openBrace .closeBrace inputValue

def objectType (word : String) : Reading ObjectType := do
  let description ← quotation?
  keyword word
  let definitionName ← name
  let interfaceList ← interfaces
  let directiveList ← constantDirectives
  return ⟨description, definitionName, interfaceList, directiveList, ← fields⟩

def members : Reading (List String) := do
  if ← accept .equals then separated .pipe name else return []

def unionDefinition : Reading Definition := do
  let description ← quotation?
  keyword "union"
  let definitionName ← name
  let directiveList ← constantDirectives
  return .union description definitionName directiveList (← members)

-- Whichever kind of token it is, these texts are no names of values.
def isReserved (token : Option Token) : Bool :=
  match token.bind Token.text? with
  | some text => text = Points.of "true" || text = Points.of "false" || text = Points.of "null"
  | none => false

def enumValue : Reading EnumValue := do
  let description ← quotation?
  let next ← peek
  if isReserved next then fail (.reservedValue next)
  else
    let valueName ← name
    return ⟨description, valueName, ← constantDirectives⟩

def enumValues : Reading (List EnumValue) := optionalMany .openBrace .closeBrace enumValue

def enumDefinition : Reading Definition := do
  let description ← quotation?
  keyword "enum"
  let definitionName ← name
  let directiveList ← constantDirectives
  return .enumeration description definitionName directiveList (← enumValues)

def inputType : Reading InputType := do
  let description ← quotation?
  keyword "input"
  let definitionName ← name
  let directiveList ← constantDirectives
  return ⟨description, definitionName, directiveList, ← inputFields⟩

-- Where directives may stand.
def directiveLocations : List String :=
  ["QUERY", "MUTATION", "SUBSCRIPTION", "FIELD", "FRAGMENT_DEFINITION", "FRAGMENT_SPREAD",
    "INLINE_FRAGMENT", "VARIABLE_DEFINITION", "FRAGMENT_VARIABLE_DEFINITION", "SCHEMA", "SCALAR",
    "OBJECT", "FIELD_DEFINITION", "ARGUMENT_DEFINITION", "INTERFACE", "UNION", "ENUM",
    "ENUM_VALUE", "INPUT_OBJECT", "INPUT_FIELD_DEFINITION", "DIRECTIVE_DEFINITION"]

def location : Reading String := do
  let next ← peek
  let word ← name
  if directiveLocations.contains word then return word else fail (.unexpected next)

def directiveDefinition : Reading Definition := do
  let description ← quotation?
  keyword "directive"
  expect .atSign
  let definitionName ← name
  let argumentList ← argumentDefinitions
  let directiveList ← constantDirectives
  let repeatable ← acceptKeyword "repeatable"
  keyword "on"
  return .directive description definitionName argumentList directiveList repeatable
    (← separated .pipe location)

-- An extension adds something.
def adding (nothing : Bool) (extension : Extension) : Reading Definition := do
  if nothing then unexpected else return .extension extension

def schemaExtension : Reading Definition := do
  let directiveList ← constantDirectives
  let roots ← optionalMany .openBrace .closeBrace rootType
  adding (directiveList.isEmpty && roots.isEmpty) (.schema directiveList roots)

def scalarExtension : Reading Definition := do
  let definitionName ← name
  let directiveList ← constantDirectives
  adding directiveList.isEmpty (.scalar definitionName directiveList)

def objectExtension
    (make : String → List String → List Directive → List Field → Extension) :
    Reading Definition := do
  let definitionName ← name
  let interfaceList ← interfaces
  let directiveList ← constantDirectives
  let fieldList ← fields
  adding (interfaceList.isEmpty && directiveList.isEmpty && fieldList.isEmpty)
    (make definitionName interfaceList directiveList fieldList)

def unionExtension : Reading Definition := do
  let definitionName ← name
  let directiveList ← constantDirectives
  let memberList ← members
  adding (directiveList.isEmpty && memberList.isEmpty)
    (.union definitionName directiveList memberList)

def enumExtension : Reading Definition := do
  let definitionName ← name
  let directiveList ← constantDirectives
  let values ← enumValues
  adding (directiveList.isEmpty && values.isEmpty)
    (.enumeration definitionName directiveList values)

def inputExtension : Reading Definition := do
  let definitionName ← name
  let directiveList ← constantDirectives
  let fieldList ← inputFields
  adding (directiveList.isEmpty && fieldList.isEmpty)
    (.input definitionName directiveList fieldList)

def directiveExtension : Reading Definition := do
  expect .atSign
  let definitionName ← name
  let directiveList ← constantDirectives
  adding directiveList.isEmpty (.directive definitionName directiveList)

-- The rule for what stands behind `extend` and its keyword.
def extensionRule? (word : String) : Option (Reading Definition) :=
  match word with
  | "schema" => some schemaExtension
  | "scalar" => some scalarExtension
  | "type" => some (objectExtension .object)
  | "interface" => some (objectExtension .interface)
  | "union" => some unionExtension
  | "enum" => some enumExtension
  | "input" => some inputExtension
  | "directive" => some directiveExtension
  | _ => none

def extension : Reading Definition := do
  let second ← peekSecond
  match second with
  | some (.name word) =>
    match extensionRule? word with
    | some rule =>
      keyword "extend"
      keyword word
      rule
    | none => fail (.unexpected second)
  | _ => fail (.unexpected second)

-- The rule for a definition with that keyword.
def definitionRule? (word : String) : Option (Reading Definition) :=
  match word with
  | "schema" => some schemaDefinition
  | "scalar" => some scalarDefinition
  | "type" => some (do return .object (← objectType "type"))
  | "interface" => some (do return .interface (← objectType "interface"))
  | "union" => some unionDefinition
  | "enum" => some enumDefinition
  | "input" => some (do return .input (← inputType))
  | "directive" => some directiveDefinition
  | "query" => some operationDefinition
  | "mutation" => some operationDefinition
  | "subscription" => some operationDefinition
  | "fragment" => some fragmentDefinition
  | _ => none

def isDescription (token : Option Token) : Bool :=
  match token with
  | some (.string _) => true
  | some (.block _) => true
  | _ => false

-- A description stands in front of the keyword.
def definition : Reading Definition := do
  let next ← peek
  let described := isDescription next
  let leading ← if described then peekSecond else pure next
  match leading with
  | some (.symbol .openBrace) => if described then fail .describedSelection else operationDefinition
  | some (.name word) =>
    match definitionRule? word with
    | some rule => rule
    | none =>
      if described then fail .describedUnknown
      else if word = "extend" then extension
      else fail (.unexpected leading)
  | _ => fail (.unexpected leading)

def definitionsWithin : Nat → Reading (List Definition)
  | 0 => unexpected
  | steps + 1 => do
    if (← peek).isNone then return []
    else
      let first ← definition
      let more ← definitionsWithin steps
      return first :: more

-- One or more definitions, to the end of the text.
def document : Reading Document := do
  let first ← definition
  let more ← definitionsWithin ((← get).length + 1)
  return ⟨first :: more⟩

def wholeType : Reading TypeRef := do
  let type ← typeRef maxDepth
  ending
  return type

variable {α : Type}

-- What a rule makes of a text.
def of (rule : Reading α) (text : Points) : Except Fault α := do
  let first ← ready (tokens text)
  let (result, _) ← rule.run first
  return result

end Reading

-- The document that a text describes.
def Document.parse (text : Points) : Except Fault Document := Reading.of Reading.document text

-- The type that a text describes.
def TypeRef.parse (text : Points) : Except Fault TypeRef := Reading.of Reading.wholeType text

end DeclSchema.Schema
