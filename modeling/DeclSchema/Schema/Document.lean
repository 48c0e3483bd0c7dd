import DeclSchema.Text.Points

/-!
Schema documents: the definitions of a schema language text, without their places in it.
-/

namespace DeclSchema.Schema

-- A string as written: `block` tells the two kinds of quotes apart.
structure Quotation where
  value : Points
  block : Bool
deriving DecidableEq

inductive Value where
  | variable (name : String)
  | integer (text : String)
  | float (text : String)
  | string (quotation : Quotation)
  | boolean (value : Bool)
  | null
  | enumeration (name : String)
  | list (items : List Value)
  | object (fields : List (String × Value))

structure Argument where
  name : String
  value : Value

structure Directive where
  name : String
  arguments : List Argument

inductive TypeRef where
  | named (name : String)
  | list (element : TypeRef)
  | nonNull (type : TypeRef)
deriving DecidableEq

-- A type without its list and non-null marks.
def TypeRef.baseName : TypeRef → String
  | named name => name
  | list element => element.baseName
  | nonNull type => type.baseName

-- An argument of a field or a field of an input type.
structure InputValue where
  description : Option Quotation
  name : String
  type : TypeRef
  default : Option Value
  directives : List Directive

structure Field where
  description : Option Quotation
  name : String
  arguments : List InputValue
  type : TypeRef
  directives : List Directive

structure EnumValue where
  description : Option Quotation
  name : String
  directives : List Directive

inductive Operation where
  | query
  | mutation
  | subscription
deriving DecidableEq

def Operation.name : Operation → String
  | query => "query"
  | mutation => "mutation"
  | subscription => "subscription"

structure RootType where
  operation : Operation
  type : String

structure VariableDefinition where
  description : Option Quotation
  name : String
  type : TypeRef
  default : Option Value
  directives : List Directive

inductive Selection where
  -- Without a selection set of its own a field is a leaf.
  | leaf (label : Option String) (name : String) (arguments : List Argument)
      (directives : List Directive)
  | branch (label : Option String) (name : String) (arguments : List Argument)
      (directives : List Directive) (selections : List Selection)
  | spread (name : String) (directives : List Directive)
  | inline (condition : Option String) (directives : List Directive)
      (selections : List Selection)

-- Object types and interfaces.
structure ObjectType where
  description : Option Quotation
  name : String
  interfaces : List String
  directives : List Directive
  fields : List Field

structure InputType where
  description : Option Quotation
  name : String
  directives : List Directive
  fields : List InputValue

inductive Extension where
  | schema (directives : List Directive) (roots : List RootType)
  | scalar (name : String) (directives : List Directive)
  | object (name : String) (interfaces : List String) (directives : List Directive)
      (fields : List Field)
  | interface (name : String) (interfaces : List String) (directives : List Directive)
      (fields : List Field)
  | union (name : String) (directives : List Directive) (members : List String)
  | enumeration (name : String) (directives : List Directive) (values : List EnumValue)
  | input (name : String) (directives : List Directive) (fields : List InputValue)
  | directive (name : String) (directives : List Directive)

inductive Definition where
  | operation (description : Option Quotation) (operation : Operation) (name : Option String)
      (parameters : List VariableDefinition) (directives : List Directive)
      (selections : List Selection)
  | fragment (description : Option Quotation) (name : String) (condition : String)
      (directives : List Directive) (selections : List Selection)
  | schema (description : Option Quotation) (directives : List Directive) (roots : List RootType)
  | scalar (description : Option Quotation) (name : String) (directives : List Directive)
  | object (type : ObjectType)
  | interface (type : ObjectType)
  | union (description : Option Quotation) (name : String) (directives : List Directive)
      (members : List String)
  | enumeration (description : Option Quotation) (name : String) (directives : List Directive)
      (values : List EnumValue)
  | input (type : InputType)
  | directive (description : Option Quotation) (name : String) (arguments : List InputValue)
      (directives : List Directive) (repeatable : Bool) (locations : List String)
  | extension (extension : Extension)

structure Document where
  definitions : List Definition

namespace Extension

def name? : Extension → Option String
  | schema _ _ => none
  | scalar name _ => some name
  | object name _ _ _ => some name
  | interface name _ _ _ => some name
  | union name _ _ => some name
  | enumeration name _ _ => some name
  | input name _ _ => some name
  | directive name _ => some name

end Extension

namespace Definition

def name? : Definition → Option String
  | operation _ _ name _ _ _ => name
  | fragment _ name _ _ _ => some name
  | schema _ _ _ => none
  | scalar _ name _ => some name
  | object type => some type.name
  | interface type => some type.name
  | union _ name _ _ => some name
  | enumeration _ name _ _ => some name
  | input type => some type.name
  | directive _ name _ _ _ _ => some name
  | extension e => e.name?

-- The object type of that exact name.
def isObjectNamed (name : String) : Definition → Bool
  | object type => type.name = name
  | _ => false

end Definition

end DeclSchema.Schema
