import DeclSchema.Schema.Token

/-!
Why a schema text is refused. The reader stops at the first fault.
-/

namespace DeclSchema.Schema

-- What a rule asks for at its next token.
inductive Wanted where
  | symbol (symbol : Symbol)
  | name
  | keyword (word : String)
  | ending
deriving DecidableEq

def Wanted.describe : Wanted → String
  | symbol mark => "'" ++ mark.text ++ "'"
  | name => "Name"
  | keyword text => "'" ++ text ++ "'"
  | ending => "<EOF>"

inductive Fault where
  | scan (fault : ScanFault)
  | expected (wanted : Wanted) (found : Option Token)
  | unexpected (found : Option Token)
  | variableInConstant (name : String)
  | reservedValue (found : Option Token)
  | describedSelection
  | describedUnknown
  | tooDeep
deriving DecidableEq

namespace Fault

def cause : Fault → Points
  | scan fault => fault.message
  | expected wanted found =>
    "Expected " ++ wanted.describe ++ ", found " ++ Schema.describe found ++ "."
  | unexpected found => "Unexpected " ++ Schema.describe found ++ "."
  | variableInConstant name => "Unexpected variable '$" ++ name ++ "' in constant value."
  | reservedValue found =>
    Schema.describe found ++ " is reserved and cannot be used for an enum value."
  | describedSelection =>
    "Unexpected description, descriptions are not supported on shorthand queries."
  | describedUnknown => "Unexpected description, only GraphQL definitions support descriptions."
  | tooDeep => "Document is nested too deeply. Parsing aborted."

def message (fault : Fault) : Points := "Syntax Error: " ++ fault.cause

end Fault

end DeclSchema.Schema
