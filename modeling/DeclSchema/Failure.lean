import DeclSchema.Source.Declarations

/-!
Why a conversion ends without a result, and how that is told.
-/

namespace DeclSchema

inductive Failure where
  | general (message : String)
  | reading (path reason : String)
  | source (message : String) (line column : Int)
  | nothing (message : String)
  | schema (message text : Points)
  | writing (path reason : String)
deriving DecidableEq

namespace Failure

def message : Failure → Points
  | general message => message
  | reading path reason => "Error reading " ++ path ++ ": " ++ reason
  | source message line column =>
    message ++ " (line " ++ toString line ++ ", column " ++ toString column ++ ")"
  | nothing message => message
  | schema message _ => message
  | writing path reason => "Error writing " ++ path ++ ": " ++ reason

def noDefinitions : Failure := .nothing "No GraphQL type definitions found in the source."

end Failure

-- A conversion stops with a failure, or with a literal of the source that has no value.
inductive Stop where
  | failure (failure : Failure)
  | fault (fault : Source.Fault)
deriving DecidableEq

def Stop.ofRejection : Source.Rejection → Stop
  | .unreadable text line column => .failure (.source (Source.nearText text) line column)
  | .fault cause => .fault cause

end DeclSchema
