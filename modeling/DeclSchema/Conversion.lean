import DeclSchema.Assembly
import DeclSchema.Extraction
import DeclSchema.Finish
import DeclSchema.Schema.Reading.Definitions

/-!
From a source text to the text of its schema.
-/

namespace DeclSchema

open Schema

structure Conversion where
  extraction : Extraction
  document : Document
  sdl : Points
  bound : List String
  reclassified : List String
  pruned : List String

def readSchema (text : Points) : Except Failure Document :=
  match Document.parse text with
  | .ok document => .ok document
  | .error fault => .error (.schema ("Generated schema is not valid SDL: " ++ fault.message) text)

-- The definitions are assembled, filtered and printed.
def Extraction.complete (extraction : Extraction) (finish : Finish) (document : Document) :
    Logged Conversion := do
  let state ← Assembly.run document
  let chosen := finish.onDocument state.document
  return ⟨extraction, chosen, finish.onText (chosen.print ++ "\n"), state.bound,
    state.reclassified, state.pruned⟩

def convert (finish : Finish) (source : String) : Traced Stop Conversion := do
  let declarations ← ExceptT.adapt Stop.ofRejection (Source.readSource source)
  Traced.write .debug .pipeline ("Read " ++ toString declarations.length ++ " declarations")
  let extraction ← ExceptT.adapt Stop.failure (extract declarations)
  let document ← ExceptT.adapt Stop.failure (Traced.ofExcept (readSchema extraction.schemaText))
  Traced.ofLogged (extraction.complete finish document)

end DeclSchema
