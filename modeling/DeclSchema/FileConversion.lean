import DeclSchema.Conversion
import DeclSchema.Files
import DeclSchema.Text.Utf8

/-!
Conversion from file to file. Nothing is written unless the whole conversion succeeds.
-/

namespace DeclSchema

open Files

-- The text of a file, with line feeds for line ends.
def readSourceFile (tree : Tree) (path : Path) : Except Failure String :=
  match tree.read path with
  | .error fault => .error (.reading path.display fault.message)
  | .ok bytes =>
    match Text.decode bytes with
    | .error fault => .error (.reading path.display fault.message)
    | .ok text => .ok (String.ofList (Text.unifyLineEnds text))

-- A path with a null character is never looked up.
def loadSource (tree : Tree) (path : Path) : Except Stop String :=
  if path.holdsNull then .error (.fault .nullInName)
  else (readSourceFile tree path).mapError Stop.failure

def writingFailure (path : Path) (fault : Fault) : Failure :=
  .writing path.display fault.message

def makeParents (tree : Tree) (path : Path) : Tree × Option Failure :=
  let (tree, fault) := tree.ensureParents path
  (tree, fault.map (writingFailure path))

def writeSchemaFile (tree : Tree) (path : Path) (text : String) : Tree × Option Failure :=
  let (tree, fault) := tree.write path (Text.encode text)
  (tree, fault.map (writingFailure path))

-- An attempt that, where the system does not fail it, comes upon a fault.
def Stop.after (attempt : Tree × Option Failure) (fault : Option Source.Fault) :
    Tree × Option Stop :=
  (attempt.1, (attempt.2.map Stop.failure).or (fault.map Stop.fault))

-- The names of the directories are looked at before any of them is made, the name of the file when
-- they are there, and its text when the file has been opened and has lost what it held.
def saveSchema (tree : Tree) (path : Path) (text : Points) : Tree × Option Stop :=
  if path.parent.holdsNull then (tree, some (.fault .nullInName))
  else if path.holdsNull then Stop.after (makeParents tree path) (some .nullInName)
  else
    match text.string? with
    | some text => Stop.after (writeSchemaFile tree path text) none
    | none => Stop.after (writeSchemaFile tree path "") (some .unencodable)

-- Where a schema is to be written, and how that place is called in messages.
structure Destination where
  path : Path
  title : String

def convertTree (finish : Finish) (input : Path) (tree : Tree) : Traced Stop Conversion := do
  let source ← Traced.ofExcept (loadSource tree input)
  convert finish source

-- The files after a conversion, and its outcome.
def convertFile (finish : Finish) (input : Path) (output : Option Destination) (tree : Tree) :
    Tree × Traced Stop Conversion :=
  let run := convertTree finish input tree
  match output, run.outcome with
  | some destination, .ok conversion =>
    let (tree, stop) := saveSchema tree destination.path conversion.sdl
    (tree, do
      let conversion ← run
      match stop with
      | some stop => throw stop
      | none =>
        Traced.write .info .pipeline ("Wrote schema to " ++ destination.title)
        return conversion)
  | _, _ => (tree, run)

end DeclSchema
