import DeclSchema.Command

/-!
The program: the command line run on the files of the machine.
-/

namespace DeclSchema.Program

open Files

-- What stands under a full path.
def entry? (path : String) : IO (Option Entry) := do
  try
    let full ← IO.FS.realPath path
    if ← full.isDir then return some .directory
    else return some (.file (← IO.FS.readBinFile full).toList)
  catch _ => return none

def fullPath (segments : List String) : String := "/" ++ "/".intercalate segments

-- Adds to a tree all that stands on the way to a place.
def load (tree : Tree) (place : List String) : IO Tree :=
  (Tree.wayTo place).foldlM (fun tree segments => do
    match ← entry? (fullPath segments) with
    | some entry => return tree.put segments entry
    | none => return tree) tree

def store (change : List String × Entry) : IO Unit :=
  match change with
  | (segments, .directory) => IO.FS.createDirAll (fullPath segments)
  | (segments, .file bytes) => IO.FS.writeBinFile (fullPath segments) ⟨bytes.toArray⟩

def run (arguments : List String) : IO UInt32 := do
  let directory := (← IO.currentDir).toString
  let start := Tree.bare (Path.of directory).segments
  let places := (Command.paths arguments).map fun path =>
    Path.collapse (start.origin path.start ++ path.segments)
  let tree ← places.foldlM load start
  let result := Command.run directory arguments tree
  (tree.changes result.tree).forM store
  IO.eprint result.err
  IO.print result.out
  return UInt32.ofNat result.exitCode

end DeclSchema.Program

def main (arguments : List String) : IO UInt32 := DeclSchema.Program.run arguments
