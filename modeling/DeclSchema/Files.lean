import DeclSchema.Association
import DeclSchema.Files.Path
import DeclSchema.Text.Quoted

/-!
Files and directories. Reading and writing go through paths, and
what goes wrong is told with the path it went wrong at. No name here holds a null character: such a
path is refused before anything is looked up.
-/

namespace DeclSchema.Files

open Association

inductive Entry where
  | file (bytes : List UInt8)
  | directory
deriving DecidableEq

-- Every entry under its segments below the root, which itself is no entry. `here` is the working
-- directory.
structure Tree where
  here : List String
  entries : List (List String × Entry)
deriving DecidableEq

inductive Cause where
  | notFound
  | fileExists
  | notDirectory
  | isDirectory
deriving DecidableEq

def Cause.text : Cause → String
  | notFound => "[Errno 2] No such file or directory"
  | fileExists => "[Errno 17] File exists"
  | notDirectory => "[Errno 20] Not a directory"
  | isDirectory => "[Errno 21] Is a directory"

structure Fault where
  cause : Cause
  path : Path
deriving DecidableEq

def Fault.message (fault : Fault) : String :=
  fault.cause.text ++ ": " ++ Text.quoted fault.path.display

namespace Tree

-- A place and the places above it, the root left out.
def wayTo (place : List String) : List (List String) :=
  (List.range place.length).map fun n => place.take (n + 1)

-- Nothing but the working directory and the directories above it.
def bare (here : List String) : Tree := ⟨here, (wayTo here).map (·, .directory)⟩

def lookup (tree : Tree) (segments : List String) : Option Entry :=
  if segments.isEmpty then some .directory else tree.entries.lookup segments

def put (tree : Tree) (segments : List String) (entry : Entry) : Tree :=
  { tree with entries := Association.put segments entry tree.entries }

-- From a directory to one that it holds, or back to the one that holds it.
def enter (tree : Tree) (directory : List String) (name : String) : Except Cause (List String) :=
  if name = ".." then .ok directory.dropLast
  else
    match tree.lookup (directory ++ [name]) with
    | some .directory => .ok (directory ++ [name])
    | some (.file _) => .error .notDirectory
    | none => .error .notFound

def origin (tree : Tree) : Start → List String
  | .root _ => []
  | _ => tree.here

-- The directory that a list of segments leads to.
def walk (tree : Tree) (start : Start) (segments : List String) : Except Cause (List String) :=
  segments.foldlM tree.enter (tree.origin start)

-- The place of the last segment of a path; none for a path that is a directory by its form.
def locate (tree : Tree) (path : Path) : Except Cause (Option (List String)) :=
  match path.segments.getLast? with
  | none => .ok none
  | some name => do
    let directory ← tree.walk path.start path.segments.dropLast
    if name = ".." then return none else return some (directory ++ [name])

def find (tree : Tree) (path : Path) : Except Cause Entry := do
  match ← tree.locate path with
  | none => return .directory
  | some place =>
    match tree.lookup place with
    | some entry => return entry
    | none => throw .notFound

def isDirectory (tree : Tree) (path : Path) : Bool :=
  match tree.find path with
  | .ok .directory => true
  | _ => false

def read (tree : Tree) (path : Path) : Except Fault (List UInt8) :=
  match tree.find path with
  | .ok (.file bytes) => .ok bytes
  | .ok .directory => .error ⟨.isDirectory, path⟩
  | .error cause => .error ⟨cause, path⟩

-- A directory is made where there is nothing yet, and only in one that exists.
def makeDirectory (tree : Tree) (path : Path) : Except Cause Tree := do
  match ← tree.locate path with
  | none => throw .fileExists
  | some place =>
    match tree.lookup place with
    | some _ => throw .fileExists
    | none => return tree.put place .directory

-- A directory that is there already will do.
def ensureDirectory (tree : Tree) (path : Path) : Except Fault Tree :=
  match tree.makeDirectory path with
  | .ok tree => .ok tree
  | .error cause => if tree.isDirectory path then .ok tree else .error ⟨cause, path⟩

-- A directory with all directories above it. The segments are those of the path from the last to
-- the first. Directories that were made stay, also when one of the later ones cannot be made.
def ensureAll (tree : Tree) (start : Start) : List String → Tree × Option Fault
  | [] =>
    match tree.ensureDirectory ⟨start, []⟩ with
    | .ok tree => (tree, none)
    | .error fault => (tree, some fault)
  | name :: above =>
    let path : Path := ⟨start, (name :: above).reverse⟩
    match tree.ensureDirectory path with
    | .ok tree => (tree, none)
    | .error fault =>
      if fault.cause = .notFound then
        match ensureAll tree start above with
        | (tree, some fault) => (tree, some fault)
        | (tree, none) =>
          match tree.ensureDirectory path with
          | .ok tree => (tree, none)
          | .error fault => (tree, some fault)
      else (tree, some fault)

def store (tree : Tree) (path : Path) (bytes : List UInt8) : Except Fault Tree :=
  match tree.locate path with
  | .error cause => .error ⟨cause, path⟩
  | .ok none => .error ⟨.isDirectory, path⟩
  | .ok (some place) =>
    match tree.lookup place with
    | some .directory => .error ⟨.isDirectory, path⟩
    | _ => .ok (tree.put place (.file bytes))

-- Makes the directories above a file.
def ensureParents (tree : Tree) (path : Path) : Tree × Option Fault :=
  tree.ensureAll path.start path.parent.segments.reverse

-- Writes a file and makes the directories above it.
def write (tree : Tree) (path : Path) (bytes : List UInt8) : Tree × Option Fault :=
  match tree.ensureParents path with
  | (tree, some fault) => (tree, some fault)
  | (tree, none) =>
    match tree.store path bytes with
    | .ok tree => (tree, none)
    | .error fault => (tree, some fault)

-- The entries that are new or not what they were.
def changes (before after : Tree) : List (List String × Entry) :=
  after.entries.filter fun (segments, entry) => before.entries.lookup segments != some entry

-- Of some entries those below the working directory, by their paths and in the order of these.
def listing (tree : Tree) (entries : List (List String × Entry)) : List (String × Entry) :=
  let below := entries.filter fun (segments, _) => tree.here.isPrefixOf segments
  (below.map fun (segments, entry) =>
    ("/".intercalate (segments.drop tree.here.length), entry)).mergeSort fun a b => a.1 ≤ b.1

end Tree

end DeclSchema.Files
