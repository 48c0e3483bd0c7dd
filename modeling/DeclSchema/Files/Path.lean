/-!
Paths of files. Empty segments and single dots mean nothing and are left out; two dots are kept,
because only the files tell where they lead.
-/

namespace DeclSchema.Files

-- Where a path begins: in the working directory, in the working directory by its full name, or
-- at the root.
inductive Start where
  | here
  | directory (name : String)
  | root (slashes : String)
deriving DecidableEq

structure Path where
  start : Start
  segments : List String
deriving DecidableEq

namespace Path

def splitSlashes (text : String) : List String :=
  (text.toList.foldr (fun c parts =>
    match parts with
    | part :: more => if c = '/' then [] :: part :: more else (c :: part) :: more
    | [] => [[c]]) [[]]).map String.ofList

-- Exactly two slashes in front are not the same as one.
def startOf (text : String) : Start :=
  match (text.toList.takeWhile (· = '/')).length with
  | 0 => .here
  | 2 => .root "//"
  | _ => .root "/"

def of (text : String) : Path :=
  ⟨startOf text, (splitSlashes text).filter fun part => part != "" && part != "."⟩

def display (path : Path) : String :=
  let below := "/".intercalate path.segments
  match path.start with
  | .here => if path.segments.isEmpty then "." else below
  | .directory name => if path.segments.isEmpty then name else name ++ "/" ++ below
  | .root slashes => slashes ++ below

-- The system takes no name with a null character in it.
def holdsNull (path : Path) : Bool := path.segments.any fun name => name.toList.contains '\x00'

def parent (path : Path) : Path := { path with segments := path.segments.dropLast }

-- Two dots take back the segment in front of them.
def collapse (segments : List String) : List String :=
  segments.foldl (fun kept part => if part = ".." then kept.dropLast else kept ++ [part]) []

-- The full path of a path, where `here` is the working directory and `directory` its full name.
def resolve (here : List String) (directory : String) (path : Path) : Path :=
  match path.start with
  | .root slashes => ⟨.root slashes, collapse path.segments⟩
  | _ =>
    let place := collapse (here ++ path.segments)
    if here.isPrefixOf place then ⟨.directory directory, place.drop here.length⟩
    else ⟨.root "/", place⟩

end Path

end DeclSchema.Files
