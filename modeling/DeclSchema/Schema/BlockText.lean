import DeclSchema.Text.Points

/-!
The text of a block string: the indentation that all its lines share is not part of it, nor are
the blank lines at its two ends.
-/

namespace DeclSchema.Schema

def splitLines : Points → List Points
  | [] => [[]]
  | c :: rest =>
    if c = '\n' then [] :: splitLines rest
    else
      match splitLines rest with
      | line :: lines => (c :: line) :: lines
      | [] => [[c]]

def joinLines (lines : List Points) : Points := List.intercalate ['\n'] lines

def isIndent (point : Point) : Bool := point = ' ' || point = '\t'

def indentOf (line : Points) : Nat := (line.takeWhile isIndent).length

def isBlankLine (line : Points) : Bool := line.all isIndent

-- The least indentation of the lines that are not blank.
def sharedIndent (lines : List Points) : Nat :=
  (((lines.filter (!isBlankLine ·)).map indentOf).min?).getD 0

def dropBlankEnds (lines : List Points) : List Points :=
  ((lines.dropWhile isBlankLine).reverse.dropWhile isBlankLine).reverse

-- The first line begins right after the quotes: its indentation counts for nothing.
def dedent : List Points → List Points
  | [] => []
  | first :: rest => dropBlankEnds (first :: rest.map (·.drop (sharedIndent rest)))

def blockValue (text : Points) : Points := joinLines (dedent (splitLines text))

end DeclSchema.Schema
