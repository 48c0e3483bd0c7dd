import DeclSchema.Text.Points

/-!
How parts of a printed document are put together. Empty parts leave no trace.
-/

namespace DeclSchema.Schema

def joined (separator : String) (parts : List Points) : Points :=
  List.intercalate separator (parts.filter (!·.isEmpty))

def words (parts : List Points) : Points := joined " " parts

-- Text with something before and after it, unless there is no text.
def wrapped (before : String) (text : Points) (after : String) : Points :=
  if text.isEmpty then [] else before ++ text ++ after

def indentPoint (point : Point) : Points := if point = '\n' then ['\n', ' ', ' '] else [point]

-- Every line two blanks further to the right.
def indented (text : Points) : Points := wrapped "  " (text.flatMap indentPoint) ""

-- One item a line, indented, between two marks that have lines of their own.
def stacked (before : String) (items : List Points) (after : String) : Points :=
  wrapped (before ++ "\n") (indented (joined "\n" items)) ("\n" ++ after)

def block (items : List Points) : Points := stacked "\x7b" items "\x7d"

def isMultiline (text : Points) : Bool := text.contains (.char '\n')

-- The length from which on lists and arguments are written one item a line.
def lineLimit : Nat := 80

-- The width from which on a block string has lines of its own.
def blockLimit : Nat := 70

end DeclSchema.Schema
