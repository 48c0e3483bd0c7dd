import DeclSchema.Text.Points

/-!
Comment headers in front of a schema text.
-/

namespace DeclSchema.Header

-- What ends a line of a header. A carriage return and a line feed end it together.
def isSeparator (c : Char) : Bool :=
  let n := c.toNat
  (0xA ≤ n && n ≤ 0xD) || (0x1C ≤ n && n ≤ 0x1E) || n = 0x85 || n = 0x2028 || n = 0x2029

-- A separator at the very end begins no further line.
def lines : List Char → List (List Char)
  | [] => []
  | '\r' :: '\n' :: rest => [] :: lines rest
  | c :: rest =>
    if isSeparator c then [] :: lines rest
    else
      match lines rest with
      | [] => [[c]]
      | line :: more => (c :: line) :: more

def dropFinalLineFeeds (text : List Char) : List Char :=
  (text.reverse.dropWhile (· = '\n')).reverse

-- A line that is no comment yet becomes one.
def commented (line : List Char) : List Char :=
  match line with
  | '#' :: _ => line
  | _ => Text.trimEnd ('#' :: ' ' :: line)

-- An empty line keeps the header and the schema apart.
def add (header : String) (text : Points) : Points :=
  let comments := (lines (dropFinalLineFeeds header.toList)).map commented
  .ofChars (['\n'].intercalate comments) ++ "\n\n" ++ text

end DeclSchema.Header
