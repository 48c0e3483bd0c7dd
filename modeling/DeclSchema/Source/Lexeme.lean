/-!
Lexemes of TypeScript as lengths: each recogniser looks at the text ahead and says how many
characters its lexeme takes, zero when there is none.
-/

namespace DeclSchema.Source.Lexeme

/-! ### Runs of pieces -/

-- A run takes one piece after another for as long as `piece` sees one. The first argument counts
-- the characters of the current piece that are still to be taken.
def run (piece : List Char → Nat) : Nat → List Char → Nat
  | _, [] => 0
  | pending + 1, _ :: rest => 1 + run piece pending rest
  | 0, c :: rest =>
    match piece (c :: rest) with
    | 0 => 0
    | n + 1 => 1 + run piece n rest

def runOf (p : Char → Bool) (text : List Char) : Nat := (text.takeWhile p).length

/-! ### Blanks and comments -/

-- Zs of Unicode, the ASCII blanks, and the invisible separators that the language lets pass.
def isBlank (c : Char) : Bool :=
  let n := c.toNat
  (9 ≤ n && n ≤ 13) || n = 0x20 || n = 0xA0 || n = 0x1680 || (0x2000 ≤ n && n ≤ 0x200B) ||
    n = 0x2028 || n = 0x2029 || n = 0x202F || n = 0x205F || n = 0x2060 || n = 0x3000 || n = 0xFEFF

def endsLine (c : Char) : Bool :=
  c = '\n' || c = '\r' || c.toNat = 0x2028 || c.toNat = 0x2029

-- Characters up to and with the closing mark of a block comment; none when it is never closed.
def blockComment : List Char → Option Nat
  | [] => none
  | '*' :: '/' :: _ => some 2
  | _ :: rest => (blockComment rest).map (· + 1)

-- Comments of both usual kinds. The language knows a third one, for scripts in old pages, that runs
-- from `<!--` or `-->` to the end of its line; its marks are read as operators here.
def comment : List Char → Nat
  | '/' :: '/' :: rest => 2 + runOf (fun c => !endsLine c) rest
  | '/' :: '*' :: rest => ((blockComment rest).map (· + 2)).getD 0
  | _ => 0

/-! ### Names -/

def isNamePart (c : Char) : Bool :=
  c.toNat > 0x1F && !isBlank c &&
    !(c = ':' || c = ';' || c = '`' || c = '"' || c = '\'' || c = '@' || c = '#' || c = '.' ||
      c = ',' || c = '|' || c = '^' || c = '&' || c = '<' || c = '=' || c = '>' || c = '+' ||
      c = '-' || c = '*' || c = '/' || c = '\\' || c = '%' || c = '?' || c = '!' || c = '~' ||
      c = '(' || c = ')' || c = '[' || c = ']' || c = '{' || c = '}')

def isHexDigit (c : Char) : Bool :=
  c.isDigit || ('a' ≤ c && c ≤ 'f') || ('A' ≤ c && c ≤ 'F')

-- Length of a Unicode escape, four digits or any number of them in braces, after the letter u.
def codePoint : List Char → Nat
  | '{' :: rest =>
    let digits := runOf isHexDigit rest
    if digits > 0 && (rest.drop digits).head? = some '}' then digits + 2 else 0
  | a :: b :: c :: d :: _ =>
    if isHexDigit a && isHexDigit b && isHexDigit c && isHexDigit d then 4 else 0
  | _ => 0

def namePiece : List Char → Nat
  | '\\' :: 'u' :: rest =>
    match codePoint rest with
    | 0 => 0
    | n => n + 2
  | c :: _ => if isNamePart c then 1 else 0
  | [] => 0

def name (text : List Char) : Nat :=
  match text with
  | [] => 0
  | c :: _ => if c.isDigit then 0 else run namePiece 0 text

/-! ### Numbers -/

-- Digits with single underscores between them.
def digits (isDigit : Char → Bool) (text : List Char) : Nat :=
  match text with
  | [] => 0
  | c :: _ =>
    if isDigit c then
      run (fun
        | '_' :: d :: _ => if isDigit d then 2 else 0
        | d :: _ => if isDigit d then 1 else 0
        | [] => 0) 0 text
    else 0

def isOctal (c : Char) : Bool := '0' ≤ c && c ≤ '7'
def isBinary (c : Char) : Bool := c = '0' || c = '1'

def exponent : List Char → Nat
  | e :: rest =>
    if e = 'e' || e = 'E' then
      let sign := match rest with
        | '+' :: _ => 1
        | '-' :: _ => 1
        | _ => 0
      match digits Char.isDigit (rest.drop sign) with
      | 0 => 0
      | n => 1 + sign + n
    else 0
  | [] => 0

-- The integer part that a point or an exponent may follow: at most one zero in front.
def integerPart (text : List Char) : Nat :=
  match text with
  | '0' :: c :: rest =>
    if c != '0' && c.isDigit then 2 + separated rest else 1
  | c :: rest => if c = '0' then 1 else if c.isDigit then 1 + separated rest else 0
  | [] => 0
where
  separated (rest : List Char) : Nat :=
    match rest with
    | '_' :: more => match digits Char.isDigit more with
      | 0 => 0
      | n => n + 1
    | _ => digits Char.isDigit rest

def decimal (text : List Char) : Nat :=
  let whole := integerPart text
  let after := text.drop whole
  let pointed := match after with
    | '.' :: rest =>
      let places := digits Char.isDigit rest
      let size := whole + 1 + places
      if whole > 0 || places > 0 then size + exponent (rest.drop places) else 0
    | _ => 0
  let scaled := if whole > 0 then
      match exponent after with
      | 0 => 0
      | n => whole + n
    else 0
  max pointed (max scaled (digits Char.isDigit text))

def based (isDigit : Char → Bool) (rest : List Char) : Nat :=
  match digits isDigit rest with
  | 0 => 0
  | n => n + 2

def integer (text : List Char) : Nat :=
  match text with
  | '0' :: m :: rest =>
    if m = 'x' || m = 'X' then based isHexDigit rest
    else if m = 'o' || m = 'O' then based isOctal rest
    else if m = 'b' || m = 'B' then based isBinary rest
    else digits Char.isDigit text
  | _ => digits Char.isDigit text

def number (text : List Char) : Nat :=
  let whole := integer text
  let big := if whole > 0 && (text.drop whole).head? = some 'n' then whole + 1 else whole
  max big (decimal text)

/-! ### Strings, escapes and regular expressions -/

-- An escape sequence with its backslash.
def escape : List Char → Nat
  | '\\' :: c :: rest =>
    if c = 'x' then
      match rest with
      | a :: b :: _ => if isHexDigit a && isHexDigit b then 4 else 0
      | _ => 0
    else if c = 'u' then
      match codePoint rest with
      | 0 => 0
      | n => n + 2
    else if isOctal c then 2 + min 2 (runOf isOctal rest)
    else if c = '\r' || c = '?' then
      match rest with
      | d :: _ => if d = '\n' || d.toNat = 0x2028 || d.toNat = 0x2029 then 3 else 2
      | [] => 2
    else 2
  | _ => 0

def stringPiece (quote : Char) (text : List Char) : Nat :=
  match text with
  | [] => 0
  | c :: _ =>
    if c = '\\' then escape text
    else if c = quote || c = '\r' || c = '\n' then 0
    else 1

def string : List Char → Nat
  | q :: rest =>
    if q = '"' || q = '\'' then
      let body := run (stringPiece q) 0 rest
      if (rest.drop body).head? = some q then body + 2 else 0
    else 0
  | [] => 0

def regexClassPiece : List Char → Nat
  | '\\' :: c :: _ => if c = '\n' then 0 else 2
  | c :: _ => if c = ']' || c = '\n' || c = '\\' then 0 else 1
  | [] => 0

def regexPiece : List Char → Nat
  | '\\' :: c :: _ => if c = '\n' then 0 else 2
  | '[' :: rest =>
    let body := run regexClassPiece 0 rest
    if (rest.drop body).head? = some ']' then body + 2 else 0
  | c :: _ => if c = '/' || c = '\n' || c = '\\' then 0 else 1
  | [] => 0

def regex : List Char → Nat
  | '/' :: rest =>
    let body := run regexPiece 0 rest
    if body > 0 && (rest.drop body).head? = some '/' then
      body + 2 + runOf (fun c => 'a' ≤ c && c ≤ 'z') (rest.drop (body + 1))
    else 0
  | _ => 0

/-! ### Element text -/

def elementText (text : List Char) : Nat :=
  runOf (fun c => c != '<' && c != '>' && c != '{' && c != '}' && c != '&' && c.toNat != 0) text

-- A character reference such as an ampersand, a name and a semicolon.
def reference : List Char → Nat
  | '&' :: rest =>
    let size := match rest with
      | '#' :: 'x' :: more => 2 + runOf isHexDigit more
      | '#' :: 'X' :: more => 2 + runOf isHexDigit more
      | '#' :: more => 1 + runOf Char.isDigit more
      | _ => runOf Char.isAlphanum rest
    if (rest.drop size).head? = some ';' then size + 2 else 0
  | _ => 0

-- Names of elements and attributes may hold hyphens.
def elementName (text : List Char) : Nat :=
  match name text with
  | 0 => 0
  | _ => run (fun
    | '-' :: _ => 1
    | more => namePiece more) 0 text

end DeclSchema.Source.Lexeme
