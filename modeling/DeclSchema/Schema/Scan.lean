import DeclSchema.Schema.BlockText
import DeclSchema.Schema.Token
import DeclSchema.Text.Digit

/-!
The tokens of a schema text. Blanks, commas, line ends, byte order marks and comments stand
between tokens and are dropped.
-/

namespace DeclSchema.Schema

def isIgnored (c : Char) : Bool :=
  c = ' ' || c = '\t' || c = ',' || c = '\n' || c = '\r' || c = '\ufeff'

def isLineEnd (c : Char) : Bool := c = '\n' || c = '\r'

-- `inComment`: the text begins inside a comment, which ends with its line. Two halves of one
-- character belong to a comment like any character; a half alone ends it.
def skipIgnored (inComment : Bool) : Points → Points
  | .char c :: rest =>
    if inComment then skipIgnored (!isLineEnd c) rest
    else if isIgnored c then skipIgnored false rest
    else if c = '#' then skipIgnored true rest
    else c :: rest
  | .high a :: .low b :: rest =>
    if inComment then skipIgnored true rest else .high a :: .low b :: rest
  | text => text

def isNameStart (c : Char) : Bool := c.isAlpha || c = '_'

def isNamePart (c : Char) : Bool := c.isAlphanum || c = '_'

-- The characters that pass a test, up to the first one that does not.
def charsWhile (p : Char → Bool) (text : Points) : List Char :=
  (text.takeWhile (Point.is p)).filterMap Point.char?

-- The code of what a text begins with.
def codeAt : Points → Option Nat
  | .high a :: .low b :: _ => some (Point.pairCode a b)
  | point :: _ => some point.code
  | [] => none

/-! Numbers. -/

def scanDigits (text : Points) : Except ScanFault (List Char × Points) :=
  match text with
  | .char c :: _ =>
    if c.isDigit then .ok (charsWhile Char.isDigit text, text.dropWhile (Point.is Char.isDigit))
    else .error (.noDigit (some c.toNat))
  | _ => .error (.noDigit (codeAt text))

def scanSign (signs : List Char) (text : Points) : List Char × Points :=
  match text with
  | .char c :: rest => if signs.contains c then ([c], rest) else ([], text)
  | _ => ([], text)

-- A zero is not followed by more digits.
def scanWhole (text : Points) : Except ScanFault (List Char × Points) :=
  match text with
  | .char '0' :: rest =>
    match rest with
    | .char c :: _ => if c.isDigit then .error (.digitAfterZero c) else .ok (['0'], rest)
    | _ => .ok (['0'], rest)
  | _ => scanDigits text

def scanFraction (text : Points) : Except ScanFault (List Char × Points) :=
  match text with
  | .char '.' :: rest => do
    let (digits, rest) ← scanDigits rest
    return ('.' :: digits, rest)
  | _ => .ok ([], text)

def scanExponent (text : Points) : Except ScanFault (List Char × Points) :=
  match text with
  | .char c :: rest =>
    if c = 'e' || c = 'E' then do
      let (sign, rest) := scanSign ['+', '-'] rest
      let (digits, rest) ← scanDigits rest
      return (c :: sign ++ digits, rest)
    else .ok ([], text)
  | _ => .ok ([], text)

-- Neither a point nor a name may touch the end of a number.
def endOfNumber (text : Points) : Except ScanFault Unit :=
  match text with
  | .char c :: _ => if c = '.' || isNameStart c then .error (.noDigit (some c.toNat)) else .ok ()
  | _ => .ok ()

def scanNumber (text : Points) : Except ScanFault (Token × Points) := do
  let (sign, rest) := scanSign ['-'] text
  let (whole, rest) ← scanWhole rest
  let (fraction, rest) ← scanFraction rest
  let (exponent, rest) ← scanExponent rest
  endOfNumber rest
  let written := String.ofList (sign ++ whole ++ fraction ++ exponent)
  if fraction.isEmpty && exponent.isEmpty then return (.integer written, rest)
  else return (.float written, rest)

/-! Strings. -/

def isScalarValue (n : Nat) : Bool := n < 0xD800 || (0xE000 ≤ n && n ≤ 0x10FFFF)

def isHighSurrogate (n : Nat) : Bool := 0xD800 ≤ n && n ≤ 0xDBFF

def isLowSurrogate (n : Nat) : Bool := 0xDC00 ≤ n && n ≤ 0xDFFF

def combineSurrogates (high low : Nat) : Nat := 0x10000 + (high - 0xD800) * 0x400 + (low - 0xDC00)

-- The value of four hexadecimal digits.
def hexCode? (text : Points) : Option Nat :=
  match text with
  | .char a :: .char b :: .char c :: .char d :: _ => do
    let digits ← [a, b, c, d].mapM Text.hexValue?
    return digits.foldl (fun n d => n * 16 + d) 0
  | _ => none

-- A code in braces has at most eight digits. The answer is the code and the number of characters
-- read; a failure tells that number only.
def bracedCode (room code read : Nat) (text : Points) : Except Nat (Nat × Nat) :=
  match room, text with
  | room + 1, .char c :: rest =>
    if c = '}' then
      if read = 0 || !isScalarValue code then .error (read + 1) else .ok (code, read + 1)
    else
      match Text.hexValue? c with
      | some digit => bracedCode room (code * 16 + digit) (read + 1) rest
      | none => .error (read + 1)
  | _ + 1, _ :: _ => .error (read + 1)
  | _, _ => .error read

-- The character that an escape stands for, and how many characters follow the backslash. `text`
-- is what stands behind the backslash.
def scanUnicodeEscape (text : Points) : Except ScanFault (Char × Nat) :=
  match text with
  | .char '{' :: rest =>
    match bracedCode 9 0 0 rest with
    | .ok (code, read) => .ok (Char.ofNat code, read + 2)
    | .error read => .error (.unicodeEscape ('\\' :: 'u' :: '{' :: rest.take read))
  | _ =>
    let refused := Except.error (.unicodeEscape ('\\' :: 'u' :: text.take 4))
    match hexCode? text with
    | none => refused
    | some code =>
      if isScalarValue code then .ok (Char.ofNat code, 5)
      else
        match text.drop 4 with
        | .char '\\' :: .char 'u' :: rest =>
          match hexCode? rest with
          | some low =>
            if isHighSurrogate code && isLowSurrogate low then
              .ok (Char.ofNat (combineSurrogates code low), 11)
            else refused
          | none => refused
        | _ => refused

def escapedChar? : Char → Option Char
  | '"' => some '"'
  | '\\' => some '\\'
  | '/' => some '/'
  | 'b' => some '\x08'
  | 'f' => some '\x0c'
  | 'n' => some '\n'
  | 'r' => some '\r'
  | 't' => some '\t'
  | _ => none

def scanEscape (text : Points) : Except ScanFault (Char × Nat) :=
  match text with
  | .char 'u' :: rest => scanUnicodeEscape rest
  | point :: _ =>
    match point.char?.bind escapedChar? with
    | some value => .ok (value, 1)
    | none => .error (.escape ['\\', point])
  | [] => .error (.escape ['\\'])

-- The value of a string after its opening quote. `skip` characters belong to an escape that has
-- been read. Halves come in pairs only.
def scanString (skip : Nat) (text : Points) : Except ScanFault (Points × Points) :=
  match skip, text with
  | _, [] => .error .unterminated
  | skip + 1, _ :: rest => scanString skip rest
  | 0, .char c :: rest =>
    if c = '"' then .ok ([], rest)
    else if isLineEnd c then .error .unterminated
    else if c = '\\' then do
      let (value, size) ← scanEscape rest
      let (more, rest) ← scanString size rest
      return (.char value :: more, rest)
    else do
      let (more, rest) ← scanString 0 rest
      return (.char c :: more, rest)
  | 0, .high a :: .low b :: rest => do
    let (more, rest) ← scanString 0 rest
    return (.high a :: .low b :: more, rest)
  | 0, half :: _ => .error (.halfInString half.code)

-- The raw text of a block string after its opening quotes; every line end becomes a line feed.
def scanBlock : Points → Except ScanFault (Points × Points)
  | [] => .error .unterminated
  | .char '"' :: .char '"' :: .char '"' :: rest => .ok ([], rest)
  | .char '\\' :: .char '"' :: .char '"' :: .char '"' :: rest => do
    let (more, rest) ← scanBlock rest
    return (.char '"' :: .char '"' :: .char '"' :: more, rest)
  | .char '\r' :: .char '\n' :: rest => do
    let (more, rest) ← scanBlock rest
    return (.char '\n' :: more, rest)
  | .char c :: rest => do
    let (more, rest) ← scanBlock rest
    return (.char (if c = '\r' then '\n' else c) :: more, rest)
  | .high a :: .low b :: rest => do
    let (more, rest) ← scanBlock rest
    return (.high a :: .low b :: more, rest)
  | half :: _ => .error (.halfInString half.code)

def scanQuotation (text : Points) : Except ScanFault (Token × Points) :=
  match text with
  | .char '"' :: .char '"' :: rest => do
    let (raw, rest) ← scanBlock rest
    return (.block (blockValue raw), rest)
  | _ => do
    let (value, rest) ← scanString 0 text
    return (.string value, rest)

/-! All tokens. -/

def symbol? : Char → Option Symbol
  | '!' => some .bang
  | '$' => some .dollar
  | '&' => some .ampersand
  | '(' => some .openParen
  | ')' => some .closeParen
  | ':' => some .colon
  | '=' => some .equals
  | '@' => some .atSign
  | '[' => some .openBracket
  | ']' => some .closeBracket
  | '{' => some .openBrace
  | '|' => some .pipe
  | '}' => some .closeBrace
  | _ => none

def scanDots (text : Points) : Except ScanFault (Token × Points) :=
  match text with
  | .char '.' :: .char '.' :: rest => .ok (.symbol .spread, rest)
  | .char '.' :: _ => .error .twoDots
  | _ =>
    match charsWhile Char.isDigit text with
    | [] => .error (.character '.'.toNat)
    | digits => .error (.leadingPoint digits)

-- The token that begins with `c`.
def scanToken (c : Char) (rest : Points) : Except ScanFault (Token × Points) :=
  match symbol? c with
  | some symbol => .ok (.symbol symbol, rest)
  | none =>
    if isNameStart c then
      .ok (.name (String.ofList (c :: charsWhile isNamePart rest)),
        rest.dropWhile (Point.is isNamePart))
    else if c.isDigit || c = '-' then scanNumber (c :: rest)
    else if c = '"' then scanQuotation rest
    else if c = '.' then scanDots rest
    else if c = '\'' then .error .singleQuote
    else .error (.character c.toNat)

-- No token begins with a half.
def scanPoint (point : Point) (rest : Points) : Except ScanFault (Token × Points) :=
  match point, rest with
  | .char c, _ => scanToken c rest
  | .high a, .low b :: _ => .error (.character (Point.pairCode a b))
  | half, _ => .error (.half half.code)

def tokensWithin : Nat → Points → List Token
  | 0, _ => []
  | steps + 1, text =>
    match skipIgnored false text with
    | [] => []
    | point :: rest =>
      match scanPoint point rest with
      | .ok (token, rest) => token :: tokensWithin steps rest
      | .error fault => [.broken fault]

-- Every token has a character of its own, so there are at most as many tokens as characters.
def tokens (text : Points) : List Token := tokensWithin text.length text

end DeclSchema.Schema
