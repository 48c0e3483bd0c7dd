import DeclSchema.Text.Points
import DeclSchema.Text.Quoted

/-!
Tokens of schema texts and how messages show them.
-/

namespace DeclSchema.Schema

inductive Symbol where
  | bang
  | dollar
  | ampersand
  | openParen
  | closeParen
  | spread
  | colon
  | equals
  | atSign
  | openBracket
  | closeBracket
  | openBrace
  | pipe
  | closeBrace
deriving DecidableEq

def Symbol.text : Symbol → String
  | bang => "!"
  | dollar => "$"
  | ampersand => "&"
  | openParen => "("
  | closeParen => ")"
  | spread => "..."
  | colon => ":"
  | equals => "="
  | atSign => "@"
  | openBracket => "["
  | closeBracket => "]"
  | openBrace => "\x7b"
  | pipe => "|"
  | closeBrace => "\x7d"

-- Why a token cannot be read. Characters are told by their codes, two halves that belong together
-- by the code of the character they make; a missing code is the end of the text.
inductive ScanFault where
  | character (code : Nat)
  -- Half a character, between tokens or in a string.
  | half (code : Nat)
  | halfInString (code : Nat)
  | singleQuote
  | twoDots
  | leadingPoint (digits : List Char)
  | digitAfterZero (c : Char)
  | noDigit (found : Option Nat)
  | unterminated
  | unicodeEscape (text : Points)
  | escape (text : Points)
deriving DecidableEq

inductive Token where
  | symbol (symbol : Symbol)
  | name (text : String)
  | integer (text : String)
  | float (text : String)
  | string (value : Points)
  | block (value : Points)
  -- Text that is no token. Nothing follows it, and whoever reaches it fails.
  | broken (fault : ScanFault)
deriving DecidableEq

namespace Token

-- The text of a token that has one; names and strings are not told apart by it.
def text? : Token → Option Points
  | symbol _ => none
  | name text => some text
  | integer text => some text
  | float text => some text
  | string value => some value
  | block value => some value
  | broken _ => none

end Token

-- The end of a text counts as a token that has no text.
def describe : Option Token → Points
  | none => "<EOF>"
  | some (.symbol symbol) => "'" ++ symbol.text ++ "'"
  | some (.name text) => "Name '" ++ text ++ "'"
  | some (.integer text) => "Int '" ++ text ++ "'"
  | some (.float text) => "Float '" ++ text ++ "'"
  | some (.string value) => "String '" ++ value ++ "'"
  | some (.block value) => "BlockString '" ++ value ++ "'"
  | some (.broken _) => "<EOF>"

-- Visible characters stand in quotes, all others are shown by their code.
def describeCode : Option Nat → String
  | none => "<EOF>"
  | some code =>
    if 0x20 ≤ code && code ≤ 0x7E then String.ofList ['\'', Char.ofNat code, '\'']
    else "U+" ++ (String.ofList (Text.hexDigits 4 code)).map Char.toUpper

def ScanFault.message : ScanFault → Points
  | character code => "Unexpected character: " ++ describeCode (some code) ++ "."
  | half code => "Invalid character: " ++ describeCode (some code) ++ "."
  | halfInString code => "Invalid character within String: " ++ describeCode (some code) ++ "."
  | singleQuote =>
    "Unexpected single quote character ('), did you mean to use a double quote (\")?"
  | twoDots => "Unexpected '..', did you mean '...'?"
  | leadingPoint digits =>
    "Invalid number, expected digit before '.', did you mean '0." ++ String.ofList digits ++ "'?"
  | digitAfterZero c =>
    "Invalid number, unexpected digit after 0: " ++ describeCode (some c.toNat) ++ "."
  | noDigit found => "Invalid number, expected digit but got: " ++ describeCode found ++ "."
  | unterminated => "Unterminated string."
  | unicodeEscape text => "Invalid Unicode escape sequence: '" ++ text ++ "'."
  | escape text => "Invalid character escape sequence: '" ++ text ++ "'."

end DeclSchema.Schema
