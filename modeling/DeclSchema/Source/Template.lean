import DeclSchema.Number.Numeral
import DeclSchema.Source.Fault
import DeclSchema.Source.Node
import DeclSchema.Text.Bytes
import DeclSchema.Text.Points

/-!
The text of a template: its characters as written, its escape sequences replaced by what they
stand for, and its substitutions left out.
-/

namespace DeclSchema.Source

-- Escapes of a single letter.
def letterEscape : List Char → Option Char
  | ['n'] => some '\n'
  | ['t'] => some '\t'
  | ['r'] => some '\r'
  | ['b'] => some (Char.ofNat 8)
  | ['f'] => some (Char.ofNat 12)
  | ['v'] => some (Char.ofNat 11)
  | ['0'] => some (Char.ofNat 0)
  | _ => none

-- A backslash in front of a line end continues the line.
def isLineEnd (body : List Char) : Bool :=
  body = ['\n'] || body = ['\r', '\n'] || body = ['\r'] || body = [Char.ofNat 0x2028] ||
    body = [Char.ofNat 0x2029]

-- Halves of surrogate pairs have numbers like characters.
def characterOf (code : Int) : Except Fault Point :=
  if code < -2147483648 || code > 2147483647 then .error (.codeTooLarge code)
  else if code < 0 || code > 0x10FFFF then .error (.noCharacter code)
  else .ok (.ofCode code.toNat)

def coded (digits : List Char) : Except Fault Points :=
  match Number.hexadecimal? digits with
  | none => .error (.notNumeral digits)
  | some code => (characterOf code).map ([·])

-- The value of an escape sequence, given without its backslash.
def cookedBody (body : List Char) : Except Fault Points :=
  match letterEscape body with
  | some c => .ok [c]
  | none =>
    match body with
    | 'u' :: '{' :: rest =>
      if rest.getLast? = some '}' then coded rest.dropLast else coded ('{' :: rest)
    | 'u' :: c :: rest => coded (c :: rest)
    | 'x' :: c :: rest => coded (c :: rest)
    | _ => .ok (if isLineEnd body then [] else .ofChars body)

-- The value of an escape sequence; its first character is the backslash.
def cookedEscape (text : List Char) : Except Fault Points := cookedBody (text.drop 1)

def slice (start stop : Nat) (text : List Char) : Except Fault (List Char) :=
  match Text.sliceBytes start stop text with
  | some part => .ok part
  | none => .error .malformed

-- Walks over the children of a template whose text begins at byte `origin` of the source;
-- `position` is the first byte of the text that has not been dealt with. The last byte of the
-- text is the closing mark.
def cookedFrom (origin : Nat) (text : List Char) (position : Nat) :
    List Node → Except Fault Points
  | [] => (slice position (Text.byteLength text - 1) text).map Points.ofChars
  | child :: rest =>
    if child.kind = .escape || child.kind = .substitution then do
      let start := child.place.offset - origin
      let run ← slice position start text
      let value ← if child.kind = .escape then cookedEscape child.text else .ok []
      let more ← cookedFrom origin text (start + Text.byteLength child.text) rest
      return .ofChars run ++ value ++ more
    else cookedFrom origin text position rest

def Node.cooked (template : Node) : Except Fault Points :=
  cookedFrom template.place.offset template.text 1 template.children

end DeclSchema.Source
