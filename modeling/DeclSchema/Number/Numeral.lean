import DeclSchema.Number.Double
import DeclSchema.Text.Blank
import DeclSchema.Text.Digit

/-!
Numerals: integers in a stated base or in the base that their spelling shows, and decimal
fractions. A decimal integer may have at most 4300 digits; a longer one is a fraction, as is one
with a zero in front.
-/

namespace DeclSchema.Number

inductive Numeral where
  | integer (value : Int)
  | float (value : Double)
deriving DecidableEq

-- Digits of other scripts count as the digits they stand for, and blanks beyond ASCII as spaces.
def plain (c : Char) : Char :=
  if c.toNat < 128 then c
  else if Text.isBlank c then ' '
  else match Text.digitValue? c with
    | some d => Char.ofNat (0x30 + d)
    | none => '?'

def isSpace (c : Char) : Bool := c = ' ' || (9 ≤ c.toNat && c.toNat ≤ 13)

def trimmed (text : List Char) : List Char :=
  (((text.map plain).dropWhile isSpace).reverse.dropWhile isSpace).reverse

def signed (text : List Char) : Bool × List Char :=
  match text with
  | '-' :: rest => (true, rest)
  | '+' :: rest => (false, rest)
  | _ => (false, text)

def digitIn (base : Nat) (c : Char) : Option Nat :=
  let value :=
    if c.isDigit then c.toNat - 0x30
    else if 'a' ≤ c && c ≤ 'z' then c.toNat - 0x61 + 10
    else if 'A' ≤ c && c ≤ 'Z' then c.toNat - 0x41 + 10
    else 36
  if value < base then some value else none

-- The digits with single underscores between them taken out.
def unseparated : List Char → Option (List Char)
  | [] => some []
  | '_' :: '_' :: _ => none
  | ['_'] => none
  | '_' :: c :: rest => (unseparated rest).map (c :: ·)
  | c :: rest => (unseparated rest).map (c :: ·)

def value (base : Nat) (digits : List Char) : Option Nat :=
  digits.foldlM (fun sum c => (digitIn base c).map (sum * base + ·)) 0

def longestDecimal : Nat := 4300

-- An unsigned integer of the given base, with or without underscores between its digits.
def natural? (base : Nat) (text : List Char) : Option Nat := do
  let digits ← if text.head? = some '_' then none else unseparated text
  if digits.isEmpty || (base = 10 && digits.length > longestDecimal) then none
  else value base digits

-- The base that a mark in front of the digits shows.
def markedBase (c : Char) : Option Nat :=
  if c = 'x' || c = 'X' then some 16
  else if c = 'o' || c = 'O' then some 8
  else if c = 'b' || c = 'B' then some 2
  else none

def afterMark (rest : List Char) : List Char :=
  match rest with
  | '_' :: more => more
  | _ => rest

-- An unsigned integer in the base that its spelling shows.
def marked? (text : List Char) : Option Nat :=
  match text with
  | '0' :: c :: rest =>
    match markedBase c with
    | some base => natural? base (afterMark rest)
    | none => (natural? 10 text).filter (· = 0)
  | _ => natural? 10 text

def withSign (negative : Bool) (n : Nat) : Int := if negative then -(n : Int) else n

def integer? (text : List Char) : Option Int :=
  let (negative, body) := signed (trimmed text)
  (marked? body).map (withSign negative)

-- An integer of base sixteen, with or without the mark of that base.
def hexadecimal? (text : List Char) : Option Int :=
  let (negative, body) := signed (trimmed text)
  let digits := match body with
    | '0' :: c :: rest => if markedBase c = some 16 then afterMark rest else body
    | _ => body
  (natural? 16 digits).map (withSign negative)

def lowered (text : List Char) : String := String.ofList (text.map Char.toLower)

def unsignedFloat? (negative : Bool) (text : List Char) : Option Double :=
  let whole := text.takeWhile Char.isDigit
  let rest := text.dropWhile Char.isDigit
  let (places, rest) := match rest with
    | '.' :: more => (more.takeWhile Char.isDigit, more.dropWhile Char.isDigit)
    | _ => ([], rest)
  let scale : Option Int := match rest with
    | [] => some 0
    | e :: more =>
      let (down, digits) := signed more
      if (e = 'e' || e = 'E') && !digits.isEmpty && digits.all Char.isDigit then
        (value 10 digits).map (withSign down)
      else none
  if whole.isEmpty && places.isEmpty then none
  else do
    let scale ← scale
    let digits ← value 10 (whole ++ places)
    return Double.ofDecimal negative digits (scale - places.length)

def float? (text : List Char) : Option Double :=
  let (negative, body) := signed (trimmed text)
  if lowered body = "inf" || lowered body = "infinity" then some (.infinity negative)
  else if lowered body = "nan" then some (.nan negative)
  else unsignedFloat? negative body

-- A numeral of the source: underscores and spaces are dropped, and so is the mark of a big
-- integer behind it.
def Numeral.read? (text : List Char) : Option Numeral :=
  let kept := text.filter fun c => c != '_' && c != ' '
  let body := (kept.reverse.dropWhile (· = 'n')).reverse
  match integer? body with
  | some n => some (.integer n)
  | none => (float? body).map .float

end DeclSchema.Number
