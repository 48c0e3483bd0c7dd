import DeclSchema.Text.Printable

/-!
Texts in quotes, as messages show them: in single quotes, or in double quotes when the text holds
a single and no double one; backslash and quote escaped, and what cannot be printed written as
its code.
-/

namespace DeclSchema.Text

def quoteFor (text : List Char) : Char :=
  if text.contains '\'' && !text.contains '"' then '"' else '\''

def hexDigits (width : Nat) (n : Nat) : List Char :=
  let digits := Nat.toDigits 16 n
  List.replicate (width - digits.length) '0' ++ digits

def codeEscape (c : Char) : List Char :=
  let n := c.toNat
  if n < 0x100 then '\\' :: 'x' :: hexDigits 2 n
  else if n < 0x10000 then '\\' :: 'u' :: hexDigits 4 n
  else '\\' :: 'U' :: hexDigits 8 n

def quotedChar (quote c : Char) : List Char :=
  if c = quote || c = '\\' then ['\\', c]
  else if c = '\n' then ['\\', 'n']
  else if c = '\r' then ['\\', 'r']
  else if c = '\t' then ['\\', 't']
  else if isPrintable c then [c]
  else codeEscape c

def quotedList (text : List Char) : List Char :=
  let quote := quoteFor text
  quote :: text.flatMap (quotedChar quote) ++ [quote]

def quoted (text : String) : String := String.ofList (quotedList text.toList)

end DeclSchema.Text
