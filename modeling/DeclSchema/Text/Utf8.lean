import DeclSchema.Text.Quoted

/-!
Texts as bytes in UTF-8, and why bytes are no text.
-/

namespace DeclSchema.Text

def encode (text : String) : List UInt8 := text.toList.flatMap String.utf8EncodeChar

inductive DecodeReason where
  | invalidStart
  | invalidContinuation
  | unexpectedEnd
deriving DecidableEq

def DecodeReason.text : DecodeReason → String
  | invalidStart => "invalid start byte"
  | invalidContinuation => "invalid continuation byte"
  | unexpectedEnd => "unexpected end of data"

-- The bytes from `position` on that are no character, `size` of them.
structure DecodeFault where
  byte : UInt8
  position : Nat
  size : Nat
  reason : DecodeReason
deriving DecidableEq

def isContinuation (b : UInt8) : Bool := 0x80 ≤ b && b < 0xC0

-- What may follow a first byte: no overlong forms, no surrogates, nothing above U+10FFFF.
def mayFollow (first second : UInt8) : Bool :=
  isContinuation second &&
    !(first = 0xE0 && second < 0xA0) && !(first = 0xED && 0xA0 ≤ second) &&
    !(first = 0xF0 && second < 0x90) && !(first = 0xF4 && 0x90 ≤ second)

def low (b : UInt8) : Nat := b.toNat % 64

-- The character at the front and the number of its bytes; or the number of bytes that were fit to
-- begin one.
def firstChar (b : UInt8) (rest : List UInt8) : Except (Nat × DecodeReason) (Char × Nat) :=
  if b < 0x80 then .ok (Char.ofNat b.toNat, 1)
  else if b < 0xC2 || 0xF5 ≤ b then .error (1, .invalidStart)
  else
    match rest with
    | [] => .error (1, .unexpectedEnd)
    | second :: rest =>
      if !mayFollow b second then .error (1, .invalidContinuation)
      else if b < 0xE0 then .ok (Char.ofNat (b.toNat % 32 * 64 + low second), 2)
      else
        match rest with
        | [] => .error (2, .unexpectedEnd)
        | third :: rest =>
          if !isContinuation third then .error (2, .invalidContinuation)
          else if b < 0xF0 then
            .ok (Char.ofNat ((b.toNat % 16 * 64 + low second) * 64 + low third), 3)
          else
            match rest with
            | [] => .error (3, .unexpectedEnd)
            | fourth :: _ =>
              if !isContinuation fourth then .error (3, .invalidContinuation)
              else
                .ok (Char.ofNat
                  (((b.toNat % 8 * 64 + low second) * 64 + low third) * 64 + low fourth), 4)

-- `skip` bytes belong to a character that has been read.
def decodeFrom (skip position : Nat) : List UInt8 → Except DecodeFault (List Char)
  | [] => .ok []
  | b :: rest =>
    match skip with
    | skip + 1 => decodeFrom skip (position + 1) rest
    | 0 =>
      match firstChar b rest with
      | .error (size, reason) => .error ⟨b, position, size, reason⟩
      | .ok (c, size) => (decodeFrom (size - 1) (position + 1) rest).map (c :: ·)

def decode (bytes : List UInt8) : Except DecodeFault (List Char) := decodeFrom 0 0 bytes

namespace DecodeFault

def place (fault : DecodeFault) : String :=
  if fault.size = 1 then
    "byte 0x" ++ String.ofList (hexDigits 2 fault.byte.toNat) ++ " in position " ++
      toString fault.position
  else
    "bytes in position " ++ toString fault.position ++ "-" ++
      toString (fault.position + fault.size - 1)

def message (fault : DecodeFault) : String :=
  "'utf-8' codec can't decode " ++ fault.place ++ ": " ++ fault.reason.text

end DecodeFault

-- Every line end becomes a line feed.
def unifyLineEnds : List Char → List Char
  | [] => []
  | '\r' :: '\n' :: rest => '\n' :: unifyLineEnds rest
  | c :: rest => (if c = '\r' then '\n' else c) :: unifyLineEnds rest

end DeclSchema.Text
