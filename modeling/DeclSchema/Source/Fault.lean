/-!
What can go wrong without being a failure that the converter tells of. While a well-formed tree is
read: numbers and escapes whose spelling the grammar admits and whose value does not exist. At the
files: names and texts that cannot be handed to the system.
-/

namespace DeclSchema.Source

inductive Fault where
  -- The text is no numeral.
  | notNumeral (text : List Char)
  -- No character has this number.
  | noCharacter (code : Int)
  -- The number of the character does not fit into 32 bits with a sign.
  | codeTooLarge (code : Int)
  -- A node lacks a part that its kind demands.
  | malformed
  -- A file name holds a null character.
  | nullInName
  -- A text holds a half of a surrogate pair, which has no bytes.
  | unencodable
deriving DecidableEq

end DeclSchema.Source
