import DeclSchema.Text.LowerCase
import DeclSchema.Text.WordCharacter

/-!
Names of argument declarations. A declaration `QuerygetUserArgs` holds the arguments of the field
`getUser` of `Query`. Letter case does not matter in such a name, and it is compared by its
lower-case form.
-/

namespace DeclSchema

-- Whether a character is a letter in either case; two letters have spellings outside ASCII.
def matchesLetter (letter c : Char) : Bool :=
  c.toLower = letter || (letter = 'i' && (c = 'ı' || c = 'İ')) || (letter = 's' && c = 'ſ')

def matchesWord : List Char → List Char → Bool
  | [], [] => true
  | letter :: word, c :: text => matchesLetter letter c && matchesWord word text
  | _, _ => false

-- One line feed at the end of a name is ignored.
def dropLineFeed (text : List Char) : List Char :=
  if text.getLast? = some '\n' then text.dropLast else text

-- A name between a word in front and `args` behind.
def between? (word text : List Char) : Option (List Char × List Char) :=
  let ending := "args".toList
  let size := word.length
  let middle := (text.drop size).take (text.length - size - ending.length)
  if matchesWord word (text.take size) &&
      matchesWord ending ((text.drop size).drop (text.length - size - ending.length)) &&
      !middle.isEmpty && middle.all Text.isWordCharacter
  then some (text.take size, middle)
  else none

-- The operation type and the field of an argument declaration, as written in its name.
def splitArgsName (name : String) : Option (String × String) :=
  let text := dropLineFeed name.toList
  match between? "mutation".toList text with
  | some (kind, field) => some (String.ofList kind, String.ofList field)
  | none =>
    match between? "query".toList text with
    | some (kind, field) => some (String.ofList kind, String.ofList field)
    | none => none

def isArgsName (name : String) : Bool := (splitArgsName name).isSome

def argsKey (name : String) : String := Text.toLower name

-- The key of the declaration that belongs to a field of an operation type.
def operationArgsKey (operation field : String) : String := argsKey (operation ++ field ++ "Args")

end DeclSchema
