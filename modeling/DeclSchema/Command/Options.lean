import DeclSchema.Text.Quoted
import DeclSchema.Text.Similarity

/-!
The options of the command line and how they are written.
-/

namespace DeclSchema.Command

inductive OptionKind where
  | version
  | input
  | output
  | header
  | verbose
  | help
deriving DecidableEq

namespace OptionKind

def all : List OptionKind := [version, input, output, header, verbose, help]

def longName : OptionKind → String
  | version => "--version"
  | input => "--input"
  | output => "--output"
  | header => "--header"
  | verbose => "--verbose"
  | help => "--help"

def letter? : OptionKind → Option Char
  | input => some 'i'
  | output => some 'o'
  | verbose => some 'v'
  | _ => none

def takesValue : OptionKind → Bool
  | input => true
  | output => true
  | header => true
  | _ => false

def ofLongName? (name : String) : Option OptionKind := all.find? (·.longName = name)

def ofLetter? (letter : Char) : Option OptionKind := all.find? (·.letter? = some letter)

end OptionKind

-- An option as it was given; one that takes no value has an empty one.
structure Choice where
  kind : OptionKind
  value : String
deriving DecidableEq

inductive UsageFault where
  | noSuchOption (name : String) (similar : List String)
  | needsValue (name : String)
  | takesNoValue (name : String)
  | missingInput
  | directory (kind : OptionKind) (value : String)
  -- A file name holds a null character. This ends the run without a message.
  | nullInName
  | extraArguments (arguments : List String)
deriving DecidableEq

namespace UsageFault

-- Options with a letter are named by both their names.
def bothNames (kind : OptionKind) : String :=
  match kind.letter? with
  | some letter =>
    Text.quoted kind.longName ++ " / " ++ Text.quoted (String.ofList ['-', letter])
  | none => Text.quoted kind.longName

def suggestion (similar : List String) : String :=
  match similar with
  | [] => ""
  | [name] => " Did you mean " ++ Text.quoted name ++ "?"
  | names => " (Possible options: " ++ ", ".intercalate (names.map Text.quoted) ++ ")"

def message : UsageFault → String
  | noSuchOption name similar =>
    "No such option " ++ Text.quoted name ++ "." ++ suggestion similar
  | needsValue name => "Option " ++ Text.quoted name ++ " requires an argument."
  | takesNoValue name => "Option " ++ Text.quoted name ++ " does not take a value."
  | missingInput => "Missing option " ++ bothNames .input ++ "."
  | directory kind value =>
    "Invalid value for " ++ bothNames kind ++ ": File " ++ Text.quoted value ++
      " is a directory."
  | nullInName => ""
  | extraArguments arguments =>
    "Got unexpected extra argument" ++ (if arguments.length = 1 then "" else "s") ++ " (" ++
      " ".intercalate arguments ++ ")"

-- A fault in the way a single option is written is told without the usage line.
def showsUsage : UsageFault → Bool
  | needsValue _ => false
  | takesNoValue _ => false
  | _ => true

end UsageFault

/-! Suggestions: at most three long names, the most similar ones, in alphabetical order. -/

structure Candidate where
  name : String
  common : Nat
  total : Nat

def Candidate.of (word : String) (kind : OptionKind) : Candidate :=
  let name := kind.longName
  ⟨name, Text.commonItems name.length name.toList word.toList, name.length + word.length⟩

-- The larger share comes first; of equal shares, the name that is later in the alphabet.
def Candidate.precedes (a b : Candidate) : Bool :=
  let left := a.common * b.total
  let right := b.common * a.total
  right < left || (left = right && b.name ≤ a.name)

def similarNames (word : String) : List String :=
  let similar := OptionKind.all.filter fun kind => Text.isSimilar kind.longName.toList word.toList
  let best := ((similar.map (Candidate.of word)).mergeSort Candidate.precedes).take 3
  (best.map Candidate.name).mergeSort (fun a b => a ≤ b)

/-! Arguments. -/

-- What one argument says: options with their values, and perhaps an option, under the name it was
-- given by, whose value is the next argument.
structure Spelled where
  choices : List Choice
  open? : Option (OptionKind × String)

def Spelled.add (choice : Choice) (spelled : Spelled) : Spelled :=
  { spelled with choices := choice :: spelled.choices }

-- Letters in one argument; the first option that takes a value takes all that follows it.
def spelledLetters : List Char → Except UsageFault Spelled
  | [] => .ok ⟨[], none⟩
  | letter :: rest =>
    let name := String.ofList ['-', letter]
    match OptionKind.ofLetter? letter with
    | none => .error (.noSuchOption name [])
    | some kind =>
      if kind.takesValue then
        if rest.isEmpty then .ok ⟨[], some (kind, name)⟩
        else .ok ⟨[⟨kind, String.ofList rest⟩], none⟩
      else (spelledLetters rest).map (·.add ⟨kind, ""⟩)

-- A long name, and what stands behind the equals sign.
def splitEquals (argument : String) : String × Option String :=
  let text := argument.toList
  let name := String.ofList (text.takeWhile (· != '='))
  match text.dropWhile (· != '=') with
  | _ :: value => (name, some (String.ofList value))
  | [] => (name, none)

def spelledOption (argument : String) : Except UsageFault Spelled :=
  let (name, value) := splitEquals argument
  match OptionKind.ofLongName? name, value with
  | some kind, some value =>
    if kind.takesValue then .ok ⟨[⟨kind, value⟩], none⟩ else .error (.takesNoValue name)
  | some kind, none =>
    if kind.takesValue then .ok ⟨[], some (kind, name)⟩ else .ok ⟨[⟨kind, ""⟩], none⟩
  | none, _ =>
    match argument.toList with
    | '-' :: '-' :: _ => .error (.noSuchOption name (similarNames name))
    | text => spelledLetters (text.drop 1)

def isOption (argument : String) : Bool :=
  match argument.toList with
  | '-' :: _ :: _ => true
  | _ => false

structure Parsed where
  choices : List Choice
  extras : List String

namespace Parsed

def addChoices (choices : List Choice) (parsed : Parsed) : Parsed :=
  { parsed with choices := choices ++ parsed.choices }

def addExtra (argument : String) (parsed : Parsed) : Parsed :=
  { parsed with extras := argument :: parsed.extras }

end Parsed

-- Behind two hyphens there are no options.
def parse : List String → Except UsageFault Parsed
  | [] => .ok ⟨[], []⟩
  | argument :: rest =>
    if argument = "--" then .ok ⟨[], rest⟩
    else if isOption argument then
      match spelledOption argument with
      | .error fault => .error fault
      | .ok ⟨choices, none⟩ => (parse rest).map (·.addChoices choices)
      | .ok ⟨choices, some (kind, name)⟩ =>
        match rest with
        | value :: rest => (parse rest).map (·.addChoices (choices ++ [⟨kind, value⟩]))
        | [] => .error (.needsValue name)
    else (parse rest).map (·.addExtra argument)

end DeclSchema.Command
