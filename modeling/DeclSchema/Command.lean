import DeclSchema.Command.Help
import DeclSchema.Command.Options
import DeclSchema.FileConversion

/-!
The command line as a function of its arguments and the files. Only the schema itself goes to the
standard output; all messages go to the error output.
-/

namespace DeclSchema.Command

open Files

structure Result where
  exitCode : Nat
  out : String
  err : String
  tree : Tree

-- What a run is to do. The last value of an option counts.
structure Request where
  input : String
  output : Option String
  header : Option String
  verbose : Bool

inductive Task where
  | version
  | help
  | convert (request : Request)

def valueOf (kind : OptionKind) (choices : List Choice) : Option String :=
  ((choices.filter (·.kind = kind)).map Choice.value).getLast?

-- Of the two options that end the run at once, the first one counts.
def immediate? (choices : List Choice) : Option Task :=
  choices.findSome? fun choice =>
    match choice.kind with
    | .version => some .version
    | .help => some .help
    | _ => none

def namesDirectory (tree : Tree) (value : String) : Bool :=
  !value.isEmpty && tree.isDirectory (Path.of value)

-- The options that name files, each once, in the order in which they were first given.
def fileOptions (choices : List Choice) : List OptionKind :=
  ((choices.map Choice.kind).filter fun kind => kind = .input || kind = .output).eraseDups

def checkFile (tree : Tree) (choices : List Choice) (kind : OptionKind) :
    Except UsageFault Unit :=
  match valueOf kind choices with
  | some value =>
    if (Path.of value).holdsNull then .error .nullInName
    else if namesDirectory tree value then .error (.directory kind value)
    else .ok ()
  | none => .ok ()

def request (tree : Tree) (parsed : Parsed) : Except UsageFault Request := do
  (fileOptions parsed.choices).forM (checkFile tree parsed.choices)
  match valueOf .input parsed.choices with
  | none => throw .missingInput
  | some input =>
    if !parsed.extras.isEmpty then throw (.extraArguments parsed.extras)
    return ⟨input, valueOf .output parsed.choices, valueOf .header parsed.choices,
      parsed.choices.any (·.kind = .verbose)⟩

def task (tree : Tree) (arguments : List String) : Except UsageFault Task := do
  let parsed ← parse arguments
  match immediate? parsed.choices with
  | some task => return task
  | none => return .convert (← request tree parsed)

/-! Messages. -/

-- The error output shows a half of a pair by its code.
def shownPoint : Point → List Char
  | .char c => [c]
  | half => '\\' :: 'u' :: Text.hexDigits 4 half.code

instance : CoeTail Points (List Char) := ⟨fun text => text.flatMap shownPoint⟩

instance : CoeTail Points String := ⟨fun text => String.ofList text⟩

def line (text : String) : String := text ++ "\n"

def recordLine (record : Record) : String :=
  line (record.level.name ++ " gql_tsschema.core." ++ record.component.name ++ ": " ++
    record.message)

-- Without `verbose` only warnings are shown.
def shown (verbose : Bool) (record : Record) : Bool :=
  verbose || Level.warning.rank ≤ record.level.rank

def recordLines (verbose : Bool) (records : List Record) : String :=
  String.join ((records.filter (shown verbose)).map recordLine)

def announcement (input : Path) (output : Option Path) : String :=
  line ("Input: " ++ input.display) ++
    line ("Output: " ++ (output.map Path.display).getD "<stdout>")

def argumentLines (table : ArgsTable) : String :=
  String.join (table.entries.map fun (name, arguments) => line ("    " ++ name ++ arguments))

def summary (conversion : Conversion) : String :=
  let table := conversion.extraction.argsTable
  line ("  Fragments: " ++ toString conversion.extraction.fragmentCount) ++
    line ("  Argument declarations: " ++ toString table.names.length) ++
    argumentLines table ++
    line ("  Bound fields: " ++ toString conversion.bound.length) ++
    line ("  Input types: " ++
      (if conversion.reclassified.isEmpty then "-" else ", ".intercalate conversion.reclassified)) ++
    line ("  Definitions: " ++ toString conversion.document.definitions.length)

def success (path : Path) : String :=
  line ("GraphQL schema successfully regenerated at: " ++ path.display)

def stopMessage : Stop → String
  | .failure failure => line ("Error: " ++ failure.message)
  | .fault _ => ""

/-! Runs. -/

def onlyIf (condition : Bool) (text : String) : String := if condition then text else ""

-- An empty path or header is the same as none.
def given (value : Option String) : Option String := value.filter (!·.isEmpty)

def finishOf (request : Request) : Finish := ⟨[], (given request.header).toList⟩

def runConversion (directory : String) (request : Request) (tree : Tree) : Result :=
  let full (text : String) := (Path.of text).resolve tree.here directory
  let input := full request.input
  let output := (given request.output).map full
  let destination := output.map fun path => (⟨path, path.display⟩ : Destination)
  let (after, run) := convertFile (finishOf request) input destination tree
  let before := onlyIf request.verbose (announcement input output) ++
    recordLines request.verbose run.records
  match run.outcome with
  | .error stop => ⟨1, "", before ++ stopMessage stop, after⟩
  | .ok conversion =>
    let err := before ++ onlyIf request.verbose (summary conversion)
    match output with
    | some path => ⟨0, "", err ++ success path, after⟩
    | none =>
      match conversion.sdl.string? with
      | some text => ⟨0, text, err, after⟩
      -- The standard output takes bytes only.
      | none => ⟨1, "", err, after⟩

def refuse (fault : UsageFault) (tree : Tree) : Result :=
  match fault with
  | .nullInName => ⟨1, "", "", tree⟩
  | _ => ⟨2, "", onlyIf fault.showsUsage usageHint ++ line ("Error: " ++ fault.message), tree⟩

-- `directory` is the full name of the working directory.
def run (directory : String) (arguments : List String) (tree : Tree) : Result :=
  match task tree arguments with
  | .error fault => refuse fault tree
  | .ok .version => ⟨0, versionText, "", tree⟩
  | .ok .help => ⟨0, helpText, "", tree⟩
  | .ok (.convert request) => runConversion directory request tree

-- The paths that a run can look at or write to.
def paths (arguments : List String) : List Path :=
  match parse arguments with
  | .ok parsed =>
    ([OptionKind.input, .output].filterMap (valueOf · parsed.choices)).map Path.of
  | .error _ => []

end DeclSchema.Command
