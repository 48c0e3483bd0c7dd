import DeclSchema.Schema.BlockText
import DeclSchema.Schema.Document
import DeclSchema.Schema.Layout
import DeclSchema.Text.Quoted

/-!
Documents as text.
-/

namespace DeclSchema.Schema

/-! Strings. -/

def isControl (c : Char) : Bool := c.toNat < 0x20 || (0x7F ≤ c.toNat && c.toNat ≤ 0x9F)

-- How a character of a value is written. Halves of characters are written as they are.
def stringChar (c : Char) : List Char :=
  if c = '"' then ['\\', '"']
  else if c = '\\' then ['\\', '\\']
  else if c = '\x08' then ['\\', 'b']
  else if c = '\x0c' then ['\\', 'f']
  else if c = '\n' then ['\\', 'n']
  else if c = '\r' then ['\\', 'r']
  else if c = '\t' then ['\\', 't']
  else if isControl c then '\\' :: 'u' :: (Text.hexDigits 4 c.toNat).map Char.toUpper
  else [c]

def stringPoint : Point → Points
  | .char c => .ofChars (stringChar c)
  | half => [half]

def printString (value : Points) : Points := "\"" ++ value.flatMap stringPoint ++ "\""

-- Three quotes in a row would end a block string.
def escapeQuotes : Points → Points
  | .char '"' :: .char '"' :: .char '"' :: rest => '\\' :: '"' :: '"' :: '"' :: escapeQuotes rest
  | c :: rest => c :: escapeQuotes rest
  | [] => []

def startsIndented (line : Points) : Bool :=
  match line with
  | point :: _ => isIndent point
  | [] => false

-- Without a line feed in front, indentation common to all later lines would be lost.
def needsLeadingLine (lines : List Points) : Bool :=
  match lines with
  | _ :: later => !later.isEmpty && later.all fun line => line.isEmpty || startsIndented line
  | [] => false

def isSingleLine (lines : List Points) : Bool := lines.length ≤ 1

-- A quote or a backslash at the end would run into the closing quotes.
def needsTrailingLine (value : Points) : Bool :=
  let last := value.getLast?
  last = some (.char '\\') || last = some (.char '"')

def printBlock (value : Points) : Points :=
  let lines := splitLines value
  let spread := !isSingleLine lines || blockLimit < value.length || needsTrailingLine value
  let leading := spread && !(isSingleLine lines && startsIndented value) || needsLeadingLine lines
  let quotes := "\"\"\""
  quotes ++ (if leading then "\n" else "") ++ escapeQuotes value ++
    (if spread then "\n" else "") ++ quotes

def Quotation.print (quotation : Quotation) : Points :=
  if quotation.block then printBlock quotation.value else printString quotation.value

/-! Types, values, directives. -/

def TypeRef.print : TypeRef → String
  | named name => name
  | list element => "[" ++ element.print ++ "]"
  | nonNull type => type.print ++ "!"

def printList (items : List Points) : Points :=
  let line : Points := "[" ++ joined ", " items ++ "]"
  if lineLimit < line.length then stacked "[" items "]" else line

def printObject (fields : List Points) : Points :=
  let line : Points := "\x7b " ++ joined ", " fields ++ " \x7d"
  if lineLimit < line.length then block fields else line

mutual
def Value.print : Value → Points
  | .variable name => "$" ++ name
  | .integer text => text
  | .float text => text
  | .string quotation => quotation.print
  | .boolean true => "true"
  | .boolean false => "false"
  | .null => "null"
  | .enumeration name => name
  | .list items => printList (printValues items)
  | .object fields => printObject (printFields fields)
def printValues : List Value → List Points
  | [] => []
  | value :: rest => value.print :: printValues rest
def printFields : List (String × Value) → List Points
  | [] => []
  | (name, value) :: rest => (name ++ ": " ++ value.print) :: printFields rest
end

def Argument.print (argument : Argument) : Points :=
  argument.name ++ ": " ++ argument.value.print

def Directive.print (directive : Directive) : Points :=
  "@" ++ directive.name ++ wrapped "(" (joined ", " (directive.arguments.map Argument.print)) ")"

def printDirectives (directives : List Directive) : Points :=
  words (directives.map Directive.print)

-- A description stands on lines of its own in front of what it describes.
def described (description : Option Quotation) (text : Points) : Points :=
  match description with
  | some quotation => quotation.print ++ "\n" ++ text
  | none => text

def printDefault (default : Option Value) : Points :=
  match default with
  | some value => "= " ++ value.print
  | none => ""

/-! Operations. -/

def printLabel (label : Option String) : String :=
  match label with
  | some label => label ++ ": "
  | none => ""

def printCall (name : String) (arguments : List Argument) : Points :=
  let items := arguments.map Argument.print
  let line : Points := name ++ wrapped "(" (joined ", " items) ")"
  if lineLimit < line.length then name ++ stacked "(" items ")" else line

def printCondition (condition : Option String) : String :=
  match condition with
  | some name => "on " ++ name
  | none => ""

def printSelectionBlock (items : List Points) : Points :=
  if items.isEmpty then "\x7b\x7d" else block items

mutual
def Selection.print : Selection → Points
  | .leaf label name arguments directives =>
    words [printCall (printLabel label ++ name) arguments, printDirectives directives]
  | .branch label name arguments directives selections =>
    words [printCall (printLabel label ++ name) arguments, printDirectives directives,
      printSelectionBlock (printSelections selections)]
  | .spread name directives => "..." ++ name ++ wrapped " " (printDirectives directives) ""
  | .inline condition directives selections =>
    words ["...", printCondition condition, printDirectives directives,
      printSelectionBlock (printSelections selections)]
def printSelections : List Selection → List Points
  | [] => []
  | selection :: rest => selection.print :: printSelections rest
end

def printSelectionSet (selections : List Selection) : Points :=
  printSelectionBlock (printSelections selections)

def VariableDefinition.print (d : VariableDefinition) : Points :=
  described d.description
    ("$" ++ d.name ++ ": " ++ d.type.print ++ wrapped " " (printDefault d.default) "" ++
      wrapped " " (printDirectives d.directives) "")

def printParameters (parameters : List VariableDefinition) : Points :=
  let items := parameters.map VariableDefinition.print
  if items.any isMultiline then wrapped "(\n" (joined "\n" items) "\n)"
  else wrapped "(" (joined ", " items) ")"

-- A query without a name or anything else in front of its selections is written without its
-- keyword.
def printOperation (description : Option Quotation) (operation : Operation) (name : Option String)
    (parameters : List VariableDefinition) (directives : List Directive)
    (selections : List Selection) : Points :=
  let head := described description
    (words [operation.name, name.getD "" ++ printParameters parameters,
      printDirectives directives])
  let front : Points := if head = "query" then [] else head ++ " "
  front ++ printSelectionSet selections

/-! Definitions. -/

def InputValue.print (v : InputValue) : Points :=
  described v.description
    (words [v.name ++ ": " ++ v.type.print, printDefault v.default, printDirectives v.directives])

-- Arguments stand on one line, unless one of them needs more.
def printArguments (arguments : List InputValue) : Points :=
  let items := arguments.map InputValue.print
  if items.any isMultiline then stacked "(" items ")" else wrapped "(" (joined ", " items) ")"

def Field.print (f : Field) : Points :=
  described f.description
    (f.name ++ printArguments f.arguments ++ ": " ++ f.type.print ++
      wrapped " " (printDirectives f.directives) "")

def EnumValue.print (v : EnumValue) : Points :=
  described v.description (words [v.name, printDirectives v.directives])

def RootType.print (root : RootType) : Points := root.operation.name ++ ": " ++ root.type

def printInterfaces (interfaces : List String) : Points :=
  wrapped "implements " (joined " & " (interfaces.map Points.of)) ""

def printMembers (members : List String) : Points :=
  wrapped "= " (joined " | " (members.map Points.of)) ""

def printObjectType (word name : String) (interfaces : List String) (directives : List Directive)
    (fields : List Field) : Points :=
  words [word, name, printInterfaces interfaces, printDirectives directives,
    block (fields.map Field.print)]

def printSchema (word : String) (directives : List Directive) (roots : List RootType) : Points :=
  words [word, printDirectives directives, block (roots.map RootType.print)]

def printScalar (word name : String) (directives : List Directive) : Points :=
  words [word, name, printDirectives directives]

def printUnion (word name : String) (directives : List Directive) (members : List String) :
    Points :=
  words [word, name, printDirectives directives, printMembers members]

def printEnumeration (word name : String) (directives : List Directive)
    (values : List EnumValue) : Points :=
  words [word, name, printDirectives directives, block (values.map EnumValue.print)]

def printInputType (word name : String) (directives : List Directive)
    (fields : List InputValue) : Points :=
  words [word, name, printDirectives directives, block (fields.map InputValue.print)]

def ObjectType.print (word : String) (type : ObjectType) : Points :=
  described type.description
    (printObjectType word type.name type.interfaces type.directives type.fields)

def InputType.print (type : InputType) : Points :=
  described type.description (printInputType "input" type.name type.directives type.fields)

def printDirectiveDefinition (name : String) (arguments : List InputValue)
    (directives : List Directive) (repeatable : Bool) (locations : List String) : Points :=
  "directive @" ++ name ++ printArguments arguments ++
    wrapped " " (printDirectives directives) "" ++
    (if repeatable then " repeatable" else "") ++ " on " ++ joined " | " (locations.map Points.of)

def Extension.print : Extension → Points
  | schema directives roots => printSchema "extend schema" directives roots
  | scalar name directives => printScalar "extend scalar" name directives
  | object name interfaces directives fields =>
    printObjectType "extend type" name interfaces directives fields
  | interface name interfaces directives fields =>
    printObjectType "extend interface" name interfaces directives fields
  | union name directives members => printUnion "extend union" name directives members
  | enumeration name directives values => printEnumeration "extend enum" name directives values
  | input name directives fields => printInputType "extend input" name directives fields
  | directive name directives => words ["extend directive @" ++ name, printDirectives directives]

def Definition.print : Definition → Points
  | operation description kind name parameters directives selections =>
    printOperation description kind name parameters directives selections
  | fragment description name condition directives selections =>
    described description
      ("fragment " ++ name ++ " on " ++ condition ++ " " ++
        wrapped "" (printDirectives directives) " " ++ printSelectionSet selections)
  | schema description directives roots =>
    described description (printSchema "schema" directives roots)
  | scalar description name directives =>
    described description (printScalar "scalar" name directives)
  | object type => type.print "type"
  | interface type => type.print "interface"
  | union description name directives members =>
    described description (printUnion "union" name directives members)
  | enumeration description name directives values =>
    described description (printEnumeration "enum" name directives values)
  | input type => type.print
  | directive description name arguments directives repeatable locations =>
    described description
      (printDirectiveDefinition name arguments directives repeatable locations)
  | extension e => e.print

-- Definitions are kept apart by an empty line.
def Document.print (document : Document) : Points :=
  joined "\n\n" (document.definitions.map Definition.print)

end DeclSchema.Schema
