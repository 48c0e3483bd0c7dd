import DeclSchema.Schema.Document

/-!
Filters choose definitions by how their names begin and end.
-/

namespace DeclSchema

open Schema

-- An empty text is the same as none.
structure Filter where
  excludeStart : Option String
  excludeEnd : Option String
  includeStart : Option String
  includeEnd : Option String
deriving DecidableEq

namespace Filter

def startsWith (name text : String) : Bool := text.toList.isPrefixOf name.toList

def endsWith (name text : String) : Bool := text.toList.isSuffixOf name.toList

-- Whether a test fails for a text that was given.
def refused (test : String → Bool) (text : Option String) : Bool :=
  match text with
  | some text => !text.isEmpty && !test text
  | none => false

-- Operation types and definitions without a name are always kept.
def keepsName (filter : Filter) : Option String → Bool
  | none => true
  | some name =>
    name = "Query" || name = "Mutation" ||
      !(refused (!startsWith name ·) filter.excludeStart ||
        refused (!endsWith name ·) filter.excludeEnd ||
        refused (startsWith name ·) filter.includeStart ||
        refused (endsWith name ·) filter.includeEnd)

def keeps (filter : Filter) (definition : Definition) : Bool := filter.keepsName definition.name?

def apply (filter : Filter) (document : Document) : Document :=
  ⟨document.definitions.filter filter.keeps⟩

end Filter

end DeclSchema
