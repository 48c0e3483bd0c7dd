import DeclSchema.Finish.Filter
import DeclSchema.Finish.Header

/-!
What is done to an assembled schema before and after it is printed.
-/

namespace DeclSchema

open Schema

structure Finish where
  filters : List Filter
  headers : List String

namespace Finish

def none : Finish := ⟨[], []⟩

def addFilter (finish : Finish) (filter : Filter) : Finish :=
  { finish with filters := finish.filters ++ [filter] }

def addHeader (finish : Finish) (header : String) : Finish :=
  { finish with headers := finish.headers ++ [header] }

def onDocument (finish : Finish) (document : Document) : Document :=
  finish.filters.foldl (fun document filter => filter.apply document) document

-- The header that was added last comes first.
def onText (finish : Finish) (text : Points) : Points :=
  finish.headers.foldl (fun text header => Header.add header text) text

end Finish

end DeclSchema
