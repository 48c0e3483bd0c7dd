import DeclSchema.Assembly.Binding
import DeclSchema.Assembly.Merging
import DeclSchema.Schema.Printer

/-!
The final schema is assembled from an extracted document: repeated operation types are merged,
`Query` goes to the end, fields of the operation types get the arguments that were declared for
them, object types used in arguments become input types, and argument declarations are dropped.
-/

namespace DeclSchema.Assembly

open Schema

def debug (message : String) : Logged Unit := Logged.write .debug .assembler message

-- The definitions, and what has been done to them so far.
structure State where
  definitions : List Definition
  bound : List String
  reclassified : List String
  pruned : List String

namespace State

def start (document : Document) : State := ⟨document.definitions, [], [], []⟩

def merge (name : String) (state : State) : Logged State := do
  let count := (objectsNamed name state.definitions).length
  if count < 2 then return state
  else
    debug ("Merging " ++ toString count ++ " definitions of type " ++ name)
    return { state with definitions := mergeNamed name state.definitions }

def reposition (state : State) : State :=
  { state with definitions := moveLast "Query" state.definitions }

-- The first object type of that name becomes an input type.
def reclassify (state : State) (name : String) : Logged State :=
  match state.definitions.find? (·.isObjectNamed name) with
  | some (.object type) => do
    debug ("Reclassified " ++ name ++ " as an input type")
    return { state with
      definitions :=
        replaceFirst (·.isObjectNamed name) (.input type.toInput) state.definitions
      reclassified := state.reclassified ++ [name] }
  | _ => return state

def bind (operation : String) (index : ArgsIndex) (state : State) : Logged State :=
  match state.definitions.find? (·.isObjectNamed operation) with
  | some (.object type) => do
    let found := boundFields operation index type.fields
    found.forM fun b => debug ("Bound " ++ b.declaration.name ++ " to " ++ b.label operation)
    let fields := type.fields.map (bindField operation index)
    let bound := { state with
      definitions :=
        replaceFirst (·.isObjectNamed operation) (.object { type with fields }) state.definitions
      bound := state.bound ++ found.map (·.label operation) }
    (found.flatMap Bound.argumentTypes).foldlM reclassify bound
  | _ => return state

def hasArgsName (definition : Definition) : Bool :=
  match definition.name? with
  | some name => isArgsName name
  | none => false

def prune (state : State) : State :=
  { state with
    definitions := state.definitions.filter (!hasArgsName ·)
    pruned := state.pruned ++ (state.definitions.filter hasArgsName).filterMap Definition.name? }

end State

-- All stages in order.
def run (document : Document) : Logged State := do
  let state ← (State.start document).merge "Query"
  let state ← state.merge "Mutation"
  let state := state.reposition
  let index ← ArgsIndex.of state.definitions
  let state ← state.bind "Mutation" index
  let state ← state.bind "Query" index
  return state.prune

def State.document (state : State) : Document := ⟨state.definitions⟩

-- Single stages, in any order. `bind` uses the index that was built last.
inductive Step where
  | merge (name : String)
  | reposition
  | index
  | bind (operation : String)
  | reclassify (name : String)
  | prune
  | run

structure Session where
  document : Document
  state : State
  index : ArgsIndex

namespace Session

def start (document : Document) : Session := ⟨document, .start document, []⟩

def step (session : Session) : Step → Logged Session
  | .merge name => do return { session with state := ← session.state.merge name }
  | .reposition => return { session with state := session.state.reposition }
  | .index => do return { session with index := ← ArgsIndex.of session.state.definitions }
  | .bind operation => do
    return { session with state := ← session.state.bind operation session.index }
  | .reclassify name => do return { session with state := ← session.state.reclassify name }
  | .prune => return { session with state := session.state.prune }
  | .run => do return { session with state := ← Assembly.run session.document }

end Session

end DeclSchema.Assembly
