import DeclSchema.Schema.Fault

/-!
Steps in which rules read a list of tokens. A step past a token already looks at the next one, so
broken text is met as soon as it is next, before anything else about the token passed is decided.
-/

namespace DeclSchema.Schema

abbrev Reading (α : Type) := StateT (List Token) (Except Fault) α

namespace Reading

variable {α : Type}

def fail (fault : Fault) : Reading α := fun _ => .error fault

-- What remains, if its first token is whole.
def ready (tokens : List Token) : Except Fault (List Token) :=
  match tokens with
  | .broken fault :: _ => .error (.scan fault)
  | _ => .ok tokens

def peek : Reading (Option Token) := fun tokens => .ok (tokens.head?, tokens)

-- The token after the next one.
def peekSecond : Reading (Option Token) := fun tokens => do
  let later ← ready tokens.tail
  return (later.head?, tokens)

def advance : Reading Unit := fun tokens => do
  let later ← ready tokens.tail
  return ((), later)

def unexpected : Reading α := do fail (.unexpected (← peek))

def isNext (symbol : Symbol) : Reading Bool := do return (← peek) = some (.symbol symbol)

def expect (symbol : Symbol) : Reading Unit := do
  let next ← peek
  if next = some (.symbol symbol) then advance
  else fail (.expected (.symbol symbol) next)

-- Passes the symbol if it is next.
def accept (symbol : Symbol) : Reading Bool := do
  if ← isNext symbol then
    advance
    return true
  else return false

def name : Reading String := do
  match ← peek with
  | some (.name text) =>
    advance
    return text
  | next => fail (.expected .name next)

def keyword (word : String) : Reading Unit := do
  let next ← peek
  if next = some (.name word) then advance
  else fail (.expected (.keyword word) next)

def acceptKeyword (word : String) : Reading Bool := do
  if (← peek) = some (.name word) then
    advance
    return true
  else return false

def ending : Reading Unit := do
  match ← peek with
  | none => return ()
  | next => fail (.expected .ending next)

-- Items up to a closing symbol. An item takes a token or fails, so there are no more items than
-- tokens.
def itemsWithin (closing : Symbol) (item : Reading α) : Nat → Reading (List α)
  | 0 => unexpected
  | steps + 1 => do
    if ← accept closing then return []
    else
      let first ← item
      let more ← itemsWithin closing item steps
      return first :: more

def items (closing : Symbol) (item : Reading α) : Reading (List α) := do
  itemsWithin closing item ((← get).length + 1)

-- Any number of items in brackets.
def any (opening closing : Symbol) (item : Reading α) : Reading (List α) := do
  expect opening
  items closing item

-- One or more items in brackets.
def many (opening closing : Symbol) (item : Reading α) : Reading (List α) := do
  expect opening
  let first ← item
  let more ← items closing item
  return first :: more

-- One or more items in brackets, or nothing.
def optionalMany (opening closing : Symbol) (item : Reading α) : Reading (List α) := do
  if ← isNext opening then many opening closing item else return []

def separatedWithin (separator : Symbol) (item : Reading α) : Nat → Reading (List α)
  | 0 => unexpected
  | steps + 1 => do
    let first ← item
    if ← accept separator then
      let more ← separatedWithin separator item steps
      return first :: more
    else return [first]

-- One or more items with a separator between them and, if wanted, in front of the first.
def separated (separator : Symbol) (item : Reading α) : Reading (List α) := do
  let _ ← accept separator
  separatedWithin separator item ((← get).length + 1)

-- Items as long as they begin with the symbol.
def whileNextWithin (symbol : Symbol) (item : Reading α) : Nat → Reading (List α)
  | 0 => unexpected
  | steps + 1 => do
    if ← isNext symbol then
      let first ← item
      let more ← whileNextWithin symbol item steps
      return first :: more
    else return []

def whileNext (symbol : Symbol) (item : Reading α) : Reading (List α) := do
  whileNextWithin symbol item ((← get).length + 1)

end Reading

end DeclSchema.Schema
