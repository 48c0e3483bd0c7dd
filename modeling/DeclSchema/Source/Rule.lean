import DeclSchema.Source.Node
import DeclSchema.Source.Lexeme
import DeclSchema.Text.Bytes

/-!
Rules: readers that start at a cursor and either fail or return what they read with the cursor
behind it. Between two tokens lies a gap of blanks and comments; the comments are kept as nodes
in front of the token that follows them.
-/

namespace DeclSchema.Source

structure Cursor where
  rest : List Char
  place : Place
deriving Inhabited

namespace Cursor

def start (text : List Char) : Cursor := ⟨text, .origin⟩

def skip (c : Cursor) (n : Nat) : Cursor := ⟨c.rest.drop n, c.place.afterAll (c.rest.take n)⟩

-- The text between a cursor and a later one.
def textTo (c : Cursor) (later : Cursor) : List Char :=
  Text.takeBytes (later.place.offset - c.place.offset) c.rest

-- The name that begins right here, if any.
def nameHere (c : Cursor) : List Char := c.rest.take (Lexeme.name c.rest)

def startsWith (c : Cursor) (text : String) : Bool := text.toList.isPrefixOf c.rest

end Cursor

-- What lies between two tokens: the comments, whether a line ends in it outside of a block
-- comment, and the cursor behind it.
structure Gap where
  comments : List Node
  lineBreak : Bool
  after : Cursor

theorem comment_nil : Lexeme.comment [] = 0 := rfl

def Cursor.gap (c : Cursor) : Gap :=
  let blanks := Lexeme.runOf Lexeme.isBlank c.rest
  let broken := (c.rest.take blanks).contains '\n'
  let here := c.skip blanks
  match h : Lexeme.comment here.rest with
  | 0 => ⟨[], broken, here⟩
  | n + 1 =>
    let more := (here.skip (n + 1)).gap
    ⟨Node.leaf .comment here.place (here.rest.take (n + 1)) :: more.comments,
      broken || more.lineBreak, more.after⟩
termination_by c.rest.length
decreasing_by
  simp only [Cursor.skip, List.length_drop]
  cases size : List.drop (Lexeme.runOf Lexeme.isBlank c.rest) c.rest with
  | nil =>
    simp only [here, blanks, Cursor.skip, size, comment_nil] at h
    omega
  | cons x xs =>
    have shorter := congrArg List.length size
    simp only [List.length_drop, List.length_cons] at shorter
    omega

def Rule (α : Type) : Type := Cursor → Option (α × Cursor)

namespace Rule

variable {α β : Type}

instance : Monad Rule where
  pure a := fun c => some (a, c)
  bind p f := fun c =>
    match p c with
    | none => none
    | some (a, next) => f a next

instance : OrElse (Rule α) where
  orElse p q := fun c =>
    match p c with
    | none => q () c
    | found => found

theorem bind_run (p : Rule α) (f : α → Rule β) (c : Cursor) :
    (p >>= f) c = (p c).bind fun found => f found.1 found.2 := by
  dsimp only [bind]
  cases p c <;> rfl

theorem orElse_run (p q : Rule α) (c : Cursor) : (p <|> q) c = (p c).or (q c) := by
  dsimp only [HOrElse.hOrElse, OrElse.orElse]
  cases p c <;> rfl

def fail : Rule α := fun _ => none

def here : Rule Cursor := fun c => some (c, c)

def guard (p : Cursor → Bool) : Rule Unit := fun c => if p c then some ((), c) else none

-- Reads without moving.
def ahead (p : Rule α) : Rule α := fun c => (p c).map fun found => (found.1, c)

def optional (p : Rule (List α)) : Rule (List α) := p <|> pure []

-- The gap, whose comments become nodes.
def gap : Rule (List Node) := fun c => some (c.gap.comments, c.gap.after)

-- One lexeme as a leaf, with the comments in front of it.
def lexeme (kind : Kind) (size : List Char → Nat) : Rule (List Node) := fun c =>
  let g := c.gap
  match size g.after.rest with
  | 0 => none
  | n + 1 =>
    some (g.comments ++ [Node.leaf kind g.after.place (g.after.rest.take (n + 1))],
      g.after.skip (n + 1))

def literalSize (text : String) (rest : List Char) : Nat :=
  if text.toList.isPrefixOf rest then text.length else 0

-- Punctuation, whatever follows it.
def mark (text : String) : Rule (List Node) := lexeme .mark (literalSize text)

-- Punctuation that is not the beginning of one of some longer signs.
def markNot (text : String) (longer : List String) : Rule (List Node) :=
  lexeme .mark fun rest =>
    if longer.any (·.toList.isPrefixOf rest) then 0 else literalSize text rest

def nameSize (accept : List Char → Bool) (rest : List Char) : Nat :=
  let size := Lexeme.name rest
  if accept (rest.take size) then size else 0

-- A key word: a whole name spelled like this.
def word (text : String) : Rule (List Node) := lexeme .mark (nameSize (· == text.toList))

def wordOf (texts : List String) : Rule (List Node) :=
  lexeme .mark (nameSize fun found => texts.any (·.toList == found))

def anyName (kind : Kind) : Rule (List Node) := lexeme kind Lexeme.name

-- A node behind a gap, with the comments in front of it.
def item (p : Rule Node) : Rule (List Node) := fun c =>
  let g := c.gap
  match p g.after with
  | none => none
  | some (n, next) => some (g.comments ++ [n], next)

def itemAs (role : Role) (p : Rule Node) : Rule (List Node) := fun c =>
  let g := c.gap
  match p g.after with
  | none => none
  | some (n, next) => some (g.comments ++ [n.playing role], next)

-- A node that begins at `start` and whose children are `left` and what the rule reads.
def grow (kind : Kind) (start : Cursor) (left : List Node) (p : Rule (List Node)) : Rule Node :=
  fun c =>
    match p c with
    | none => none
    | some (children, next) =>
      some (⟨kind, none, start.place, start.textTo next, false, left ++ children⟩, next)

def node (kind : Kind) (p : Rule (List Node)) : Rule Node := fun c => grow kind c [] p c

def role (r : Role) (p : Rule (List Node)) : Rule (List Node) := fun c =>
  (p c).map fun found =>
    (found.1.map fun n => if n.isContent then n.playing r else n, found.2)

def seq (rules : List (Rule (List Node))) : Rule (List Node) :=
  rules.foldr (fun p rest => do return (← p) ++ (← rest)) (pure [])

-- As many as can be read; a reading that does not move ends the list.
def manyLoop (p : Rule (List Node)) : Nat → Rule (List Node)
  | 0 => pure []
  | fuel + 1 => fun c =>
    match p c with
    | none => some ([], c)
    | some (found, next) =>
      if next.place.offset = c.place.offset then some (found, next)
      else (manyLoop p fuel next).map fun rest => (found ++ rest.1, rest.2)

def many (p : Rule (List Node)) : Rule (List Node) := fun c =>
  manyLoop p (c.rest.length + 1) c

-- One or more, divided by commas, where a last comma may stand alone.
def listed (p : Rule (List Node)) : Rule (List Node) :=
  seq [p, many (seq [mark ",", p]), optional (mark ",")]

-- Lets a node grow to the right for as long as the step can be taken.
def climb (step : Node → Rule Node) : Nat → Node → Rule Node
  | 0, left => pure left
  | fuel + 1, left => fun c =>
    match step left c with
    | none => some (left, c)
    | some (grown, next) => climb step fuel grown next

def climbing (first : Rule Node) (step : Cursor → Node → Rule Node) : Rule Node := fun c =>
  match first c with
  | none => none
  | some (left, next) => climb (step c) (next.rest.length + 1) left next

-- Whether the coming token stands on the line of the token before it.
def sameLine (c : Cursor) : Bool := !c.gap.lineBreak

end Rule

end DeclSchema.Source
